import Mathlib
import Retrace.CommandLine.Run
import Retrace.Proofs.CommandLine.ContextLines
import Retrace.Proofs.CommandLine.Pretty
import Retrace.Proofs.Json.Frames
import Retrace.Proofs.Tracer.Overruns

/-!
# What a run gives

A run gives either all the traced frames or nothing. What may end it early comes before anything is
traced: the arguments, the settings and the input, which has to be the text of a list of frames
(`Accepts`). If they are all right the run succeeds whatever becomes of the frames, and what it
writes is read back as the traced frames, laid out in lines or not (`run_allOrNothing`).

The one thing that may end a run while it traces is a time to live for which the clock has no time
(`InTime`). The number of lines to show is never too large, as the settings bound it.
-/

namespace Retrace

namespace CommandLine

/-! ### What a run is asked for -/

/-- The bytes of the input: the file's, if there is one at its path, or the standard input. -/
def inputData? (around : Surroundings) (a : Arguments) : Option Bytes :=
  match inputFile? a with
  | none => some around.standardInput
  | some path =>
    match around.disk.find? path with
    | .ok (.file data) => some data
    | _ => none

/-- The arguments are accepted, the settings load, and the input is text, that of a list of frames
in JSON. -/
structure Accepts (around : Surroundings) (arguments : List String) (a : Arguments)
    (settings : Settings) (frames : List StackFrame) : Prop where
  arguments : Arguments.parse? around.environment arguments = .ok a
  settings : a.settings? around.disk around.environment = .ok settings
  input : ∃ text : List Char, inputData? around a = some (Utf8.encode text) ∧
    StackFrame.readTrace (Utf8.encode text) = .ok (some frames)

/-- What tracing the frames of a run gives and leaves, as if no time could be too large. -/
def tracing (around : Surroundings) (release : Release) (settings : Settings)
    (frames : List StackFrame) : List TracedFrame × Tracer.State World :=
  (World.tracer settings (.fetcher (.select frames)) (.shared false false)).frames release frames
    ⟨.ofSettings settings, World.make around.disk around.network⟩

/-- The clock has the times at which what the run keeps would expire. -/
def InTime (around : Surroundings) (release : Release) (settings : Settings)
    (frames : List StackFrame) : Prop :=
  (tracing around release settings frames).2.cache.overran = false

section Input

variable {around : Surroundings} {a : Arguments} {data : Bytes}

/-- The input is read if it is text. -/
lemma readInput_eq_ok_iff :
    readInput around (inputFile? a) = .ok data ↔
      ∃ text, data = Utf8.encode text ∧ inputData? around a = some (Utf8.encode text) := by
  unfold readInput inputData?
  cases inputFile? a with
  | none =>
    simp only
    constructor
    · intro h
      split at h
      · next text htext =>
        have hbytes := Utf8.decode?_eq_ok_iff.mp htext
        have hdata : around.standardInput = data := Except.ok.inj h
        exact ⟨text, hdata.symm.trans hbytes, congrArg some hbytes⟩
      · cases h
    · rintro ⟨text, rfl, hinput⟩
      rw [Option.some.inj hinput, Utf8.decode?_encode]
  | some path =>
    simp only [Disk.readText?, Disk.read?]
    cases hfind : around.disk.find? path with
    | error e => simp
    | ok node =>
      cases node with
      | directory => simp
      | file bytes =>
        simp only
        constructor
        · intro h
          cases htext : Utf8.decode? bytes with
          | error e =>
            rw [htext] at h
            cases h
          | ok text =>
            rw [htext] at h
            have hdata : Utf8.encode text = data := Except.ok.inj h
            exact ⟨text, hdata.symm, congrArg some (Utf8.decode?_eq_ok_iff.mp htext)⟩
        · rintro ⟨text, rfl, hinput⟩
          rw [Option.some.inj hinput, Utf8.decode?_encode]

end Input

section Preparation

variable {around : Surroundings} {arguments : List String} {a : Arguments} {settings : Settings}
  {frames : List StackFrame}

/-- A run gets as far as tracing frames if it is asked for properly. -/
lemma prepare_eq_ok_iff :
    prepare around arguments = .ok (a, settings, some frames) ↔
      Accepts around arguments a settings frames := by
  constructor
  · intro h
    unfold prepare at h
    split at h
    · cases h
    next b harguments =>
    split at h
    · cases h
    next loaded hsettings =>
    split at h
    · cases h
    next data hinput =>
    split at h
    · cases h
    next stack hstack =>
    obtain ⟨rfl, hrest⟩ := Prod.mk.inj (Except.ok.inj h)
    obtain ⟨rfl, rfl⟩ := Prod.mk.inj hrest
    obtain ⟨text, rfl, hdata⟩ := readInput_eq_ok_iff.mp hinput
    exact ⟨harguments, hsettings, text, hdata, hstack⟩
  · intro h
    obtain ⟨text, hdata, hstack⟩ := h.input
    have hinput : readInput around (inputFile? a) = .ok (Utf8.encode text) :=
      readInput_eq_ok_iff.mpr ⟨text, rfl, hdata⟩
    unfold prepare
    simp only [h.arguments, h.settings, hinput, hstack]

/-- Settings that a run is asked for properly with show no more lines than there may be. -/
lemma Accepts.contextLines_le (h : Accepts around arguments a settings frames) :
    settings.contextLines ≤ 50 :=
  Arguments.contextLines_le_of_settings? h.arguments h.settings

/-- The frames come out as they are traced, if the clock has the times for it. -/
lemma trace_eq (around : Surroundings) (release : Release) (frames : List StackFrame)
    (hlines : settings.contextLines ≤ 50) :
    (World.trace settings release (some frames) (.shared false false)
        (World.make around.disk around.network)).1 =
      if (tracing around release settings frames).2.cache.overran then .error .overflow
      else .ok (tracing around release settings frames).1 := by
  let tracer := World.tracer settings (.fetcher (.select frames)) (.shared false false)
  have hfits : tracer.contextLines + 2 ^ 32 ≤ 2 ^ 64 :=
    (Nat.add_le_add_right hlines _).trans (by decide)
  have hwindows : (tracing around release settings frames).1.any tracer.windowOverruns = false :=
    Tracer.any_windowOverruns_eq_false hfits _
  have hrun := Tracer.run_fst tracer release frames
    ⟨.ofSettings settings, World.make around.disk around.network⟩
  rw [← tracing, hwindows, Bool.or_false, Tracer.run_snd] at hrun
  exact hrun

/-- A run that is asked for properly gives what tracing gives. -/
lemma run_eq (h : Accepts around arguments a settings frames) {world : World}
    {result : Except Tracer.Error (List TracedFrame)}
    (htrace : World.trace settings a.release (some frames) (.shared false false)
      (World.make around.disk around.network) = (result, world)) :
    run around arguments =
      ⟨(result.mapError Error.trace).map (outputText a), world.opened⟩ := by
  unfold run
  rw [prepare_eq_ok_iff.mpr h]
  dsimp only
  rw [htrace]
  cases result <;> rfl

/-- A run that is asked for properly, and for which the clock has the times, writes the traced
frames. -/
lemma run_of_accepts (h : Accepts around arguments a settings frames)
    (hin : InTime around a.release settings frames) :
    ∃ traced opened, (World.trace settings a.release (some frames) (.shared false false)
        (World.make around.disk around.network)).1 = .ok traced ∧
      run around arguments = ⟨.ok (outputText a traced), opened⟩ := by
  have htrace := trace_eq around a.release frames h.contextLines_le
  rw [if_neg (Bool.eq_false_iff.mp hin)] at htrace
  exact ⟨_, _, htrace, run_eq h (Prod.ext htrace rfl)⟩

/-- A run that is asked for properly, and for which the clock does not have the times, ends early
and not well. -/
lemma result_of_late (h : Accepts around arguments a settings frames)
    (hlate : ¬ InTime around a.release settings frames) :
    (run around arguments).result = .error (.trace .overflow) := by
  have htrace := trace_eq around a.release frames h.contextLines_le
  rw [if_pos (Bool.eq_true_of_not_eq_false hlate)] at htrace
  exact congrArg Outcome.result (run_eq h (Prod.ext htrace rfl))

/-- The clock has the times where it goes on for six readings a frame and the time to live. -/
lemma inTime_of_lt {release : Release}
    (h : 6 * frames.length + settings.cacheTtlSecs * Cache.unitsPerSecond < ExpiringMap.clockEnd) :
    InTime around release settings frames := by
  have clock := World.clock_services (.fetcher (.select frames)) settings.maxArtifactBytes
    (.shared false false)
  have counts := World.counts_services (.fetcher (.select frames)) settings.maxArtifactBytes
    (.shared false false)
  have hreach : Tracer.State.InReach (settings.cacheTtlSecs * Cache.unitsPerSecond) World.clock
      ⟨.ofSettings settings, World.make around.disk around.network⟩ :=
    Tracer.State.inReach_of_overran_eq_false le_rfl le_rfl rfl
  refine Tracer.overran_frames_eq_false counts clock hreach release frames ?_
  exact (Nat.add_le_add_right (Nat.zero_add _).le _).trans_lt h

/-- A run that succeeds is asked for properly. -/
lemma exists_accepts_of_run {text : String} (h : (run around arguments).result = .ok text) :
    ∃ a settings frames, Accepts around arguments a settings frames := by
  unfold run at h
  split at h
  · cases h
  · next a settings stack hprepare =>
    cases stack with
    | none => cases h
    | some frames => exact ⟨a, settings, frames, prepare_eq_ok_iff.mp hprepare⟩

/-- A run that ends for help has help asked for in its arguments. -/
lemma help_of_run (h : (run around arguments).result = .error (.usage .help)) :
    Arguments.parse? around.environment arguments = .error .help := by
  unfold run at h
  split at h
  · next e hprepare =>
    obtain rfl : e = .usage .help := Except.error.inj h
    unfold prepare at hprepare
    split at hprepare
    · next e harguments =>
      obtain rfl : e = .help := Error.usage.inj (Except.error.inj hprepare)
      exact harguments
    · split at hprepare
      · cases hprepare
      · split at hprepare
        · next e hinput =>
          obtain rfl : e = .usage .help := Except.error.inj hprepare
          unfold readInput at hinput
          split at hinput
          · split at hinput <;> cases hinput
          · split at hinput <;> cases hinput
        · split at hprepare <;> cases hprepare
  · next a settings stack hprepare =>
    dsimp only at h
    split at h <;> cases h

end Preparation

/-- Only a request for help ends a run early and yet well. -/
lemma Error.exitCode_eq_zero_iff {e : Error} : e.exitCode = 0 ↔ e = .usage .help := by
  unfold exitCode
  split
  · simp
  · next usage hne =>
    have hnot : usage ≠ .help := fun h => hne (by rw [h])
    simp [hnot]
  · simp
  · next hne _ =>
    constructor
    · intro h
      cases h
    · rintro rfl
      exact absurd rfl (hne .help)

/-! ### What it writes -/

/-- A text with a line feed after it, which is read as the traced frames. -/
def Writes (output : String) (traced : List TracedFrame) : Prop :=
  ∃ document : List Char, output = String.ofList document ++ "\n" ∧
    Json.read (.list TracedFrame.format.reader) (Utf8.encode document) = .ok traced

/-- The output is read back as the traced frames, in either layout. -/
lemma writes_outputText (a : Arguments) (traced : List TracedFrame) :
    Writes (outputText a traced) traced := by
  refine ⟨_, rfl, ?_⟩
  exact TracedFrame.read_objects (if a.pretty then .indented else .compact) traced

/-- **All or nothing.** Where help is not asked for, a run ends with status zero exactly if its
arguments are accepted, its settings load, its input is the text of a list of frames and the clock
has the times at which something is to expire, which it has for every time to live that does not
reach its end. Then it writes one document with the frames as they are traced, one for each frame
and in their order, whatever becomes of them; and with arguments that differ only in the layout,
such as the flag for it in front, the document is read as the same. Otherwise it writes nothing. -/
theorem run_allOrNothing (around : Surroundings) (arguments : List String)
    (hhelp : Arguments.parse? around.environment arguments ≠ .error .help) :
    ((run around arguments).exitCode = 0 ↔
      ∃ a settings frames, Accepts around arguments a settings frames ∧
        InTime around a.release settings frames) ∧
    (∀ a settings frames, Accepts around arguments a settings frames →
      InTime around a.release settings frames →
      let tracer := World.tracer settings (.fetcher (.select frames)) (.shared false false)
      let start : Tracer.State World :=
        ⟨.ofSettings settings, World.make around.disk around.network⟩
      ∃ traced, (World.trace settings a.release (some frames) (.shared false false)
          (World.make around.disk around.network)).1 = .ok traced ∧
        traced.length = frames.length ∧
        (∀ i : ℕ, traced[i]? = frames[i]?.map fun f => Tracer.outcome f
          (tracer.frame a.release f (tracer.frames a.release (frames.take i) start).2).1) ∧
        Writes (run around arguments).output traced ∧
        (∀ others pretty, Arguments.parse? around.environment others = .ok { a with pretty } →
          (run around others).exitCode = 0 ∧ Writes (run around others).output traced) ∧
        (a.pretty = false → Arguments.parse? around.environment ("--pretty" :: arguments) =
          .ok { a with pretty := true })) ∧
    (∀ a settings frames, Accepts around arguments a settings frames →
      6 * frames.length + settings.cacheTtlSecs * Cache.unitsPerSecond < ExpiringMap.clockEnd →
        InTime around a.release settings frames) ∧
    ((run around arguments).exitCode ≠ 0 → (run around arguments).output = "") := by
  refine ⟨⟨?_, ?_⟩, ?_, fun _ _ _ _ => inTime_of_lt, ?_⟩
  · intro hzero
    cases hresult : (run around arguments).result with
    | ok text =>
      obtain ⟨a, settings, frames, haccepts⟩ := exists_accepts_of_run hresult
      refine ⟨a, settings, frames, haccepts, by_contra fun hlate => ?_⟩
      cases hresult.symm.trans (result_of_late haccepts hlate)
    | error e =>
      unfold Outcome.exitCode at hzero
      rw [hresult] at hzero
      have he : e = .usage .help := Error.exitCode_eq_zero_iff.mp hzero
      exact absurd (help_of_run (hresult.trans (congrArg Except.error he))) hhelp
  · rintro ⟨a, settings, frames, haccepts, hin⟩
    obtain ⟨traced, opened, -, hrun⟩ := run_of_accepts haccepts hin
    rw [hrun]
    rfl
  · intro a settings frames haccepts hin tracer start
    obtain ⟨traced, opened, htrace, hrun⟩ := run_of_accepts haccepts hin
    have hframes : (tracing around a.release settings frames).1 = traced := by
      have heq := trace_eq around a.release frames haccepts.contextLines_le
      rw [if_neg (Bool.eq_false_iff.mp hin), htrace] at heq
      exact (Except.ok.inj heq).symm
    refine ⟨traced, htrace, ?_, ?_, ?_, ?_, ?_⟩
    · rw [← hframes]
      exact Tracer.length_frames tracer a.release frames start
    · intro i
      rw [← hframes]
      exact Tracer.getElem?_frames tracer a.release frames start i
    · rw [hrun]
      exact writes_outputText a traced
    · intro others pretty hothers
      have hothersAccepts : Accepts around others { a with pretty } settings frames :=
        ⟨hothers, haccepts.settings, haccepts.input⟩
      obtain ⟨same, openedToo, hsame, hrunToo⟩ := run_of_accepts hothersAccepts hin
      obtain rfl : traced = same := Except.ok.inj (htrace.symm.trans hsame)
      rw [hrunToo]
      exact ⟨rfl, writes_outputText _ traced⟩
    · exact Arguments.parse?_pretty haccepts.arguments
  · intro hnonzero
    cases hresult : (run around arguments).result with
    | ok text =>
      unfold Outcome.exitCode at hnonzero
      rw [hresult] at hnonzero
      exact absurd rfl hnonzero
    | error e =>
      unfold Outcome.output
      rw [hresult]

/-- The trace of one frame in a file that is nowhere. -/
def lostFrames : List StackFrame := [⟨"lost.js", 1, 0⟩]

/-- A disk without files and a network that is down, with that trace as the standard input. -/
def emptySurroundings : Surroundings where
  disk := ⟨fun _ => .error .missing⟩
  environment := []
  network := .down
  standardInput := Utf8.encode (Json.Layout.compact.objects (lostFrames.map StackFrame.members))

/-- Where nothing is set the settings are the defaults. -/
lemma load?_defaults (disk : Disk) : Settings.load? disk [] none = .ok .default := by
  rw [Settings.load?_eq]
  rfl

/-- Without arguments the trace is read from there, and the settings are the defaults. -/
lemma accepts_emptySurroundings :
    Accepts emptySurroundings [] ⟨none, ⟨1⟩, none, none, none, false, false⟩ .default
      lostFrames := by
  have hsettings := load?_defaults emptySurroundings.disk
  have hinput := StackFrame.readTrace_objects .compact lostFrames
  refine ⟨rfl, ?_, _, rfl, hinput⟩
  rw [Arguments.settings?]
  simp only [emptySurroundings] at hsettings ⊢
  rw [hsettings]
  rfl

/-- The run succeeds although its only frame cannot be traced, and the frame is passed on. -/
theorem run_lostFrames :
    (run emptySurroundings []).exitCode = 0 ∧
      ∃ traced, Writes (run emptySurroundings []).output traced ∧ traced.length = 1 ∧
        Writes (run emptySurroundings ["--pretty"]).output traced := by
  have hhelp : Arguments.parse? emptySurroundings.environment [] ≠ .error .help := by
    rw [accepts_emptySurroundings.arguments]
    simp
  obtain ⟨hzero, htraced, htimes, -⟩ := run_allOrNothing emptySurroundings [] hhelp
  have hin := htimes _ _ _ accepts_emptySurroundings (by decide)
  obtain ⟨traced, -, hlength, -, hwrites, hothers, hpretty⟩ :=
    htraced _ _ _ accepts_emptySurroundings hin
  refine ⟨hzero.mpr ⟨_, _, _, accepts_emptySurroundings, hin⟩, traced, hwrites, hlength, ?_⟩
  exact (hothers ["--pretty"] true (hpretty rfl)).2

end CommandLine

end Retrace
