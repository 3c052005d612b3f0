import Mathlib
import Retrace.Proofs.CommandLine.Reading
import Retrace.Proofs.Settings.Sources

/-!
# The number of lines on the command line

The number of lines that arguments ask for is one more layer of settings, on top of all others
(`Arguments.layer`). It is put in when the settings below it are loaded and checked already. So it
decides over the file and the environment, but what it overrules has to be in its bounds all the
same: `settings?_under_flag` says that the arguments count as a layer exactly as long as it is.

The number is itself in its bounds, whatever the arguments are (`contextLines_le_of_parse?`).
-/

namespace Retrace

namespace Settings

/-- Settings with another number of lines. -/
def withLines (s : Settings) (n : ℕ) : Settings := { s with contextLines := n }

@[simp] lemma contextLines_withLines (s : Settings) (n : ℕ) :
    (s.withLines n).contextLines = n := rfl

@[simp] lemma requestTimeoutSecs_withLines (s : Settings) (n : ℕ) :
    (s.withLines n).requestTimeoutSecs = s.requestTimeoutSecs := rfl

/-- Another number of lines leaves all other settings. -/
lemma Setting.value_withLines {f : Setting} (hf : f ≠ .contextLines) (s : Settings) (n : ℕ) :
    f.value (s.withLines n) = f.value s := by
  cases f with
  | contextLines => exact absurd rfl hf
  | _ => rfl

/-- If a number of lines is in its bounds, checking before another one takes its place comes to
checking behind that. -/
lemma map_withLines_check {s : Settings} {n : ℕ} (hs : s.contextLines ≤ 50) (hn : n ≤ 50) :
    (check s).map (·.withLines n) = check (s.withLines n) := by
  have hbelow : ¬ maxContextLines < s.contextLines := Nat.not_lt.mpr hs
  have habove : ¬ maxContextLines < n := Nat.not_lt.mpr hn
  rw [check, check, contextLines_withLines, requestTimeoutSecs_withLines, if_neg hbelow,
    if_neg habove]
  split <;> rfl

end Settings

namespace Arguments

/-! ### Numbers that are accepted -/

namespace Progress

/-- The number of lines that was read, if one was, is not greater than there may be. -/
def Fits (p : Progress) : Prop := ∀ n ∈ p.contextLines, n ≤ maxContextLines

/-- A step that gives no number of lines past the bound. -/
def KeepsFit (step : Progress → Except Error Progress) : Prop :=
  ∀ ⦃p q : Progress⦄, step p = .ok q → p.Fits → q.Fits

/-- A step that leaves the number of lines. -/
lemma keepsFit_of_contextLines_eq {step : Progress → Except Error Progress}
    (h : ∀ p q, step p = .ok q → q.contextLines = p.contextLines) : KeepsFit step := by
  intro p q hstep hp
  unfold Fits
  rw [h p q hstep]
  exact hp

/-- One step after the other. -/
lemma KeepsFit.andThen {first second : Progress → Except Error Progress} (hfirst : KeepsFit first)
    (hsecond : KeepsFit second) :
    KeepsFit fun p =>
      match first p with
      | .error e => .error e
      | .ok p => second p := by
  intro p q h hp
  cases hmiddle : first p with
  | error e =>
    simp only [hmiddle] at h
    cases h
  | ok r =>
    simp only [hmiddle] at h
    exact hsecond h (hfirst hmiddle hp)

/-- Giving a field its value. -/
lemma keepsFit_set (field : Field) (text : String) : KeepsFit fun p => p.set field text := by
  cases field with
  | contextLines =>
    -- the one step that gives a number of lines, which is compared with the bound
    intro p q h hp
    simp only [set] at h
    split at h
    · split at h
      · next n _ hn =>
        obtain rfl := Except.ok.inj h
        intro k hk
        obtain rfl : n = k := Option.some.inj hk
        exact hn
      · cases h
    · cases h
  | version =>
    refine keepsFit_of_contextLines_eq fun p q h => ?_
    obtain rfl := Except.ok.inj h
    rfl
  | _ =>
    refine keepsFit_of_contextLines_eq fun p q h => ?_
    simp only [set] at h
    split at h <;> cases h
    rfl

/-- Giving a field its only value. -/
lemma keepsFit_takeIn (field : Field) (text : String) : KeepsFit fun p => p.takeIn field text := by
  intro p q h
  simp only [takeIn] at h
  split at h
  · cases h
  · exact keepsFit_set field text h

/-- Taking in the value of the pending field. -/
lemma keepsFit_settle : KeepsFit settle := by
  intro p q h hp
  unfold settle at h
  split at h
  · obtain rfl := Except.ok.inj h
    exact hp
  · cases h
  · next field text _ => exact keepsFit_takeIn field text h hp

/-- Raising a flag. -/
lemma keepsFit_raise (flag : Flag) : KeepsFit fun p => p.raise flag := by
  refine keepsFit_of_contextLines_eq fun p q h => ?_
  cases flag with
  | help => cases h
  | _ =>
    simp only [raise] at h
    split at h <;> cases h
    rfl

/-- The name of a file. -/
lemma keepsFit_positional (argument : String) : KeepsFit fun p => p.positional argument := by
  intro p q h
  simp only [positional] at h
  split at h
  · cases h
  · have hfile : KeepsFit fun p =>
        .ok { p with pending := some (.input, argument), hasInput := true } :=
      keepsFit_of_contextLines_eq fun p q h => by cases h; rfl
    exact keepsFit_settle.andThen hfile h

/-- An argument that starts with no dash or is a dash. -/
lemma keepsFit_plain (argument : String) : KeepsFit fun p => p.plain argument := by
  intro p q h hp
  simp only [plain] at h
  split at h
  · obtain rfl := Except.ok.inj h
    exact hp
  · exact keepsFit_positional argument h hp

/-- The environment. -/
lemma keepsFit_fromVariable (environment : Settings.Environment) (field : Field) (name : String) :
    KeepsFit fun p => p.fromVariable environment field name := by
  intro p q h hp
  simp only [fromVariable] at h
  split at h
  · obtain rfl := Except.ok.inj h
    exact hp
  · split at h
    · obtain rfl := Except.ok.inj h
      exact hp
    · next text _ => exact keepsFit_set field text h hp

/-- No step of reading gives a number of lines past the bound. -/
lemma stepwise_keepsFit : Stepwise KeepsFit where
  andThen := KeepsFit.andThen
  fail e := fun p q h => by cases h
  settle := keepsFit_settle
  takeIn := keepsFit_takeIn
  await field := keepsFit_of_contextLines_eq fun p q h => by cases h; rfl
  raise := keepsFit_raise
  positional := keepsFit_positional
  plain := keepsFit_plain
  fromVariable := keepsFit_fromVariable

end Progress

open Progress

/-- The number of lines that arguments ask for, if they are accepted, is in its bounds. -/
lemma contextLines_le_of_parse? {environment : Settings.Environment} {arguments : List String}
    {a : Arguments} {n : ℕ} (h : parse? environment arguments = .ok a)
    (hn : a.contextLines = some n) : n ≤ maxContextLines := by
  rw [parse?_eq_map] at h
  cases hread : readOn environment arguments .start with
  | error e =>
    rw [hread] at h
    cases h
  | ok p =>
    rw [hread] at h
    obtain rfl : p.finish = a := Except.ok.inj h
    have hstart : Progress.start.Fits := fun n hn => by cases hn
    exact stepwise_keepsFit.readOn environment arguments hread hstart n hn

/-! ### One more layer -/

open Settings (Layer Setting check effective)

/-- The layer that arguments give, which set the number of lines and nothing else. -/
def layer (a : Arguments) : Layer := { Layer.empty with contextLines := a.contextLines }

/-- The layers below the arguments: the one of the file that they name and the one of the
environment. -/
structure HasLayers (disk : Disk) (environment : Settings.Environment) (a : Arguments)
    (file vars : Layer) : Prop where
  file : Layer.ofNamed? disk a.config = .ok file
  vars : Layer.ofEnvironment? environment = .ok vars

variable {disk : Disk} {environment : Settings.Environment} {a : Arguments} {file vars : Layer}
  {n : ℕ}

/-- With the layer of arguments on top the number of lines is theirs and all else is as below. -/
lemma settings_merge_layer (hn : a.contextLines = some n) :
    ((file.merge vars).merge a.layer).settings = (effective file vars).withLines n := by
  rw [← Settings.settings_merge_eq_effective]
  apply Setting.ext_value
  intro f
  rw [Setting.value_settings, Setting.inLayer_merge]
  cases f with
  | contextLines =>
    have hlayer : Setting.contextLines.inLayer a.layer = some n := hn
    rw [hlayer]
    rfl
  | _ => rfl

/-- Whatever settings accepted arguments lead to, their number of lines is in its bounds. -/
lemma contextLines_le_of_settings? {arguments : List String} {s : Settings}
    (harguments : parse? environment arguments = .ok a)
    (h : a.settings? disk environment = .ok s) : s.contextLines ≤ Settings.maxContextLines := by
  rw [settings?] at h
  cases hload : Settings.load? disk environment a.config with
  | error e =>
    rw [hload] at h
    cases h
  | ok below =>
    rw [hload] at h
    cases hlines : a.contextLines with
    | some n =>
      rw [hlines] at h
      obtain rfl := Except.ok.inj h
      exact contextLines_le_of_parse? harguments hlines
    | none =>
      rw [hlines] at h
      obtain rfl : below = s := Except.ok.inj h
      exact Settings.contextLines_le_of_load? hload

/-- What the arguments lead to is checked below them. -/
lemma settings?_eq_map (h : HasLayers disk environment a file vars) (hn : a.contextLines = some n) :
    a.settings? disk environment =
      (check (effective file vars)).map (·.withLines n) := by
  rw [settings?, Settings.load?_eq, h.file, h.vars, hn]
  rfl

/-- There are settings if those below the arguments are valid, with their own number of lines. -/
lemma settings?_eq_ok_iff (h : HasLayers disk environment a file vars)
    (hn : a.contextLines = some n) {s : Settings} :
    a.settings? disk environment = .ok s ↔
      s = (effective file vars).withLines n ∧
        (effective file vars).contextLines ≤ 50 ∧ 0 < (effective file vars).requestTimeoutSecs := by
  rw [settings?_eq_map h hn]
  cases hcheck : check (effective file vars) with
  | error e =>
    have hinvalid : ¬ ((effective file vars).contextLines ≤ 50 ∧
        0 < (effective file vars).requestTimeoutSecs) := by
      intro hvalid
      rw [Settings.check_eq_ok_iff.mpr ⟨rfl, hvalid⟩] at hcheck
      cases hcheck
    simp [Except.map, hinvalid]
  | ok t =>
    obtain ⟨rfl, hvalid⟩ := Settings.check_eq_ok_iff.mp hcheck
    simp only [Except.map, Except.ok.injEq]
    exact ⟨fun hs => ⟨hs.symm, hvalid⟩, fun hs => hs.1.symm⟩

/-- **The number of lines on the command line.**  If arguments are accepted that ask for a number of
lines, and the layers below them can be read, then the settings have this number, and are the same
as for any other layers that agree on all else. The arguments count as one more layer on top exactly
if the number that they overrule is in its bounds: then there are settings if all else that is in
effect is valid. Otherwise there are none, and the number that is overruled is what is wrong. -/
theorem settings?_under_flag {arguments : List String}
    (harguments : parse? environment arguments = .ok a) (hn : a.contextLines = some n)
    (hlayers : HasLayers disk environment a file vars) :
    n ≤ 50 ∧
    (∀ s, a.settings? disk environment = .ok s → s.contextLines = n) ∧
    (∀ (disk' : Disk) (environment' : Settings.Environment) (a' : Arguments) (file' vars' : Layer),
      a'.contextLines = some n → HasLayers disk' environment' a' file' vars' →
      (∀ f, f ≠ .contextLines → Setting.value f (effective file' vars') =
        Setting.value f (effective file vars)) →
      ∀ s s', a.settings? disk environment = .ok s → a'.settings? disk' environment' = .ok s' →
        s' = s) ∧
    (a.settings? disk environment = check ((file.merge vars).merge a.layer).settings ↔
      (effective file vars).contextLines ≤ 50) ∧
    ((∃ s, a.settings? disk environment = .ok s) ↔
      (effective file vars).contextLines ≤ 50 ∧ 0 < (effective file vars).requestTimeoutSecs) ∧
    (50 < (effective file vars).contextLines →
      a.settings? disk environment =
        .error (.tooManyContextLines (effective file vars).contextLines)) := by
  have hbound : n ≤ 50 := contextLines_le_of_parse? harguments hn
  have hsettings := settings?_eq_map hlayers hn
  have hwide : 50 < (effective file vars).contextLines →
      a.settings? disk environment =
        .error (.tooManyContextLines (effective file vars).contextLines) := by
    intro hlt
    rw [hsettings, Settings.check_eq_tooMany_iff.mpr ⟨hlt, rfl⟩]
    rfl
  refine ⟨hbound, ?_, ?_, ⟨?_, ?_⟩, ?_, hwide⟩
  · intro s hs
    obtain ⟨rfl, -⟩ := (settings?_eq_ok_iff hlayers hn).mp hs
    rfl
  · intro disk' environment' a' file' vars' hn' hlayers' hsame s s' hs hs'
    obtain ⟨rfl, -⟩ := (settings?_eq_ok_iff hlayers hn).mp hs
    obtain ⟨rfl, -⟩ := (settings?_eq_ok_iff hlayers' hn').mp hs'
    apply Setting.ext_value
    intro f
    by_cases hf : f = .contextLines
    · rw [hf]
      rfl
    · rw [Setting.value_withLines hf, Setting.value_withLines hf, hsame f hf]
  · intro heq
    by_contra hlt
    -- the number on top is in its bounds, so that nothing there is refused for it
    rw [hwide (Nat.not_le.mp hlt), settings_merge_layer hn] at heq
    obtain ⟨hlines, -⟩ := Settings.check_eq_tooMany_iff.mp heq.symm
    exact absurd hbound (Nat.not_le.mpr hlines)
  · intro hle
    rw [hsettings, settings_merge_layer hn, Settings.map_withLines_check hle hbound]
  · constructor
    · rintro ⟨s, hs⟩
      exact ((settings?_eq_ok_iff hlayers hn).mp hs).2
    · intro hvalid
      exact ⟨_, (settings?_eq_ok_iff hlayers hn).mpr ⟨rfl, hvalid⟩⟩

/-- Arguments that name a file and ask for two lines. -/
def twoLines : List String := ["--config", "loom.toml", "--context-lines", "2"]

/-- What they ask for. -/
def askedTwoLines : Arguments := ⟨none, ⟨1⟩, none, some "loom.toml", some 2, false, false⟩

/-- A file with too many lines leaves no settings to arguments that ask for two, although they
overrule the file and all else is valid. -/
theorem wideFile_stops_flag :
    parse? [] twoLines = .ok askedTwoLines ∧
      HasLayers Settings.wideDisk [] askedTwoLines ⟨some 99, none, none, some 12, none⟩ .empty ∧
      0 < (effective ⟨some 99, none, none, some 12, none⟩ .empty).requestTimeoutSecs ∧
      askedTwoLines.settings? Settings.wideDisk [] = .error (.tooManyContextLines 99) := by
  have hlayers :
      HasLayers Settings.wideDisk [] askedTwoLines ⟨some 99, none, none, some 12, none⟩ .empty :=
    ⟨by decide +kernel, rfl⟩
  refine ⟨by decide +kernel, hlayers, by decide, ?_⟩
  rw [settings?_eq_map hlayers rfl]
  rfl

/-- An environment that asks for yet another number of lines. -/
def nineLines : Settings.Environment := [(Settings.variableOf "CONTEXT_LINES", "9")]

/-- Where the environment overrules the file, both are overruled, and it is all the same which
number the environment gives. -/
theorem settings?_narrowed :
    parse? Settings.narrowEnvironment twoLines = .ok askedTwoLines ∧
      askedTwoLines.contextLines = some 2 ∧
      HasLayers Settings.wideDisk Settings.narrowEnvironment askedTwoLines
        ⟨some 99, none, none, some 12, none⟩ ⟨some 7, none, none, none, none⟩ ∧
      HasLayers Settings.wideDisk nineLines askedTwoLines
        ⟨some 99, none, none, some 12, none⟩ ⟨some 9, none, none, none, none⟩ ∧
      askedTwoLines.settings? Settings.wideDisk Settings.narrowEnvironment =
        .ok ⟨2, 30, 52428800, 12, 3600⟩ ∧
      askedTwoLines.settings? Settings.wideDisk nineLines = .ok ⟨2, 30, 52428800, 12, 3600⟩ := by
  have harguments : ∀ environment ∈ [Settings.narrowEnvironment, nineLines],
      parse? environment twoLines = .ok askedTwoLines := by
    decide +kernel
  have hseven : HasLayers Settings.wideDisk Settings.narrowEnvironment askedTwoLines
      ⟨some 99, none, none, some 12, none⟩ ⟨some 7, none, none, none, none⟩ :=
    ⟨by decide +kernel, by decide +kernel⟩
  have hnine : HasLayers Settings.wideDisk nineLines askedTwoLines
      ⟨some 99, none, none, some 12, none⟩ ⟨some 9, none, none, none, none⟩ :=
    ⟨by decide +kernel, by decide +kernel⟩
  obtain ⟨-, -, hothers, hlayer, -, -⟩ :=
    settings?_under_flag (harguments _ (by simp)) rfl hseven
  obtain ⟨-, -, -, -, hvalid, -⟩ := settings?_under_flag (harguments _ (by simp)) rfl hnine
  have hsettings : askedTwoLines.settings? Settings.wideDisk Settings.narrowEnvironment =
      .ok ⟨2, 30, 52428800, 12, 3600⟩ := hlayer.mpr (by decide)
  obtain ⟨s, hs⟩ := hvalid.mpr ⟨by decide, by decide⟩
  have hsame : ∀ f : Setting, f ≠ .contextLines →
      f.value (effective ⟨some 99, none, none, some 12, none⟩ ⟨some 9, none, none, none, none⟩) =
        f.value
          (effective ⟨some 99, none, none, some 12, none⟩ ⟨some 7, none, none, none, none⟩) := by
    rintro (_ | _ | _ | _ | _) hf
    · exact absurd rfl hf
    all_goals rfl
  obtain rfl := hothers _ _ _ _ _ rfl hnine hsame _ s hsettings hs
  exact ⟨harguments _ (by simp), rfl, hseven, hnine, hsettings, hs⟩

end Arguments

end Retrace
