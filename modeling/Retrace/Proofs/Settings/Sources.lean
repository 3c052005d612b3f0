import Mathlib
import Retrace.Proofs.Basics
import Retrace.Proofs.Settings.Layers
import Retrace.Settings.Source

/-!
# Loading settings

The settings of a run are put together from the layers of its sources, a file and the environment,
and checked only when all layers are in (`load?_layered`). The environment decides over the file and
both over the defaults, so that a value of the file that is out of its bounds does no harm where the
environment sets another one. The order in which the sources are given does not matter, as each has
its own precedence (`inOrder_of_perm`).
-/

namespace Retrace

namespace Settings

variable {disk : Disk} {environment other : Environment} {path name : String}
  {layer : Layer} {entries : Toml.Entries}

/-! ### One setting after the other -/

/-- The layer that a reading of each setting gives. -/
def gather? {ε : Type} (read? : Setting → Except ε (Option ℕ)) : Except ε Layer := do
  let contextLines ← read? .contextLines
  let requestTimeoutSecs ← read? .requestTimeoutSecs
  let maxArtifactBytes ← read? .maxArtifactBytes
  let cacheCapacity ← read? .cacheCapacity
  let cacheTtlSecs ← read? .cacheTtlSecs
  return ⟨contextLines, requestTimeoutSecs, maxArtifactBytes, cacheCapacity, cacheTtlSecs⟩

/-- There is a layer if each of the settings can be read. -/
lemma gather?_eq_ok_iff {ε : Type} {read? : Setting → Except ε (Option ℕ)} :
    gather? read? = .ok layer ↔ ∀ f : Setting, read? f = .ok (f.inLayer layer) := by
  simp only [gather?, bind_eq_ok_iff, pure, Except.pure, Except.ok.injEq]
  constructor
  · rintro ⟨_, hlines, _, htimeout, _, hbytes, _, hcapacity, _, httl, rfl⟩ (_ | _ | _ | _ | _)
    exacts [hlines, htimeout, hbytes, hcapacity, httl]
  · intro h
    exact ⟨_, h .contextLines, _, h .requestTimeoutSecs, _, h .maxArtifactBytes, _,
      h .cacheCapacity, _, h .cacheTtlSecs, rfl⟩

/-! ### The environment -/

/-- The name of the variable that gives a setting. -/
def Setting.inEnvironment : Setting → String
  | .contextLines => variableOf "CONTEXT_LINES"
  | .requestTimeoutSecs => variableOf "REQUEST_TIMEOUT_SECS"
  | .maxArtifactBytes => variableOf "MAX_ARTIFACT_BYTES"
  | .cacheCapacity => variableOf "CACHE_CAPACITY"
  | .cacheTtlSecs => variableOf "CACHE_TTL_SECS"

/-- What a variable is set to; one that is empty counts as not set. -/
def setTo? (environment : Environment) (name : String) : Option String :=
  (environment.get? name).filter fun value => value ≠ ""

/-- A variable gives a number by what it is set to. -/
lemma number?_eq (environment : Environment) (name : String) :
    number? environment name =
      match setTo? environment name with
      | none => .ok none
      | some value =>
        match Integer.readUpTo Integer.maxUnsigned64 (Text.trim value.toList) with
        | .ok n => .ok (some n)
        | .error _ => .error (.notNumber name value) := by
  rw [number?, setTo?]
  cases environment.get? name with
  | none => rfl
  | some value =>
    by_cases hempty : value = ""
    · subst hempty
      rfl
    · have hfilter : (some value).filter (fun value => value ≠ "") = some value := by
        simp [Option.filter, hempty]
      rw [hfilter]
      cases hread : Integer.readUpTo Integer.maxUnsigned64 (Text.trim value.toList) <;>
        simp [hempty, hread]

/-- A variable gives nothing exactly if it is not set. -/
lemma number?_eq_none_iff :
    number? environment name = .ok none ↔ setTo? environment name = none := by
  rw [number?_eq]
  cases setTo? environment name with
  | none => simp
  | some value =>
    simp only [reduceCtorEq, iff_false]
    split <;> simp

/-- The environment gives each setting by its variable. -/
lemma ofEnvironment?_eq_gather? (environment : Environment) :
    Layer.ofEnvironment? environment =
      gather? fun f => number? environment f.inEnvironment := rfl

/-- Only what the variables are set to matters. -/
lemma ofEnvironment?_congr (h : ∀ name, setTo? environment name = setTo? other name) :
    Layer.ofEnvironment? environment = Layer.ofEnvironment? other := by
  simp only [ofEnvironment?_eq_gather?, number?_eq, h]

/-! ### The file -/

/-- The key of a setting in the table of a file. -/
def Setting.inFile : Setting → String
  | .contextLines => "context_lines"
  | .requestTimeoutSecs => "request_timeout_secs"
  | .maxArtifactBytes => "max_artifact_bytes"
  | .cacheCapacity => "cache_capacity"
  | .cacheTtlSecs => "cache_ttl_secs"

/-- A table gives each setting by its entry. -/
lemma ofEntries?_eq_gather? (entries : Toml.Entries) :
    Layer.ofEntries? entries = gather? fun f => entry? entries f.inFile := rfl

/-- The file at a path has a table of settings with these entries. -/
def HasTable (disk : Disk) (path : String) (entries : Toml.Entries) : Prop :=
  disk.has path ∧ ∃ text document making, disk.readText? path = .ok text ∧
    Toml.parse? text = .ok document ∧ document.get? tableName = some (.table making entries)

/-- The layer of a file is the one of its table. -/
lemma ofEntries?_of_hasTable (htable : HasTable disk path entries)
    (h : Layer.ofFile? disk path = .ok layer) : Layer.ofEntries? entries = .ok layer := by
  obtain ⟨hhas, text, document, making, htext, hparse, hget⟩ := htable
  have hdocument : Layer.ofDocument? document = Layer.ofEntries? entries := by
    rw [Layer.ofDocument?, hget]
  have hread : Toml.parse? text >>= Layer.ofDocument? = Layer.ofEntries? entries := by
    rw [hparse, ← hdocument]
    rfl
  rw [Layer.ofFile?, if_pos hhas, htext] at h
  simp only [hread] at h
  cases hentries : Layer.ofEntries? entries with
  | error e => simp [hentries] at h
  | ok given => simpa [hentries] using h

/-! ### The order of the sources -/

/-- Sources that differ in precedence come in one order, in whatever order they are given. -/
lemma inOrder_of_perm {given sources : List Source} (h : given.Perm sources)
    (hdistinct : (sources.map Source.precedence).Nodup) : inOrder given = inOrder sources := by
  have hgiven : (inOrder given).Perm sources := (List.mergeSort_perm _ _).trans h
  have hsources : (inOrder sources).Perm sources := List.mergeSort_perm _ _
  refine List.Perm.eq_of_pairwise ?_ (pairwise_mergeSort_key Source.precedence given)
    (pairwise_mergeSort_key Source.precedence sources) (hgiven.trans hsources.symm)
  -- sources of one precedence are the same, so that there is no choice between orders
  intro s t hs ht hst hts
  exact List.inj_on_of_nodup_map hdistinct (hgiven.mem_iff.mp hs) (hsources.mem_iff.mp ht)
    (le_antisymm hst hts)

/-- The sources of a run with a file, from the lowest precedence to the highest. -/
def sourcesWith (path : String) : List Source := [.defaults, .file path, .environment]

/-- In whatever order they are given, the environment comes after the file. -/
lemma inOrder_of_perm_sourcesWith {given : List Source} (h : given.Perm (sourcesWith path)) :
    inOrder given = sourcesWith path := by
  rw [inOrder_of_perm h (by simp [sourcesWith, Source.precedence])]
  exact List.mergeSort_of_pairwise (by simp [sourcesWith, Source.precedence])

/-! ### What is loaded -/

/-- The settings with the given values. -/
def ofValues (value : Setting → ℕ) : Settings where
  contextLines := value .contextLines
  requestTimeoutSecs := value .requestTimeoutSecs
  maxArtifactBytes := value .maxArtifactBytes
  cacheCapacity := value .cacheCapacity
  cacheTtlSecs := value .cacheTtlSecs

@[simp] lemma value_ofValues (f : Setting) (value : Setting → ℕ) :
    f.value (ofValues value) = value f := by
  cases f <;> rfl

/-- The settings by which the environment decides over the file, and the file over the defaults. -/
def effective (file vars : Layer) : Settings :=
  ofValues fun f => ((f.inLayer vars).or (f.inLayer file)).getD (f.value default)

lemma settings_merge_eq_effective (file vars : Layer) :
    (file.merge vars).settings = effective file vars := by
  apply Setting.ext_value
  intro f
  rw [effective, value_ofValues, Setting.value_settings, Setting.inLayer_merge]

/-- The sources are asked for their layers one after the other, the file before the environment. -/
lemma ofSources?_of_perm {given : List Source} (h : given.Perm (sourcesWith path)) :
    ofSources? disk environment given =
      (do
        let file ← Layer.ofFile? disk path
        let vars ← Layer.ofEnvironment? environment
        check (effective file vars)) := by
  rw [ofSources?, inOrder_of_perm_sourcesWith h]
  simp only [sourcesWith, mergeSources, Source.load, bind, Except.bind, Layer.empty_merge]
  cases Layer.ofFile? disk path with
  | error e => rfl
  | ok file =>
    cases Layer.ofEnvironment? environment with
    | error e => rfl
    | ok vars => simp only [← settings_merge_eq_effective]

/-- The layer of the file that is named, if there is one. -/
def Layer.ofNamed? (disk : Disk) : Option String → Except Error Layer
  | some path => ofFile? disk path
  | none => .ok .empty

/-- Settings are loaded from the layers of the file, if one is named, and of the environment, and
checked when both are in. -/
lemma load?_eq (disk : Disk) (environment : Environment) (named : Option String) :
    load? disk environment named =
      (do
        let file ← Layer.ofNamed? disk named
        let vars ← Layer.ofEnvironment? environment
        check (effective file vars)) := by
  cases named with
  | some path => exact ofSources?_of_perm (List.Perm.refl (sourcesWith path))
  | none =>
    have horder : inOrder [.defaults, .environment] = [.defaults, .environment] :=
      List.mergeSort_of_pairwise (by decide)
    rw [load?, ofSources?, horder]
    simp only [mergeSources, Source.load, Layer.ofNamed?, bind, Except.bind, Layer.empty_merge]
    cases Layer.ofEnvironment? environment with
    | error e => rfl
    | ok vars => simp only [← settings_merge_eq_effective, Layer.empty_merge]

/-- Settings that are loaded have passed the check. -/
lemma contextLines_le_of_load? {disk : Disk} {environment : Environment} {named : Option String}
    {s : Settings} (h : load? disk environment named = .ok s) :
    s.contextLines ≤ maxContextLines := by
  rw [load?_eq] at h
  cases hfile : Layer.ofNamed? disk named with
  | error e =>
    rw [hfile] at h
    cases h
  | ok file =>
    cases hvars : Layer.ofEnvironment? environment with
    | error e =>
      rw [hfile, hvars] at h
      cases h
    | ok vars =>
      rw [hfile, hvars] at h
      exact (check_eq_ok_iff.mp h).2.1

/-- Settings are put together field by field from the last layer that sets the field. With a file
they are there if the file and the environment can be read and the values that then hold are in
their bounds, whatever the values that are overridden and the order of the sources. -/
theorem load?_layered (disk : Disk) (environment : Environment) (path : String) :
    (∀ (f : Setting) (layers : List Layer),
      f.value (layers.foldl Layer.merge .empty).settings =
        (f.lastSet layers).getD (f.value default)) ∧
    (∀ a b c : Layer, (a.merge b).merge c = a.merge (b.merge c)) ∧
    (∀ layer : Layer, Layer.empty.merge layer = layer ∧ layer.merge .empty = layer) ∧
    (∀ e, Layer.ofFile? disk path = .error e →
      load? disk environment (some path) = .error e) ∧
    (∀ file e, Layer.ofFile? disk path = .ok file →
      Layer.ofEnvironment? environment = .error e →
        load? disk environment (some path) = .error e) ∧
    (∀ file vars, Layer.ofFile? disk path = .ok file →
      Layer.ofEnvironment? environment = .ok vars →
        (∀ entries, HasTable disk path entries →
          ∀ f : Setting, entry? entries f.inFile = .ok (f.inLayer file)) ∧
        (∀ f : Setting, number? environment f.inEnvironment = .ok (f.inLayer vars) ∧
          (f.inLayer vars = none ↔ setTo? environment f.inEnvironment = none)) ∧
        ∀ s, load? disk environment (some path) = .ok s ↔
          s = effective file vars ∧ s.contextLines ≤ 50 ∧ 0 < s.requestTimeoutSecs) ∧
    (∀ other : Environment, (∀ name, setTo? other name = setTo? environment name) →
      load? disk other (some path) = load? disk environment (some path)) ∧
    ∀ given : List Source, given.Perm (sourcesWith path) →
      ofSources? disk environment given = load? disk environment (some path) := by
  -- the run's own list of sources is one of the orders that they may be given in
  have hload : ∀ environment : Environment, load? disk environment (some path) =
      ofSources? disk environment (sourcesWith path) := fun _ => rfl
  simp only [hload]
  refine ⟨fun f => f.value_settings_foldl, Layer.merge_assoc,
    fun layer => ⟨layer.empty_merge, layer.merge_empty⟩, ?_, ?_, ?_, ?_, ?_⟩
  · intro e hfile
    rw [ofSources?_of_perm (List.Perm.refl _), hfile]
    rfl
  · intro file e hfile hvars
    rw [ofSources?_of_perm (List.Perm.refl _), hfile, hvars]
    rfl
  · intro file vars hfile hvars
    have hnumber := gather?_eq_ok_iff.mp ((ofEnvironment?_eq_gather? environment).symm.trans hvars)
    refine ⟨fun entries htable => ?_, fun f => ⟨hnumber f, ?_⟩, ?_⟩
    · have hentries := ofEntries?_of_hasTable htable hfile
      rw [ofEntries?_eq_gather?] at hentries
      exact gather?_eq_ok_iff.mp hentries
    · rw [← number?_eq_none_iff, hnumber, Except.ok.injEq]
    · intro s
      rw [ofSources?_of_perm (List.Perm.refl _), hfile, hvars]
      exact check_eq_ok_iff
  · intro other hsame
    rw [ofSources?_of_perm (List.Perm.refl _), ofSources?_of_perm (List.Perm.refl _),
      ofEnvironment?_congr hsame]
  · intro given hgiven
    rw [ofSources?_of_perm hgiven, ofSources?_of_perm (List.Perm.refl _)]

/-- A file that asks for more lines than there may be. -/
def wideDisk : Disk :=
  ⟨fun _ => .ok (.file (Utf8.ofString
    "[symbolication]\ncontext_lines = 99\ncache_capacity = 12\n"))⟩

/-- An environment that asks for fewer lines, with a variable that is empty. -/
def narrowEnvironment : Environment :=
  [(variableOf "CACHE_CAPACITY", ""), (variableOf "CONTEXT_LINES", " 7 ")]

/-- The lines of the environment hold, and the capacity of the file, which the environment leaves
unset; the sources may also be given from the highest precedence to the lowest. -/
theorem load?_narrowed :
    Layer.ofFile? wideDisk "loom.toml" = .ok ⟨some 99, none, none, some 12, none⟩ ∧
      Layer.ofEnvironment? narrowEnvironment = .ok ⟨some 7, none, none, none, none⟩ ∧
      load? wideDisk narrowEnvironment (some "loom.toml") = .ok ⟨7, 30, 52428800, 12, 3600⟩ ∧
      ofSources? wideDisk narrowEnvironment [.environment, .file "loom.toml", .defaults] =
        .ok ⟨7, 30, 52428800, 12, 3600⟩ := by
  have hfile : Layer.ofFile? wideDisk "loom.toml" = .ok ⟨some 99, none, none, some 12, none⟩ := by
    decide +kernel
  have hvars : Layer.ofEnvironment? narrowEnvironment = .ok ⟨some 7, none, none, none, none⟩ := by
    decide +kernel
  obtain ⟨-, -, -, -, -, hboth, -, hgiven⟩ := load?_layered wideDisk narrowEnvironment "loom.toml"
  obtain ⟨-, -, hload⟩ := hboth _ _ hfile hvars
  have hok : load? wideDisk narrowEnvironment (some "loom.toml") =
      .ok ⟨7, 30, 52428800, 12, 3600⟩ := (hload _).mpr ⟨rfl, by decide, by decide⟩
  have hperm : [.environment, .file "loom.toml", .defaults].Perm (sourcesWith "loom.toml") :=
    List.reverse_perm (sourcesWith "loom.toml")
  exact ⟨hfile, hvars, hok, (hgiven _ hperm).trans hok⟩

end Settings

end Retrace
