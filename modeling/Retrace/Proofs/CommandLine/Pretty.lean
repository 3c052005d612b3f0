import Mathlib
import Retrace.Proofs.CommandLine.Reading

/-!
# The flag for the layout

Whether the output is laid out in lines is a flag of its own: reading the other arguments does not
look at it. So each step of reading, unless it raises the flag, comes to the same with the flag
raised before (`KeepsLayout`), and so do all steps one after the other (`Stepwise`). That is, putting
the flag in front of arguments without it changes nothing else that they ask for (`parse?_pretty`).
-/

namespace Retrace

namespace Arguments

namespace Progress

/-- The flag is raised. -/
def laidOut (p : Progress) : Progress :=
  { p with pretty := true }

/-- Raising the flag again changes nothing. -/
lemma laidOut_eq_self {p : Progress} (h : p.pretty = true) : p.laidOut = p := by
  unfold laidOut
  rw [← h]

/-- What has the flag raised is told by this. -/
lemma pretty_of_eq_laidOut {p : Progress} (h : p = p.laidOut) : p.pretty = true := by
  rw [h]
  rfl

/-- A step that raises the flag or comes to the same with the flag raised before. -/
def KeepsLayout (step : Progress → Except Error Progress) : Prop :=
  ∀ ⦃p q : Progress⦄, step p = .ok q → q.pretty = true ∨ step p.laidOut = .ok q.laidOut

section Steps

variable {first second : Progress → Except Error Progress}

/-- One step after the other. -/
lemma KeepsLayout.andThen (hfirst : KeepsLayout first) (hsecond : KeepsLayout second) :
    KeepsLayout fun p =>
      match first p with
      | .error e => .error e
      | .ok p => second p := by
  intro p q h
  cases hp : first p with
  | error e =>
    simp only [hp] at h
    cases h
  | ok p₁ =>
    simp only [hp] at h
    rcases hfirst hp with hpretty | hsame
    · -- with the flag raised after the first step, the second one starts the same
      refine .inl ?_
      rcases hsecond h with hraised | hlaid
      · exact hraised
      · rw [laidOut_eq_self hpretty, h] at hlaid
        exact pretty_of_eq_laidOut (Except.ok.inj hlaid)
    · refine (hsecond h).imp_right fun hlaid => ?_
      simp only [hsame]
      exact hlaid

/-- A step that changes other things. -/
lemma keepsLayout_ok {change : Progress → Progress}
    (h : ∀ p, change p.laidOut = (change p).laidOut) : KeepsLayout fun p => .ok (change p) := by
  intro p q hq
  obtain rfl : change p = q := Except.ok.inj hq
  exact .inr (congrArg Except.ok (h p))

/-- A step that fails. -/
lemma keepsLayout_error (e : Error) : KeepsLayout fun _ => .error e := by
  intro p q h
  cases h

end Steps

/-- Giving a field its value. -/
lemma keepsLayout_set (field : Field) (text : String) : KeepsLayout fun p => p.set field text := by
  cases field with
  | input =>
    unfold set
    by_cases hempty : text.isEmpty
    · simp only [hempty, if_true]
      exact keepsLayout_error _
    · simp only [hempty]
      exact keepsLayout_ok fun _ => rfl
  | config =>
    unfold set
    by_cases hempty : text.isEmpty
    · simp only [hempty, if_true]
      exact keepsLayout_error _
    · simp only [hempty]
      exact keepsLayout_ok fun _ => rfl
  | version => exact keepsLayout_ok fun _ => rfl
  | projectId =>
    unfold set
    cases Integer.read Integer.minSigned64 Integer.maxSigned64 text.toList with
    | error e => exact keepsLayout_error _
    | ok n => exact keepsLayout_ok fun _ => rfl
  | contextLines =>
    unfold set
    cases Integer.readUpTo Integer.maxUnsigned64 text.toList with
    | error e => exact keepsLayout_error _
    | ok n =>
      by_cases hn : n ≤ maxContextLines
      · simp only [hn, if_true]
        exact keepsLayout_ok fun _ => rfl
      · simp only [hn, if_false]
        exact keepsLayout_error _

/-- Whether a field has its value has nothing to do with the flag. -/
lemma isSet_laidOut (p : Progress) (field : Field) : p.laidOut.isSet field = p.isSet field := by
  cases field <;> rfl

/-- Giving a field its only value. -/
lemma keepsLayout_takeIn (field : Field) (text : String) :
    KeepsLayout fun p => p.takeIn field text := by
  intro p q h
  dsimp only at h ⊢
  unfold takeIn at h ⊢
  rw [isSet_laidOut]
  split at h
  · cases h
  · next hset =>
    rw [if_neg hset]
    exact keepsLayout_set field text h

/-- Taking in the value of the pending field. -/
lemma keepsLayout_settle : KeepsLayout settle := by
  intro p q h
  have hpending : p.laidOut.pending = p.pending := rfl
  unfold settle at h ⊢
  rw [hpending]
  split at h
  · next hnone =>
    obtain rfl : p = q := Except.ok.inj h
    exact .inr rfl
  · cases h
  · next field text hsome => exact keepsLayout_takeIn field text h

/-- Raising a flag. -/
lemma keepsLayout_raise (flag : Flag) : KeepsLayout fun p => p.raise flag := by
  intro p q h
  cases flag with
  | help => cases h
  | pretty =>
    simp only [raise] at h
    split at h
    · cases h
    · obtain rfl := Except.ok.inj h
      exact .inl rfl
  | jsonLogs =>
    have hlogs : p.laidOut.jsonLogs = p.jsonLogs := rfl
    simp only [raise, hlogs] at h ⊢
    split at h
    · cases h
    · next hnot =>
      obtain rfl := Except.ok.inj h
      rw [if_neg hnot]
      exact .inr rfl

/-- The name of a file. -/
lemma keepsLayout_positional (argument : String) : KeepsLayout fun p => p.positional argument := by
  intro p q h
  have hinput : p.laidOut.hasInput = p.hasInput := rfl
  dsimp only at h ⊢
  unfold positional at h ⊢
  rw [hinput]
  split at h
  · cases h
  · next hnot =>
    rw [if_neg hnot]
    have hfile : KeepsLayout fun p =>
        .ok { p with pending := some (.input, argument), hasInput := true } :=
      keepsLayout_ok fun _ => rfl
    have hsteps := keepsLayout_settle.andThen hfile
    exact hsteps h

/-- An argument that starts with no dash or is a dash. -/
lemma keepsLayout_plain (argument : String) : KeepsLayout fun p => p.plain argument := by
  intro p q h
  have hpending : p.laidOut.pending = p.pending := rfl
  dsimp only at h ⊢
  unfold plain at h ⊢
  rw [hpending]
  split at h
  · next field hsome =>
    obtain rfl := Except.ok.inj h
    exact .inr rfl
  · exact keepsLayout_positional argument h

/-- The environment. -/
lemma keepsLayout_fromVariable (environment : Settings.Environment) (field : Field)
    (name : String) : KeepsLayout fun p => p.fromVariable environment field name := by
  intro p q h
  dsimp only at h ⊢
  unfold fromVariable at h ⊢
  rw [isSet_laidOut]
  split at h
  · next hset =>
    obtain rfl : p = q := Except.ok.inj h
    rw [if_pos hset]
    exact .inr rfl
  · next hset =>
    rw [if_neg hset]
    split at h
    · obtain rfl : p = q := Except.ok.inj h
      exact .inr rfl
    · next text _ => exact keepsLayout_set field text h

/-- All that reading is made of keeps the layout. -/
lemma stepwise_keepsLayout : Stepwise KeepsLayout where
  andThen := KeepsLayout.andThen
  fail := keepsLayout_error
  settle := keepsLayout_settle
  takeIn := keepsLayout_takeIn
  await _ := keepsLayout_ok fun _ => rfl
  raise := keepsLayout_raise
  positional := keepsLayout_positional
  plain := keepsLayout_plain
  fromVariable := keepsLayout_fromVariable

end Progress

open Progress

/-- **The flag for the layout.** Putting the flag in front of arguments that do not have it asks for
the same with the output laid out in lines. -/
theorem parse?_pretty {environment : Settings.Environment} {arguments : List String} {a : Arguments}
    (h : parse? environment arguments = .ok a) (hpretty : a.pretty = false) :
    parse? environment ("--pretty" :: arguments) = .ok { a with pretty := true } := by
  have hflag : readOn environment ("--pretty" :: arguments) .start =
      readOn environment arguments Progress.start.laidOut := by
    have hraise : Progress.start.argument "--pretty" = .ok Progress.start.laidOut := by
      rfl
    have hdashes : ("--pretty" : String) ≠ "--" := by decide
    unfold readOn
    rw [Progress.arguments]
    simp only [hdashes, if_false, hraise]
  rw [parse?_eq_map] at h ⊢
  cases hread : readOn environment arguments .start with
  | error e =>
    rw [hread] at h
    cases h
  | ok q =>
    rw [hread] at h
    obtain rfl : q.finish = a := Except.ok.inj h
    rcases stepwise_keepsLayout.readOn environment arguments hread with hraised | hlaid
    · have hfinish : q.finish.pretty = q.pretty := rfl
      rw [hfinish, hraised] at hpretty
      cases hpretty
    · rw [hflag, hlaid]
      rfl

end Arguments

end Retrace
