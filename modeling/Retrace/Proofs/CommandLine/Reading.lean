import Mathlib
import Retrace.CommandLine.Arguments

/-!
# Reading as a chain of steps

Reading arguments takes one step for each of them, which settles what is pending and then takes in a
value, raises a flag or waits for more. The variables of the environment are further steps behind
them. So what holds of the steps and of a chain of two if it holds of both (`Stepwise`) holds of all
reading, whatever the arguments are (`Stepwise.readOn`).
-/

namespace Retrace

namespace Arguments

namespace Progress

/-- What is read of arguments and the environment, on top of what was read before. -/
def readOn (environment : Settings.Environment) (arguments : List String) (p : Progress) :
    Except Error Progress :=
  match Progress.arguments false p arguments with
  | .error e => .error e
  | .ok p =>
    match p.fromVariable environment .projectId "LOOM_PROJECT_ID" with
    | .error e => .error e
    | .ok p =>
      match p.fromVariable environment .version "LOOM_RELEASE_VERSION" with
      | .error e => .error e
      | .ok p => p.fromVariable environment .config "LOOM_SERVER_CONFIG"

/-- A property of steps that holds of those that reading is made of, and of a chain of two if it
holds of both. -/
structure Stepwise (K : (Progress → Except Error Progress) → Prop) : Prop where
  andThen : ∀ {first second : Progress → Except Error Progress}, K first → K second →
    K fun p =>
      match first p with
      | .error e => .error e
      | .ok p => second p
  fail : ∀ e, K fun _ => .error e
  settle : K settle
  takeIn : ∀ field text, K fun p => p.takeIn field text
  /-- A field waits for its value. -/
  await : ∀ field, K fun p => .ok { p with pending := some (field, none) }
  raise : ∀ flag, K fun p => p.raise flag
  positional : ∀ argument, K fun p => p.positional argument
  plain : ∀ argument, K fun p => p.plain argument
  fromVariable : ∀ environment field name, K fun p => p.fromVariable environment field name

namespace Stepwise

variable {K : (Progress → Except Error Progress) → Prop} (h : Stepwise K)

include h

/-- An argument that starts with two dashes. -/
lemma long (text : List Char) : K fun p => p.long text := by
  unfold Progress.long
  simp only
  split
  · exact h.andThen h.settle (h.takeIn _ _)
  · exact h.andThen h.settle (h.await _)
  · exact h.fail _
  · exact h.andThen h.settle (h.raise _)
  · exact h.fail _

/-- An argument that starts with one dash. -/
lemma short (text : List Char) : K fun p => p.short text := by
  unfold Progress.short
  split
  · exact h.andThen h.settle (h.raise .help)
  · exact h.fail _

/-- An argument that is not two dashes. -/
lemma argument (argument : String) : K fun p => p.argument argument := by
  unfold Progress.argument
  split
  · exact h.long _
  · exact h.short _
  · exact h.plain argument

/-- All arguments, one after the other. -/
lemma arguments (onlyFiles : Bool) (arguments : List String) :
    K fun p => Progress.arguments onlyFiles p arguments := by
  induction arguments generalizing onlyFiles with
  | nil =>
    cases onlyFiles <;> exact h.settle
  | cons argument rest ih =>
    cases onlyFiles with
    | true => exact h.andThen (h.positional argument) (ih true)
    | false =>
      simp only [Progress.arguments]
      by_cases hdashes : argument = "--"
      · simp only [hdashes, if_true]
        exact ih true
      · simp only [hdashes, if_false]
        exact h.andThen (h.argument argument) (ih false)

/-- All that is read. -/
lemma readOn (environment : Settings.Environment) (arguments : List String) :
    K (Progress.readOn environment arguments) := by
  have hvariables : ∀ field name, K fun p => p.fromVariable environment field name :=
    h.fromVariable environment
  exact h.andThen (h.arguments false arguments) (h.andThen (hvariables .projectId _)
    (h.andThen (hvariables .version _) (hvariables .config _)))

end Stepwise

end Progress

open Progress

/-- What is asked for is read from the start. -/
lemma parse?_eq_map (environment : Settings.Environment) (arguments : List String) :
    parse? environment arguments = (readOn environment arguments .start).map finish := by
  unfold parse? readOn
  cases Progress.arguments false .start arguments with
  | error e => rfl
  | ok p =>
    simp only [bind, Except.bind]
    cases p.fromVariable environment .projectId "LOOM_PROJECT_ID" with
    | error e => rfl
    | ok p =>
      simp only
      cases p.fromVariable environment .version "LOOM_RELEASE_VERSION" with
      | error e => rfl
      | ok p =>
        simp only
        cases p.fromVariable environment .config "LOOM_SERVER_CONFIG" <;> rfl

end Arguments

end Retrace
