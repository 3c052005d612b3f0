import Mathlib
import Retrace.Tracer

/-!
# Readings of the clock

A tracer reads the clock once to look something up in its cache. To keep something it reads the
clock as often as the map that takes it in asks for: not at all if the map has no room whatever,
once if there is room, and twice if room has to be made. `Stamped` lists these ways, with the times
at which room is made and the value is put in.

What every reading of the clock keeps, they keep (`Stamped.world`). So most proofs need not tell
them apart.
-/

namespace Retrace

namespace ExpiringMap

variable {α : Type} {m : ExpiringMap α}

/-- A map without any room takes nothing. -/
lemma insert_of_closed (h : m.capacity = 0) (roomAt now : ℕ) (key : String) (value : α) :
    m.insert roomAt now key value = m := by
  rw [insert, if_pos h]

end ExpiringMap

namespace Tracer

variable {σ α : Type} {t : Tracer σ} {m : ExpiringMap α} {key : String} {w w' : σ} {roomAt now : ℕ}

/-- The ways to read the clock for a map that is to take in a value under a key, with the times at
which room is made and the value is put in, and the world afterwards. -/
inductive Stamped (t : Tracer σ) (m : ExpiringMap α) (key : String) (w : σ) : ℕ → ℕ → σ → Prop
  /-- The map takes nothing. -/
  | closed (h : m.capacity = 0) : Stamped t m key w (t.services.now w).1 (t.services.now w).1 w
  /-- There is room. -/
  | once (h : m.capacity ≠ 0) (hroom : m.lacksRoom key = false) :
      Stamped t m key w (t.services.now w).1 (t.services.now w).1 (t.services.now w).2
  /-- Room has to be made. -/
  | twice (h : m.capacity ≠ 0) (hroom : m.lacksRoom key = true) :
      Stamped t m key w (t.services.now w).1 (t.services.now (t.services.now w).2).1
        (t.services.now (t.services.now w).2).2

/-- The clock is read in one of the ways. -/
lemma stamped (t : Tracer σ) (m : ExpiringMap α) (key : String) (w : σ) :
    t.Stamped m key w (t.stamps m key w).1 (t.stamps m key w).2.1 (t.stamps m key w).2.2 := by
  rw [stamps]
  dsimp only
  split
  · next h => exact .closed h
  · next h =>
    split
    · next hroom => exact .twice h hroom
    · next hroom => exact .once h (Bool.eq_false_of_not_eq_true hroom)

/-- What is true of a world, and stays so when the clock is read, is true afterwards. -/
lemma Stamped.world {P : σ → Prop} (h : t.Stamped m key w roomAt now w')
    (hnow : ∀ w, P w → P (t.services.now w).2) (hw : P w) : P w' := by
  cases h with
  | closed => exact hw
  | once => exact hnow w hw
  | twice => exact hnow _ (hnow w hw)

/-- What every reading of the clock leaves is left. -/
lemma Stamped.eq {β : Type} {f : σ → β} (h : t.Stamped m key w roomAt now w')
    (hnow : ∀ w, f (t.services.now w).2 = f w) : f w' = f w :=
  h.world (P := fun w' => f w' = f w) (fun w' hw' => (hnow w').trans hw') rfl

end Tracer

end Retrace
