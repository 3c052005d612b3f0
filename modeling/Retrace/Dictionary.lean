/-!
# Dictionaries

Values by name, in the order in which their names came first.  What a dictionary holds is what
`Dictionary.get?` answers: `get?_put_self` and `get?_put_of_ne` say what putting a value does to it.
-/

namespace Retrace

/-- Pairs of a name and its value. -/
abbrev Dictionary (α : Type) := List (String × α)

namespace Dictionary

variable {α : Type}

/-- The value of a name. -/
def get? : Dictionary α → String → Option α
  | [], _ => none
  | (k, v) :: rest, key => if k = key then some v else get? rest key

/-- Gives a name a value, in the place of the one that it had. -/
def put : Dictionary α → String → α → Dictionary α
  | [], key, value => [(key, value)]
  | (k, v) :: rest, key, value =>
    if k = key then (key, value) :: rest else (k, v) :: put rest key value

/-- Takes a name and its values out. -/
def remove (d : Dictionary α) (key : String) : Dictionary α :=
  d.filter fun p => p.1 ≠ key

/-- Whether a name has a value. -/
def has (d : Dictionary α) (key : String) : Bool :=
  (get? d key).isSome

@[simp] theorem get?_nil (key : String) : get? ([] : Dictionary α) key = none := rfl

@[simp] theorem get?_put_self (d : Dictionary α) (key : String) (value : α) :
    get? (put d key value) key = some value := by
  induction d with
  | nil => simp [put, get?]
  | cons p rest ih =>
    rw [put]
    split
    · simp [get?]
    · next h => simp [get?, h, ih]

theorem get?_put_of_ne (d : Dictionary α) {key other : String} (value : α) (h : key ≠ other) :
    get? (put d key value) other = get? d other := by
  induction d with
  | nil => simp [put, get?, h]
  | cons p rest ih =>
    rw [put]
    split
    · next hk => simp [get?, h, hk]
    · simp [get?, ih]

/-- What is found under a name stands in the dictionary. -/
theorem mem_of_get?_eq_some {d : Dictionary α} {key : String} {value : α}
    (h : get? d key = some value) : (key, value) ∈ d := by
  induction d with
  | nil => simp at h
  | cons p rest ih =>
    rw [get?] at h
    split at h
    · next hk =>
      obtain rfl := Option.some.inj h
      exact hk ▸ List.mem_cons_self
    · exact List.mem_cons_of_mem p (ih h)

/-- Putting a value in adds nothing but that value. -/
theorem mem_of_mem_put {d : Dictionary α} {key : String} {value : α} {p : String × α}
    (h : p ∈ put d key value) : p = (key, value) ∨ p ∈ d := by
  induction d with
  | nil => exact .inl (List.mem_singleton.mp h)
  | cons q rest ih =>
    rw [put] at h
    split at h
    · rcases List.mem_cons.mp h with rfl | hrest
      · exact .inl rfl
      · exact .inr (List.mem_cons_of_mem q hrest)
    · rcases List.mem_cons.mp h with rfl | hrest
      · exact .inr List.mem_cons_self
      · exact (ih hrest).imp_right (List.mem_cons_of_mem q)

/-- Taking a name out adds nothing. -/
theorem mem_of_mem_remove {d : Dictionary α} {key : String} {p : String × α}
    (h : p ∈ remove d key) : p ∈ d :=
  (List.mem_filter.mp h).1

end Dictionary

end Retrace
