/-!
# Stores

A store is a total map from numbers that holds its blank value at all but
finitely many places. Contexts, buses and detectors are kept in stores, so
that a look-up needs no bound and a change at one place leaves the others
alone. The law is `get_set`.
-/

namespace DeviceWatch

/-- A total map from numbers, blank at all but finitely many places. -/
structure Store (α : Type) where
  /-- The value wherever nothing was written. -/
  blank : α
  /-- What was written, at most one cell for a place. -/
  cells : List (Nat × α) := []

namespace Store

variable {α : Type}

/-- The value at a place. -/
def get (s : Store α) (k : Nat) : α :=
  (s.cells.lookup k).getD s.blank

/-- The store with a value written at a place. -/
def set (s : Store α) (k : Nat) (v : α) : Store α :=
  { s with cells := (k, v) :: s.cells.filter (fun cell => cell.1 != k) }

/-- The store with the value at a place changed by a function. -/
def modify (s : Store α) (k : Nat) (f : α → α) : Store α :=
  s.set k (f (s.get k))

theorem lookup_filter_ne {k j : Nat} (h : j ≠ k) (cells : List (Nat × α)) :
    (cells.filter (fun cell => cell.1 != k)).lookup j = cells.lookup j := by
  induction cells with
  | nil => rfl
  | cons cell rest ih =>
    obtain ⟨i, v⟩ := cell
    by_cases hi : i = k
    · have hj : (j == i) = false := by simp [hi, h]
      simp [hi, ih, List.lookup_cons, hi ▸ hj]
    · by_cases hj : j = i
      · simp [hi, hj]
      · have hj' : (j == i) = false := by simp [hj]
        simp [hi, ih, List.lookup_cons, hj']

/-- A look-up after a write finds the written value at its place and the old
value everywhere else. -/
theorem get_set (s : Store α) (k j : Nat) (v : α) :
    (s.set k v).get j = if j = k then v else s.get j := by
  by_cases h : j = k
  · simp [get, set, h]
  · have hj : (j == k) = false := by simp [h]
    simp [get, set, h, List.lookup_cons, hj, lookup_filter_ne h]

@[simp] theorem get_set_self (s : Store α) (k : Nat) (v : α) : (s.set k v).get k = v := by
  simp [get_set]

theorem get_set_of_ne (s : Store α) {k j : Nat} (h : j ≠ k) (v : α) :
    (s.set k v).get j = s.get j := by
  simp [get_set, h]

theorem get_modify (s : Store α) (k j : Nat) (f : α → α) :
    (s.modify k f).get j = if j = k then f (s.get k) else s.get j :=
  get_set s k j _

end Store
end DeviceWatch
