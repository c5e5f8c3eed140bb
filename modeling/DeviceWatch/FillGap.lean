/-!
# Removal that fills the gap

Lists of devices and of open handles lose an entry by moving their last entry
into its place, so a removal changes the order of what stays. The order shows
in every listing.
-/

namespace DeviceWatch

variable {α : Type}

/-- The list without the entry at place `i`, the last entry having moved into
the gap. -/
def fillGap (l : List α) (i : Nat) : List α :=
  match l.getLast? with
  | none => []
  | some z => l.dropLast.set i z

/-- The first entry with a property, and the list without it. -/
def takeFirst? (p : α → Bool) (l : List α) : Option (α × List α) := do
  let i ← l.findIdx? p
  let a ← l[i]?
  return (a, fillGap l i)

theorem fillGap_concat_length (l : List α) (z : α) : fillGap (l ++ [z]) l.length = l := by
  simp [fillGap, List.set_eq_of_length_le]

theorem fillGap_concat (l : List α) (z : α) {i : Nat} (_ : i < l.length) :
    fillGap (l ++ [z]) i = l.set i z := by
  simp [fillGap]

theorem takeFirst?_eq_none_iff {p : α → Bool} {l : List α} :
    takeFirst? p l = none ↔ ∀ a ∈ l, p a = false := by
  unfold takeFirst?
  cases h : l.findIdx? p with
  | none => simpa using List.findIdx?_eq_none_iff.1 h
  | some i =>
    obtain ⟨hi, hp, _⟩ := List.findIdx?_eq_some_iff_getElem.1 h
    have : l[i]? = some l[i] := List.getElem?_eq_getElem hi
    simp only [Option.bind_eq_bind, Option.bind_some, this]
    constructor
    · intro hn
      cases hn
    · intro ha
      simp [ha l[i] (List.getElem_mem hi)] at hp

end DeviceWatch
