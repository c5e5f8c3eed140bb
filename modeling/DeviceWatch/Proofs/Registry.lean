import Mathlib.Data.List.Nodup
import DeviceWatch.Registry
/-!
# Registries as maps

What the operations of a registry do to the look-up of a record, and to the
list of identities. A registry whose identities are distinct is a finite map,
and nobody needs its list of records afterwards.
-/

namespace DeviceWatch

variable {κ : Type}

/-- The record after it was deregistered. -/
def Record.retired (x : Record κ) : Record κ :=
  { x with status := .pending }

/-- What may have become of a record, if there was one: nothing, or it was
deregistered, or it went. -/
def Record.Aged (x y : Option (Record κ)) : Prop :=
  y = x ∨ y = x.map Record.retired ∨ y = none

namespace Record.Aged

variable {x y z : Option (Record κ)} {u : Record κ}

theorem refl (x : Option (Record κ)) : Aged x x :=
  Or.inl rfl

theorem trans (hxy : Aged x y) (hyz : Aged y z) : Aged x z := by
  obtain rfl | rfl | rfl := hyz
  · exact hxy
  · obtain rfl | rfl | rfl := hxy
    · exact Or.inr (Or.inl rfl)
    · refine Or.inr (Or.inl ?_)
      rw [Option.map_map]
      rfl
    · exact Or.inr (Or.inr rfl)
  · exact Or.inr (Or.inr rfl)

theorem eq_none (h : Aged x y) (hx : x = none) : y = none := by
  subst hx
  obtain rfl | rfl | rfl := h <;> rfl

/-- Only the status changes, and only from active to pending. -/
theorem of_some (h : Aged x y) (hy : y = some u) :
    ∃ v, x = some v ∧ v.id = u.id ∧ v.owner = u.owner ∧ v.events = u.events ∧
      v.filter = u.filter ∧ v.program = u.program ∧ (u.status = .active → v = u) := by
  subst hy
  obtain rfl | h | h := h
  · exact ⟨u, rfl, rfl, rfl, rfl, rfl, rfl, fun _ => rfl⟩
  · obtain ⟨v, rfl, rfl⟩ := Option.map_eq_some_iff.1 h.symm
    exact ⟨v, rfl, rfl, rfl, rfl, rfl, rfl, nofun⟩
  · cases h

/-- Nothing becomes active. -/
theorem eq_of_active (h : Aged x y) (hy : y = some u) (hu : u.status = .active) : x = some u := by
  obtain ⟨v, hv, -, -, -, -, -, hvu⟩ := h.of_some hy
  rw [hv, hvu hu]

end Record.Aged

namespace Registry

variable {r s t : Registry κ} {x : Record κ} {id i : CallbackId}

/-! ## Look-ups -/

theorem get?_eq_none_iff : r.get? id = none ↔ id ∉ r.ids := by
  simp only [get?, ids, List.find?_eq_none, List.mem_map, beq_iff_eq]
  constructor
  · rintro h ⟨x, hx, rfl⟩
    exact h x hx rfl
  · rintro h x hx rfl
    exact h ⟨x, hx, rfl⟩

theorem mem_ids_iff : id ∈ r.ids ↔ ∃ x, r.get? id = some x := by
  rw [← Option.isSome_iff_exists, Option.isSome_iff_ne_none, Ne, get?_eq_none_iff, not_not]

theorem status?_eq_some {s : Status} (hx : r.get? id = some x) (hs : x.status = s) :
    r.status? id = some s := by
  rw [status?, hx, Option.map_some, hs]

theorem contains_iff : r.contains id = true ↔ id ∈ r.ids := by
  rw [contains, Option.isSome_iff_exists, mem_ids_iff]

/-! ## Look-ups after an operation -/

theorem get?_insert :
    (r.insert x).get? id = (r.get? id).or (if x.id = id then some x else none) := by
  simp only [get?, insert, List.find?_append, List.find?_singleton, beq_iff_eq]

theorem get?_erase : (r.erase i).get? id = if id = i then none else r.get? id := by
  by_cases h : id = i
  · subst h
    simp [get?, erase]
  · rw [if_neg h]
    simp only [get?, erase, List.find?_filter]
    congr 1
    funext y
    by_cases hy : y.id = id
    · simp [hy, h]
    · simp [hy]

theorem get?_markPending :
    (r.markPending i).get? id = if id = i then (r.get? id).map Record.retired else r.get? id := by
  -- Marking keeps identities, so the look-up finds the same record.
  have hid : ∀ y : Record κ,
      (if y.id == i then { y with status := Status.pending } else y).id = y.id := by
    intro y
    split <;> rfl
  simp only [get?, markPending, List.find?_map, Function.comp_def, hid]
  cases h : r.records.find? (·.id == id) with
  | none => simp
  | some y =>
    have hy : y.id = id := by simpa using List.find?_some h
    by_cases hi : id = i
    · simp [hy, hi, Record.retired]
    · simp [hy, hi]

theorem get?_clear : r.clear.get? id = none :=
  rfl

/-! ## The identities after an operation -/

theorem ids_insert : (r.insert x).ids = r.ids ++ [x.id] := by
  simp [ids, insert]

theorem ids_erase : (r.erase i).ids = r.ids.filter (· != i) := by
  simp only [ids, erase, List.filter_map, Function.comp_def]

theorem not_mem_ids_erase : id ∉ (r.erase id).ids := by
  simp [ids_erase]

theorem ids_markPending : (r.markPending i).ids = r.ids := by
  simp only [ids, markPending, List.map_map]
  refine List.map_congr_left fun y _ => ?_
  simp only [Function.comp]
  split <;> rfl

theorem ids_clear : r.clear.ids = [] :=
  rfl

/-! ## Decisions and commits -/

theorem decide_of_none {d : Device} {e : Event} (h : r.get? id = none) :
    r.decide id d e = (.gone, r) := by
  simp only [decide, h]

theorem decide_of_pending {d : Device} {e : Event} (h : r.get? id = some x)
    (hs : x.status = .pending) : r.decide id d e = (.released, r.erase id) := by
  simp only [decide, h, hs]

theorem decide_of_active {d : Device} {e : Event} (h : r.get? id = some x)
    (hs : x.status = .active) :
    r.decide id d e = (if x.hears d e then .invoke x.program else .skip, r) := by
  simp only [decide, h, hs]
  split <;> rfl

/-- What a decision leaves: the registry, or the registry without a pending
record. -/
theorem decide_snd (d : Device) (e : Event) :
    (r.decide id d e).2 = r ∨
      ((r.decide id d e).2 = r.erase id ∧ (r.decide id d e).1.decision = .released ∧
        r.status? id = some .pending) := by
  rcases h : r.get? id with _ | x
  · rw [decide_of_none h]
    exact Or.inl rfl
  · rcases hs : x.status with _ | _
    · rw [decide_of_active h hs]
      exact Or.inl rfl
    · rw [decide_of_pending h hs]
      exact Or.inr ⟨rfl, rfl, status?_eq_some h hs⟩

theorem decide_eq_gone_iff {d : Device} {e : Event} :
    (r.decide id d e).1.decision = .gone ↔ id ∉ r.ids := by
  rw [← get?_eq_none_iff]
  rcases h : r.get? id with _ | x
  · simp [decide_of_none h, Verdict.decision]
  · rcases hs : x.status with _ | _
    · rw [decide_of_active h hs]
      split <;> simp [Verdict.decision]
    · simp [decide_of_pending h hs, Verdict.decision]

/-- Only a pending record is released, and it is removed. -/
theorem of_decide_eq_released {d : Device} {e : Event}
    (h : (r.decide id d e).1.decision = .released) :
    r.status? id = some .pending ∧ (r.decide id d e).2 = r.erase id := by
  rcases hx : r.get? id with _ | x
  · rw [decide_of_none hx] at h
    cases h
  · rcases hs : x.status with _ | _
    · rw [decide_of_active hx hs] at h
      split at h <;> cases h
    · rw [decide_of_pending hx hs, status?, hx, Option.map_some, hs]
      exact ⟨rfl, rfl⟩

/-- Only an active record that hears of the event has its callback run. -/
theorem of_decide_eq_invoke {d : Device} {e : Event} {program : κ}
    (h : (r.decide id d e).1 = .invoke program) :
    ∃ x, r.get? id = some x ∧ x.status = .active ∧ x.hears d e = true ∧ x.program = program := by
  rcases hx : r.get? id with _ | x
  · rw [decide_of_none hx] at h
    cases h
  · rcases hs : x.status with _ | _
    · rw [decide_of_active hx hs] at h
      split at h
      next hh => exact ⟨x, rfl, hs, hh, Verdict.invoke.inj h⟩
      next => cases h
    · rw [decide_of_pending hx hs] at h
      cases h

theorem decide_eq_invoke_iff {d : Device} {e : Event} :
    (r.decide id d e).1.decision = .invoke ↔
      ∃ x, r.get? id = some x ∧ x.status = .active ∧ x.hears d e = true := by
  constructor
  · intro h
    rcases hv : (r.decide id d e).1 with _ | _ | _ | program
    all_goals rw [hv] at h
    case invoke =>
      obtain ⟨x, hx, hs, hh, -⟩ := of_decide_eq_invoke hv
      exact ⟨x, hx, hs, hh⟩
    all_goals cases h
  · rintro ⟨x, hx, hs, hh⟩
    rw [decide_of_active hx hs, if_pos hh]
    rfl

theorem releases_iff {wish : Wish} :
    r.releases id wish = true ↔
      ∃ x, r.get? id = some x ∧ (wish = .deregister ∨ x.status = .pending) := by
  rcases h : r.get? id with _ | x <;> simp [releases, h]

theorem commit_of_releases {wish : Wish} (h : r.releases id wish = true) :
    r.commit id wish = r.erase id :=
  if_pos h

theorem commit_of_not_releases {wish : Wish} (h : r.releases id wish = false) :
    r.commit id wish = r := by
  rw [commit, h]
  rfl

/-- A decision removes the record exactly if it releases it. -/
theorem decide_removes_iff {d : Device} {e : Event} :
    (id ∈ r.ids ∧ id ∉ (r.decide id d e).2.ids) ↔ (r.decide id d e).1.decision = .released := by
  constructor
  · rintro ⟨hlive, hdead⟩
    obtain h | ⟨-, h, -⟩ : (r.decide id d e).2 = r ∨ _ := decide_snd d e
    · rw [h] at hdead
      exact absurd hlive hdead
    · exact h
  · intro h
    obtain ⟨hs, he⟩ := of_decide_eq_released h
    obtain ⟨x, hx, -⟩ := Option.map_eq_some_iff.1 hs
    rw [he]
    exact ⟨mem_ids_iff.2 ⟨x, hx⟩, not_mem_ids_erase⟩

/-- A commit removes the record exactly if it releases it. -/
theorem commit_removes_iff {wish : Wish} :
    (id ∈ r.ids ∧ id ∉ (r.commit id wish).ids) ↔ r.releases id wish = true := by
  constructor
  · rintro ⟨hlive, hdead⟩
    by_contra h
    rw [commit_of_not_releases (Bool.eq_false_iff.2 h)] at hdead
    exact hdead hlive
  · intro h
    obtain ⟨x, hx, -⟩ := releases_iff.1 h
    rw [commit_of_releases h]
    exact ⟨mem_ids_iff.2 ⟨x, hx⟩, not_mem_ids_erase⟩

/-- No record outlives a decision unless it is active. -/
theorem not_mem_ids_decide {d : Device} {e : Event} (h : r.status? id ≠ some .active) :
    id ∉ (r.decide id d e).2.ids := by
  rcases hx : r.get? id with _ | x
  · rw [decide_of_none hx]
    exact get?_eq_none_iff.1 hx
  · rcases hs : x.status with _ | _
    · exact absurd (status?_eq_some hx hs) h
    · rw [decide_of_pending hx hs]
      exact not_mem_ids_erase

/-- No record outlives a commit unless its callback waits for more and it is
active. -/
theorem not_mem_ids_commit {wish : Wish} (h : wish = .deregister ∨ r.status? id ≠ some .active) :
    id ∉ (r.commit id wish).ids := by
  rcases hx : r.get? id with _ | x
  · rw [commit_of_not_releases (by simp only [releases, hx])]
    exact get?_eq_none_iff.1 hx
  · have hrel : r.releases id wish = true := by
      refine releases_iff.2 ⟨x, hx, h.imp_right fun hne => ?_⟩
      rcases hs : x.status with _ | _
      · exact absurd (status?_eq_some hx hs) hne
      · rfl
    rw [commit_of_releases hrel]
    exact not_mem_ids_erase

/-- A decision about any record leaves one alone that is not pending. -/
theorem get?_decide {d : Device} {e : Event} (h : r.status? i ≠ some .pending) :
    (r.decide id d e).2.get? i = r.get? i := by
  obtain heq | ⟨heq, -, hs⟩ : (r.decide id d e).2 = r ∨ _ := decide_snd d e
  · rw [heq]
  · rw [heq, get?_erase, if_neg]
    rintro rfl
    exact h hs

/-- So does a commit, unless it is about that record and the wish is for it to
go. -/
theorem get?_commit {wish : Wish} (h : r.status? i ≠ some .pending)
    (hwish : id = i → wish = .rearm) : (r.commit id wish).get? i = r.get? i := by
  rcases hrel : r.releases id wish with _ | _
  · rw [commit_of_not_releases hrel]
  · rw [commit_of_releases hrel, get?_erase, if_neg]
    rintro rfl
    obtain ⟨x, hx, hd | hs⟩ := releases_iff.1 hrel
    · rw [hwish rfl] at hd
      cases hd
    · exact h (status?_eq_some hx hs)

/-! ## Ageing

Every operation but an insertion only ages the records. -/

/-- Every record of the second registry is a record of the first that aged. -/
structure Ages (r s : Registry κ) : Prop where
  nodup : r.ids.Nodup → s.ids.Nodup
  aged (id : CallbackId) : Record.Aged (r.get? id) (s.get? id)

theorem Ages.refl (r : Registry κ) : r.Ages r :=
  ⟨id, fun _ => .refl _⟩

theorem ages_erase : r.Ages (r.erase i) where
  nodup hn := by
    rw [ids_erase]
    exact hn.filter _
  aged id := by
    rw [get?_erase]
    split
    · exact Or.inr (Or.inr rfl)
    · exact .refl _

theorem ages_markPending : r.Ages (r.markPending i) where
  nodup hn := by rwa [ids_markPending]
  aged id := by
    rw [get?_markPending]
    split
    · exact Or.inr (Or.inl rfl)
    · exact .refl _

theorem ages_clear : r.Ages r.clear where
  nodup _ := List.nodup_nil
  aged _ := Or.inr (Or.inr rfl)

theorem ages_decide {d : Device} {e : Event} : r.Ages (r.decide id d e).2 := by
  obtain h | ⟨h, -, -⟩ : (r.decide id d e).2 = r ∨ _ := decide_snd d e
  · rw [h]
    exact .refl r
  · rw [h]
    exact ages_erase

theorem ages_commit {wish : Wish} : r.Ages (r.commit id wish) := by
  rcases h : r.releases id wish with _ | _
  · rw [commit_of_not_releases h]
    exact .refl r
  · rw [commit_of_releases h]
    exact ages_erase

end Registry
end DeviceWatch
