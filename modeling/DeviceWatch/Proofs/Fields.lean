import DeviceWatch.Codec.Basic
import DeviceWatch.Proofs.JsonText
/-!
# Fields

Values of known shapes are read back from what is written of them. A record has its members
as fields, and a field is found by its name alone: the order of an object does not matter, and
neither does what stands under names that are not known.
-/

namespace DeviceWatch

namespace Json

/-! ## Single values -/

theorem asNatBelow?_nat {bound n : Nat} (h : n < bound) : (nat n).asNatBelow? bound = some n := by
  unfold asNatBelow? nat
  simp only
  rw [Numeral.nat?_ofNat, Option.filter_some, if_pos (decide_eq_true h)]

theorem asByte?_ofByte (b : UInt8) : (ofByte b).asByte? = some b := by
  rw [asByte?, ofByte, asNatBelow?_nat b.toNat_lt, Option.map_some, UInt8.ofNat_toNat]

theorem asWord16?_ofWord16 (w : UInt16) : (ofWord16 w).asWord16? = some w := by
  rw [asWord16?, ofWord16, asNatBelow?_nat w.toNat_lt, Option.map_some, UInt16.ofNat_toNat]

theorem asWord64?_ofWord64 (w : UInt64) : (ofWord64 w).asWord64? = some w := by
  rw [asWord64?, ofWord64, asNatBelow?_nat w.toNat_lt, Option.map_some, UInt64.ofNat_toNat]

theorem asBool?_bool (b : Bool) : (bool b).asBool? = some b :=
  rfl

theorem asText?_text (s : String) : (text s).asText? = some s :=
  rfl

section Composed

variable {α : Type} {read : Json → Option α} {write : α → Json}
variable (h : ∀ a, read (write a) = some a)
include h

/-- What may be missing is read back if what is written of a value is not what is written
where there is none. -/
theorem asOptional?_ofOptional (hnull : ∀ a, write a ≠ .null) (o : Option α) :
    (ofOptional write o).asOptional? read = some o := by
  cases o with
  | none => rfl
  | some a =>
    unfold asOptional? ofOptional
    simp only
    split
    next heq => exact absurd heq (hnull a)
    next => rw [h, Option.map_some]

theorem asList?_map (l : List α) : (array (l.map write)).asList? read = some l := by
  unfold asList?
  simp only
  induction l with
  | nil => rfl
  | cons a l ih =>
    rw [List.map_cons, List.mapM_cons, h, ih]
    rfl

end Composed

/-! ## Fields -/

/-- A record has its members as fields. -/
theorem fields?_record (count : Nat) (members : List (String × Json)) :
    (record members).fields? count = some (.named members) := by
  have hplain : plainMembers? (members.map fun m => (some m.1, m.2)) = some members := by
    unfold plainMembers?
    induction members with
    | nil => rfl
    | cons m rest ih =>
      rw [List.map_cons, List.mapM_cons, ih]
      rfl
  unfold fields? record
  simp only
  rw [hplain, Option.map_some]

/-- The members list those known fields whose names are chosen, in any order, and besides them
only fields under names that are not known. -/
def Lists (known : List (String × Json)) (chosen : String → Bool)
    (members : List (String × Json)) : Prop :=
  ∃ others : List (String × Json), (∀ m ∈ others, m.1 ∉ known.map Prod.fst) ∧
    members.Perm (known.filter (fun m => chosen m.1) ++ others)

/-- All known fields may be listed, as they are. -/
theorem Lists.all (known : List (String × Json)) : Lists known (fun _ => true) known := by
  refine ⟨[], List.forall_mem_nil _, ?_⟩
  rw [List.append_nil, List.filter_eq_self.2 fun _ _ => rfl]

/-- A name that is nowhere finds nothing. -/
theorem filter_name_eq_nil {ms : List (String × Json)} {name : String}
    (h : name ∉ ms.map Prod.fst) : ms.filter (fun m => m.1 == name) = [] :=
  List.filter_eq_nil_iff.2 fun _ hm hname =>
    h (beq_iff_eq.1 hname ▸ List.mem_map_of_mem hm)

/-- Under distinct names a name finds its own field only. -/
theorem filter_name_eq_singleton {ms : List (String × Json)}
    (hdistinct : (ms.map Prod.fst).Nodup) {name : String} {v : Json} (h : (name, v) ∈ ms) :
    ms.filter (fun m => m.1 == name) = [(name, v)] := by
  induction ms with
  | nil => exact absurd h List.not_mem_nil
  | cons m rest ih =>
    rw [List.map_cons, List.nodup_cons] at hdistinct
    obtain ⟨hfresh, hrest⟩ := hdistinct
    rcases List.mem_cons.1 h with rfl | hlater
    · rw [List.filter_cons, if_pos (beq_self_eq_true name), filter_name_eq_nil hfresh]
    · have hother : ¬(m.1 == name) = true := fun hname =>
        hfresh (beq_iff_eq.1 hname ▸ List.mem_map_of_mem hlater)
      rw [List.filter_cons, if_neg hother, ih hrest hlater]

namespace Lists

variable {known members : List (String × Json)} {chosen : String → Bool}
variable (h : Lists known chosen members) (hdistinct : (known.map Prod.fst).Nodup)
include h hdistinct

/-- A known field has its value if it is chosen, and is missing otherwise. -/
theorem value? (place : Nat) {name : String} {v : Json} (hknown : (name, v) ∈ known) :
    (Fields.named members).value? place name = some (if chosen name then some v else none) := by
  obtain ⟨others, hunknown, hperm⟩ := h
  have hothers : name ∉ others.map Prod.fst := by
    intro hmem
    obtain ⟨m, hm, hname⟩ := List.mem_map.1 hmem
    exact hunknown m hm (hname ▸ List.mem_map_of_mem hknown)
  have hfound := hperm.filter fun m => m.1 == name
  rw [List.filter_append, filter_name_eq_nil hothers, List.append_nil] at hfound
  unfold Fields.value?
  by_cases hchosen : chosen name = true
  · have hkept : ((known.filter fun m => chosen m.1).map Prod.fst).Nodup :=
      hdistinct.sublist (List.filter_sublist.map Prod.fst)
    rw [filter_name_eq_singleton hkept (List.mem_filter.2 ⟨hknown, hchosen⟩),
      List.perm_singleton] at hfound
    simp only [hfound, if_pos hchosen]
  · have hleft : name ∉ (known.filter fun m => chosen m.1).map Prod.fst := by
      intro hmem
      obtain ⟨m, hm, rfl⟩ := List.mem_map.1 hmem
      exact hchosen (List.mem_filter.1 hm).2
    rw [filter_name_eq_nil hleft] at hfound
    simp only [hfound.eq_nil, if_neg hchosen]

/-- A known field is read from its value if it is chosen, and is the default otherwise. -/
theorem optional? {α : Type} {read : Json → Option α} (place : Nat) (name : String)
    (default : α) {v : Json} {a : α} (hread : read v = some a) (hknown : (name, v) ∈ known) :
    (Fields.named members).optional? place name read default =
      some (if chosen name then a else default) := by
  unfold Fields.optional?
  rw [h.value? hdistinct place hknown]
  by_cases hchosen : chosen name = true
  · rw [if_pos hchosen, if_pos hchosen]
    exact hread
  · rw [if_neg hchosen, if_neg hchosen]
    rfl

end Lists

end Json

open Json

/-! ## What is written of a value is plain -/

/-- What may be missing is plain if what is written of a value is. -/
theorem plain_ofOptional {α : Type} {write : α → Json} (h : ∀ a, Plain (write a))
    (o : Option α) : Plain (ofOptional write o) := by
  cases o with
  | none => exact .null
  | some a => exact h a

theorem plain_ofByte (b : UInt8) : Plain (ofByte b) :=
  .nat _

theorem plain_ofWord16 (w : UInt16) : Plain (ofWord16 w) :=
  .nat _

theorem plain_ofWord64 (w : UInt64) : Plain (ofWord64 w) :=
  .nat _

end DeviceWatch
