import DeviceWatch.Codec.Scenario
import DeviceWatch.Proofs.PartialSettings
/-!
# Values are read back

What is written as JSON is read back as it was, through the text. Each shape has a lemma of
its own about the JSON value; settings and filters list all of their fields when they are
written. The text adds nothing, since every value written is plain. Steps of scenarios are
checked before they are read: they are flat, and no number of 64 bits lies beyond the range of
a double.
-/

namespace DeviceWatch.Json

/-! ## Numbers of 64 bits -/

/-- Another digit makes a number no smaller. -/
theorem le_foldl_digits (ds : List Nat) (n : Nat) : n ≤ ds.foldl (fun n d => 10 * n + d) n := by
  induction ds generalizing n with
  | nil => exact Nat.le_refl n
  | cons d ds ih =>
    rw [List.foldl_cons]
    have hrest := ih (10 * n + d)
    omega

namespace Numeral

/-- Digits are collected as long as all of them fit. -/
theorem foldl_addWhole (ds : List Nat) (n : Nat)
    (h : ds.foldl (fun n d => 10 * n + d) n < UInt64.size) :
    ds.foldl Significand.addWhole { value := n } =
      { value := ds.foldl (fun n d => 10 * n + d) n } := by
  induction ds generalizing n with
  | nil => rfl
  | cons d ds ih =>
    rw [List.foldl_cons] at h ⊢
    have hle := le_foldl_digits ds (10 * n + d)
    have hfits : Significand.fits { value := n } d = true := by
      simp only [Significand.fits, Bool.not_false, Bool.true_and, decide_eq_true_eq]
      omega
    have hadd : Significand.addWhole { value := n } d = { value := 10 * n + d } := by
      rw [Significand.addWhole, if_pos hfits, Nat.mul_comm]
    rw [hadd, List.foldl_cons]
    exact ih (10 * n + d) h

theorem significand_ofNat {n : Nat} (h : n < UInt64.size) :
    (ofNat n).significand = { value := n } := by
  have hdigits := ofDigits_toDigits n
  rw [ofDigits] at hdigits
  have hfits : ((Nat.toDigits 10 n).map digitValue).foldl (fun n d => 10 * n + d) 0 <
      UInt64.size := by
    rw [hdigits]
    exact h
  unfold significand ofNat
  simp only [List.foldl_nil]
  rw [foldl_addWhole _ _ hfits, hdigits]

/-- Rounding at most doubles a number. -/
theorem roundToDouble_le (n : Nat) : roundToDouble n ≤ 2 * n := by
  unfold roundToDouble
  simp only
  split
  next => omega
  next hbits =>
    have hn : n ≠ 0 := by
      rintro rfl
      exact hbits (by decide)
    have hunit : Nat.pow 2 (n.log2 + 1 - 53) ≤ n :=
      Nat.le_trans (Nat.pow_le_pow_right (by decide) (by omega)) (Nat.log2_self_le hn)
    have hfloor : n / Nat.pow 2 (n.log2 + 1 - 53) * Nat.pow 2 (n.log2 + 1 - 53) ≤ n :=
      Nat.div_mul_le_self _ _
    split
    next =>
      rw [Nat.add_mul, Nat.one_mul]
      omega
    next => omega

/-- **No number of 64 bits lies beyond the range of a double.** -/
theorem overflows_ofNat {n : Nat} (h : n < UInt64.size) : (ofNat n).overflows = false := by
  have hone : roundToDouble (Nat.pow 10 0) = 1 := by decide
  have hround := roundToDouble_le n
  have hlimit : 2 * UInt64.size ≤ doubleLimit := by
    have hpow : ∀ k, 65 ≤ k → 2 * UInt64.size ≤ (Nat.pow 2 54 - 1) * Nat.pow 2 k := by
      intro k hk
      have hle : Nat.pow 2 65 ≤ Nat.pow 2 k := Nat.pow_le_pow_right Nat.two_pos hk
      exact Nat.le_trans hle (Nat.le_mul_of_pos_left _ (by decide))
    unfold doubleLimit
    exact hpow 970 (by decide)
  unfold overflows
  rw [significand_ofNat h]
  simp only
  split
  next => rfl
  next =>
    rw [if_neg (by decide), Int.toNat_zero, hone, Nat.mul_one, decide_eq_false_iff_not]
    omega

end Numeral

end DeviceWatch.Json

namespace DeviceWatch

open Json

theorem Descriptor.ofJson?_toJson (d : Descriptor) : ofJson? d.toJson = some d := by
  unfold ofJson? toJson
  rw [fields?_record]
  simp [Fields.required?, Fields.value?, asWord16?_ofWord16, asByte?_ofByte]

theorem Filter.ofJson?_toJson (f : Filter) : ofJson? f.toJson = some f := by
  rw [toJson_eq_record]
  exact ofJson?_of_lists (.all f.members)

theorem DeviceSpec.ofJson?_toJson (s : DeviceSpec) : ofJson? s.toJson = some s := by
  unfold ofJson? toJson
  rw [fields?_record]
  simp [Fields.required?, Fields.optional?, Fields.value?, asText?_text, asWord16?_ofWord16,
    asByte?_ofByte]

theorem ContextSettings.ofJson?_toJson (s : ContextSettings) : ofJson? s.toJson = some s := by
  rw [toJson_eq_record]
  exact ofJson?_of_lists (.all s.members)

theorem MonitorSettings.ofJson?_toJson (s : MonitorSettings) : ofJson? s.toJson = some s := by
  have hall : s.Lists ⟨fun _ => true, fun _ => true, fun _ => true⟩
      (s.members (record s.context.members) (record s.filter.members)) :=
    ⟨_, _, .all _, .all _, .all _⟩
  rw [toJson_eq_record]
  exact ofJson?_of_lists hall

/-! ## Steps -/

namespace Step

/-- A step is flat, and its texts and numbers are what they are to be. -/
theorem checked (s : Step) : s.toJson.depth = 1 ∧ s.toJson.isFaithful = true := by
  have hbyte : ∀ b : UInt8, (Numeral.ofNat b.toNat).overflows = false := fun b =>
    Numeral.overflows_ofNat (Nat.lt_trans b.toNat_lt (by decide))
  have hword : ∀ w : UInt16, (Numeral.ofNat w.toNat).overflows = false := fun w =>
    Numeral.overflows_ofNat (Nat.lt_trans w.toNat_lt (by decide))
  have hlong : ∀ w : UInt64, (Numeral.ofNat w.toNat).overflows = false := fun w =>
    Numeral.overflows_ofNat w.toNat_lt
  cases s <;>
    simp [toJson, record, text, ofByte, ofWord16, ofWord64, nat, depth, depthMembers, isFaithful,
      membersFaithful, hbyte, hword, hlong]

/-- The action is found, and what is left are the other fields. -/
theorem action?_record (action : String) (members : List (String × Json))
    (h : ∀ m ∈ members, m.1 ≠ "action") :
    action? (record (("action", text action) :: members)) = some (action, record members) := by
  have hothers : ∀ m ∈ members.map fun m => (some m.1, m.2),
      (m.1 == some "action") = false := by
    intro m hm
    obtain ⟨x, hx, rfl⟩ := List.mem_map.1 hm
    simpa using h x hx
  have hnone : (members.map fun m => (some m.1, m.2)).filter (fun m => m.1 == some "action") = [] :=
    List.filter_eq_nil_iff.2 fun m hm => by rw [hothers m hm]; exact Bool.false_ne_true
  have hall : (members.map fun m => (some m.1, m.2)).filter
      (fun m => !(m.1 == some "action")) = members.map fun m => (some m.1, m.2) :=
    List.filter_eq_self.2 fun m hm => by rw [hothers m hm]; rfl
  unfold action? record
  simp only [List.map_cons, List.filter_cons, beq_self_eq_true, if_true, hnone, Bool.not_true,
    Bool.false_eq_true, if_false, hall]
  rfl

theorem named?_record (make : String → Step) (name : String) :
    named? make (record [("name", text name)]) = some (make name) := by
  unfold named?
  rw [fields?_record]
  simp [Fields.required?, Fields.value?, asText?_text]

/-- What a step's action says of its fields is how they are read. -/
theorem ofJson?_toJson (s : Step) : ofJson? 2 s.toJson = some s := by
  obtain ⟨hdepth, hfaithful⟩ := s.checked
  have hfits : (2 + s.toJson.depth ≤ maxDepth && s.toJson.isFaithful : Bool) = true := by
    rw [hdepth, hfaithful]
    decide
  have hguard : (guard (2 + s.toJson.depth ≤ maxDepth && s.toJson.isFaithful) : Option Unit) =
      some () := if_pos hfits
  unfold ofJson?
  rw [hguard]
  cases s with
  | plug name vendor product deviceClass =>
    simp [toJson, action?_record, ofFields?, fields?_record, Fields.required?, Fields.optional?,
      Fields.value?, asText?_text, asWord16?_ofWord16, asByte?_ofByte]
  | sleep millis =>
    simp [toJson, action?_record, ofFields?, fields?_record, Fields.required?, Fields.value?,
      asWord64?_ofWord64]
  | unplug name => simp [toJson, action?_record, ofFields?, named?_record]
  | openHandle name => simp [toJson, action?_record, ofFields?, named?_record]
  | closeHandle name => simp [toJson, action?_record, ofFields?, named?_record]
  | transferFailed name => simp [toJson, action?_record, ofFields?, named?_record]

end Step

theorem Scenario.ofJson?_toJson (s : Scenario) : ofJson? s.toJson = some s := by
  have hlist := asList?_map Step.ofJson?_toJson s.steps
  unfold ofJson? toJson
  rw [fields?_record]
  simp [Fields.required?, Fields.optional?, Fields.value?, asText?_text, hlist]

/-! ## Through the text -/

section Plain

theorem Descriptor.plain_toJson (d : Descriptor) : Plain d.toJson := by
  refine .record ?_
  simp [plain_ofWord16, plain_ofByte]

theorem Filter.plain_toJson (f : Filter) : Plain f.toJson := by
  refine .record ?_
  simp [plain_ofOptional, plain_ofWord16, plain_ofByte]

theorem DeviceSpec.plain_toJson (s : DeviceSpec) : Plain s.toJson := by
  refine .record ?_
  simp [Plain.text, plain_ofWord16, plain_ofByte]

theorem ContextSettings.plain_toJson (s : ContextSettings) : Plain s.toJson := by
  refine .record ?_
  simp [Plain.bool, plain_ofOptional, plain_ofWord64]

theorem MonitorSettings.plain_toJson (s : MonitorSettings) : Plain s.toJson := by
  have hpatterns : Plain (.array (s.skipPatterns.map .text)) := by
    refine .array fun v hv => ?_
    obtain ⟨pattern, -, rfl⟩ := List.mem_map.1 hv
    exact .text pattern
  have hevents : Plain s.events.toJson := plain_ofByte _
  refine .record ?_
  simp [Plain.bool, Plain.text, plain_ofOptional, plain_ofWord64, hpatterns, hevents,
    ContextSettings.plain_toJson, Filter.plain_toJson]

theorem Step.plain_toJson (s : Step) : Plain s.toJson := by
  cases s <;> refine .record ?_ <;>
    simp [Plain.text, plain_ofWord16, plain_ofByte, plain_ofWord64]

theorem Scenario.plain_toJson (s : Scenario) : Plain s.toJson := by
  have hsteps : Plain (.array (s.steps.map Step.toJson)) := by
    refine .array fun v hv => ?_
    obtain ⟨step, -, rfl⟩ := List.mem_map.1 hv
    exact step.plain_toJson
  refine .record ?_
  simp [Plain.text, hsteps]

end Plain

/-- **What is written is read back as it was**: scenarios, settings, filters, descriptors and
devices to be plugged in. -/
theorem written_read_back :
    (∀ s : Scenario, Scenario.parse? s.toJson.render = some s) ∧
    (∀ s : MonitorSettings, MonitorSettings.parse? s.toJson.render = some s) ∧
    (∀ s : ContextSettings, ContextSettings.parse? s.toJson.render = some s) ∧
    (∀ f : Filter, (Json.parse? f.toJson.render >>= Filter.ofJson?) = some f) ∧
    (∀ d : Descriptor, (Json.parse? d.toJson.render >>= Descriptor.ofJson?) = some d) ∧
    ∀ s : DeviceSpec, (Json.parse? s.toJson.render >>= DeviceSpec.ofJson?) = some s := by
  have hread : ∀ {α : Type} {read : Json → Option α} {v : Json} {a : α}, Plain v →
      read v = some a → (Json.parse? v.render >>= read) = some a := by
    intro α read v a hplain hv
    rw [parse?_render hplain]
    exact hv
  exact ⟨fun s => hread s.plain_toJson s.ofJson?_toJson,
    fun s => hread s.plain_toJson s.ofJson?_toJson, fun s => hread s.plain_toJson s.ofJson?_toJson,
    fun f => hread f.plain_toJson f.ofJson?_toJson, fun d => hread d.plain_toJson d.ofJson?_toJson,
    fun s => hread s.plain_toJson s.ofJson?_toJson⟩

end DeviceWatch
