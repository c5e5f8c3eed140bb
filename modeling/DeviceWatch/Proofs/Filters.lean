import DeviceWatch.Proofs.Refusal
import DeviceWatch.Proofs.Registration
import DeviceWatch.Proofs.Selection
/-!
# Filters given in three ways

A request takes the devices it is about as a filter, field by field, or as three signed
numbers in which `-1` leaves a field open. All of these end as the three numbers, and only a
registration turns numbers into the filter of a record. So there is one account of what
numbers stand for, and the three ways agree with it: the record hears of a device exactly if
every number is `-1` or the number that the device has, and a filter given in any way comes
out as it was given.
-/

namespace DeviceWatch

/-! ## Hexadecimal -/

namespace Text

/-- The lower-case digits of hexadecimal, by value. -/
def hexDigits : List Char := "0123456789abcdef".toList

/-- The number that hexadecimal digits write. -/
def hexValue (digits : List Char) : Nat :=
  digits.foldl (fun n c => 16 * n + hexDigits.idxOf c) 0

/-- The text writes a number in lower-case hexadecimal, without leading zeros. -/
structure Hexadecimal (n : Nat) (text : String) : Prop where
  lower : ∀ c ∈ text.toList, c ∈ hexDigits
  value : hexValue text.toList = n
  leading : n ≠ 0 → text.toList.head? ≠ some '0'

theorem digitChar_hex : ∀ n < 16, n.digitChar ∈ hexDigits ∧ hexDigits.idxOf n.digitChar = n ∧
    (n ≠ 0 → n.digitChar ≠ '0') := by
  decide

theorem hexadecimal_hex (n : Nat) : Hexadecimal n (hex n) := by
  induction n using Nat.strongRecOn with
  | ind n ih =>
    by_cases hn : n < 16
    · obtain ⟨hlower, hvalue, hleading⟩ := digitChar_hex n hn
      have hdigits : (hex n).toList = [n.digitChar] := by
        rw [hex, String.toList_ofList, Nat.toDigits_of_lt_base hn]
      refine ⟨?_, ?_, ?_⟩
      · rw [hdigits]
        exact List.forall_mem_singleton.2 hlower
      · rw [hdigits, hexValue, List.foldl_cons, List.foldl_nil, hvalue, Nat.mul_zero, Nat.zero_add]
      · rw [hdigits]
        exact fun hne heq => hleading hne (Option.some.inj heq)
    · -- The last digit comes after those of the rest, which is not zero.
      obtain ⟨hlower, hvalue, hleading⟩ := ih (n / 16) (by omega)
      obtain ⟨hlast, hlastValue, -⟩ := digitChar_hex (n % 16) (Nat.mod_lt _ (by decide))
      have hdigits : (hex n).toList = (hex (n / 16)).toList ++ [(n % 16).digitChar] := by
        rw [hex, hex, String.toList_ofList, String.toList_ofList,
          Nat.toDigits_of_base_le (by decide) (by omega)]
      have hsome : (hex (n / 16)).toList ≠ [] := by
        rw [hex, String.toList_ofList]
        exact Nat.toDigits_ne_nil
      refine ⟨?_, ?_, fun _ => ?_⟩
      · rw [hdigits, List.forall_mem_append]
        exact ⟨hlower, List.forall_mem_singleton.2 hlast⟩
      · rw [hexValue] at hvalue
        rw [hdigits, hexValue, List.foldl_append, hvalue, List.foldl_cons, List.foldl_nil,
          hlastValue]
        omega
      · rw [hdigits, List.head?_append_of_ne_nil _ hsome]
        exact hleading (by omega)

end Text

/-- A signed number as a word of 32 bits, in two's complement. -/
theorem toNat_toUInt32 (n : Int32) : n.toUInt32.toNat = (n.toInt % UInt32.size).toNat := by
  have hword : n.toInt = if 2 * n.toUInt32.toNat < UInt32.size then (n.toUInt32.toNat : Int)
      else (n.toUInt32.toNat : Int) - UInt32.size :=
    BitVec.toInt_eq_toNat_cond n.toBitVec
  have hlt : n.toUInt32.toNat < UInt32.size := n.toUInt32.toNat_lt
  rw [UInt32.size] at hword hlt ⊢
  split at hword <;> omega

/-- An event belongs to a set if and only if the set has its bit. -/
theorem EventSet.contains_iff_bit (events : EventSet) (e : Event) :
    events.contains e = true ↔ events.bits &&& e.bit ≠ 0 := by
  rcases events with ⟨_ | _, _ | _⟩ <;> cases e <;> decide

/-! ## Numbers -/

/-- A number admits a value: it leaves the field open, or it is the value. -/
def Selector.Admits (n : Int32) (value : Nat) : Prop :=
  n.toInt = -1 ∨ n.toInt = value

/-- **What three numbers stand for.** -/
structure Selector.Account (s : Selector) : Prop where
  /-- They stand for a filter if and only if all of them fit. -/
  ok_iff : (∃ f, s.check = .ok f) ↔ s.Fit
  /-- If not, the first that does not fit is the error. -/
  error_iff (m : Misfit) : s.check = .error m ↔ s.Misfits m
  /-- The error names the field and shows the number, in two's complement. -/
  text (m : Misfit) : ∃ digits, (RegisterError.misfit m).text =
      "invalid parameter: " ++ (m.field.name ++ " out of range: 0x" ++ digits) ∧
    Text.Hexadecimal (m.value.toInt % UInt32.size).toNat digits
  /-- If so, a listener under the filter hears of what the numbers admit. -/
  hears (f : Filter) : s.check = .ok f → ∀ events d e, f.hears events d e = true ↔
    events.bits &&& e.bit ≠ 0 ∧ Admits s.vendor d.vendor.toNat ∧
      Admits s.product d.product.toNat ∧ Admits s.deviceClass d.deviceClass.toNat

namespace Selector

variable {α : Type} [DecidableEq α] {s : Selector} {m : Misfit} {field : Field} {bound : Nat}
variable {n : Int32} {value : Option Nat}

theorem error_iff : s.check = .error m ↔ s.Misfits m := by
  refine ⟨fun herror => ?_, check_of_misfits⟩
  obtain hfit | ⟨m', hm⟩ := fit_or_misfits s
  · obtain ⟨f, hf⟩ := check_of_fit hfit
    rw [hf] at herror
    cases herror
  · rw [check_of_misfits hm] at herror
    cases herror
    exact hm

theorem ok_iff : (∃ f, s.check = .ok f) ↔ s.Fit := by
  refine ⟨fun ⟨f, hf⟩ => (fit_or_misfits s).resolve_right fun ⟨m, hm⟩ => ?_, check_of_fit⟩
  rw [check_of_misfits hm] at hf
  cases hf

/-- A field admits what its number admits, whatever its values are numbered by. -/
theorem admits_of_checkField {ofNat : Nat → α} {toNat : α → Nat}
    (hofNat : ∀ k < bound, toNat (ofNat k) = k) (htoNat : ∀ a, ofNat (toNat a) = a)
    (h : checkField field bound n = .ok value) (a : α) :
    Filter.admits (value.map ofNat) a = true ↔ Admits n (toNat a) := by
  rw [checkField] at h
  split at h
  next hn =>
    cases h
    exact iff_of_true rfl (Or.inl (eq_wildcard_iff.1 hn))
  next hn =>
    split at h
    next hin =>
      cases h
      have hopen : n.toInt ≠ -1 := fun heq => hn (eq_wildcard_iff.2 heq)
      rw [Option.map_some, Filter.admits, beq_iff_eq, Admits, or_iff_right hopen]
      constructor
      · rintro rfl
        rw [hofNat _ (by omega)]
        omega
      · intro heq
        rw [heq, Int.toNat_natCast, htoNat]
    next => cases h

/-- A filter that numbers stand for has its fields from theirs. -/
theorem check_eq_ok {f : Filter} (h : s.check = .ok f) :
    ∃ v p c, checkField .vendor UInt16.size s.vendor = .ok v ∧
      checkField .product UInt16.size s.product = .ok p ∧
      checkField .deviceClass UInt8.size s.deviceClass = .ok c ∧
      f = ⟨v.map UInt16.ofNat, p.map UInt16.ofNat, c.map UInt8.ofNat⟩ := by
  rw [check] at h
  rcases hv : checkField .vendor UInt16.size s.vendor with _ | v
  · rw [hv] at h
    cases h
  rcases hp : checkField .product UInt16.size s.product with _ | p
  · rw [hv, hp] at h
    cases h
  rcases hc : checkField .deviceClass UInt8.size s.deviceClass with _ | c
  · rw [hv, hp, hc] at h
    cases h
  rw [hv, hp, hc] at h
  exact ⟨v, p, c, rfl, rfl, rfl, (Except.ok.inj h).symm⟩

theorem account (s : Selector) : s.Account where
  ok_iff := ok_iff
  error_iff _ := error_iff
  text m := by
    refine ⟨_, rfl, ?_⟩
    rw [← toNat_toUInt32]
    exact Text.hexadecimal_hex _
  hears f hf events d e := by
    obtain ⟨v, p, c, hv, hp, hc, rfl⟩ := check_eq_ok hf
    have hvendor : Filter.admits (v.map UInt16.ofNat) d.vendor = true ↔ _ :=
      admits_of_checkField (fun _ => UInt16.toNat_ofNat_of_lt') (fun _ => UInt16.ofNat_toNat) hv _
    have hproduct : Filter.admits (p.map UInt16.ofNat) d.product = true ↔ _ :=
      admits_of_checkField (fun _ => UInt16.toNat_ofNat_of_lt') (fun _ => UInt16.ofNat_toNat) hp _
    have hclass : Filter.admits (c.map UInt8.ofNat) d.deviceClass = true ↔ _ :=
      admits_of_checkField (fun _ => UInt8.toNat_ofNat_of_lt') (fun _ => UInt8.ofNat_toNat) hc _
    rw [Filter.hears, Filter.accepts, Bool.and_eq_true, Bool.and_eq_true, Bool.and_eq_true,
      EventSet.contains_iff_bit, hvendor, hproduct, hclass, and_assoc]

end Selector

/-! ## Settings of a request -/

namespace Request

variable {κ : Type}

/-- What can be set of a request. -/
inductive Setting (κ : Type) where
  | flags (flags : Flags)
  | program (program : κ)
  | filter (f : Filter)
  | selector (s : Selector)
  | vendor (v : UInt16)
  | product (p : UInt16)
  | deviceClass (c : UInt8)

/-- Whether the setting is of the devices that the request is about. -/
def Setting.ofDevices : Setting κ → Bool
  | .flags _ | .program _ => false
  | _ => true

/-- The request with something set. -/
def set (r : Request κ) : Setting κ → Request κ
  | .flags flags => r.withFlags flags
  | .program program => r.withProgram program
  | .filter f => r.withFilter f
  | .selector s => r.withSelector s
  | .vendor v => r.withVendor v
  | .product p => r.withProduct p
  | .deviceClass c => r.withClass c

/-- The request for events with these set, one after the other. -/
def build (events : EventSet) (settings : List (Setting κ)) : Request κ :=
  settings.foldl set (.ofEvents events)

/-- The fields of a filter that are not open, each as a setting. -/
def Setting.fields (f : Filter) : List (Setting κ) :=
  (f.vendor.map .vendor).toList ++ (f.product.map .product).toList ++
    (f.deviceClass.map .deviceClass).toList

/-- **Settings of devices that give a filter**: as a filter, as numbers with `-1` for open
fields, or by the other fields in any order. -/
inductive Setting.Give (f : Filter) : List (Setting κ) → Prop
  | filter : Give f [.filter f]
  | selector : Give f [.selector (.ofFilter f)]
  | fields {settings : List (Setting κ)} : settings.Perm (Setting.fields f) → Give f settings

variable {f : Filter} {events : EventSet} {settings : List (Setting κ)} {r r' : Request κ}
variable {x y : Setting κ}

theorem events_foldl_set : (settings.foldl set r).events = r.events := by
  induction settings generalizing r with
  | nil => rfl
  | cons x rest ih =>
    rw [List.foldl_cons, ih]
    cases x <;> rfl

/-- The numbers after a setting depend on those before it. -/
theorem selector_set (h : r.selector = r'.selector) : (r.set x).selector = (r'.set x).selector := by
  cases x <;> simp only [set, withFlags, withProgram, withFilter, withSelector, withVendor,
    withProduct, withClass, h]

theorem selector_set_of_not_ofDevices (hx : x.ofDevices = false) :
    (r.set x).selector = r.selector := by
  cases x <;> first | rfl | cases hx

/-- What else is set has no part in the numbers. -/
theorem selector_foldl_set (h : r.selector = r'.selector) : (settings.foldl set r).selector =
    ((settings.filter Setting.ofDevices).foldl set r').selector := by
  induction settings generalizing r r' with
  | nil => exact h
  | cons x rest ih =>
    rcases hx : x.ofDevices with _ | _
    · rw [List.filter_cons_of_neg (Bool.eq_false_iff.1 hx)]
      exact ih ((selector_set_of_not_ofDevices hx).trans h)
    · rw [List.filter_cons_of_pos hx]
      exact ih (selector_set h)

/-- The fields of one filter may be set in either order. -/
theorem set_comm (hx : x ∈ Setting.fields f) (hy : y ∈ Setting.fields f) (r : Request κ) :
    (r.set x).set y = (r.set y).set x := by
  simp only [Setting.fields, List.mem_append, Option.mem_toList, Option.map_eq_some_iff] at hx hy
  obtain (⟨_, hx, rfl⟩ | ⟨_, hx, rfl⟩) | ⟨_, hx, rfl⟩ := hx <;>
    obtain (⟨_, hy, rfl⟩ | ⟨_, hy, rfl⟩) | ⟨_, hy, rfl⟩ := hy <;>
    first | rfl | rw [Option.some.inj (hx.symm.trans hy)]

/-- **A filter that is given comes out as its numbers**, whichever way it was given. -/
theorem selector_build (h : Setting.Give f (settings.filter Setting.ofDevices)) :
    (build events settings).selector = .ofFilter f := by
  rw [build, selector_foldl_set rfl]
  generalize settings.filter Setting.ofDevices = given at h
  cases h with
  | filter => rfl
  | selector => rfl
  | fields hperm =>
    rw [hperm.foldl_eq' fun x hx y hy r =>
      set_comm (hperm.mem_iff.1 hx) (hperm.mem_iff.1 hy) r]
    rcases f with ⟨_ | v, _ | p, _ | c⟩ <;> rfl

end Request

/-! ## Records of a filter -/

/-- **A request registers a filter as given**: it passes validation, and where registrations
are offered and there is room, a record with the filter is made, before anything is
delivered to it. -/
structure Registers {κ τ : Type} (host : Host κ τ) (c : ContextId) (w : World κ τ)
    (request : Request κ) (f : Filter) (events : EventSet) (program : κ) : Prop where
  valid : request.check = .ok (f, program)
  enrols : w.Offers c → (w.registry c).isFull = false → ∃ v : World κ τ,
    (v.registry c).records = (w.registry c).records ++
      [⟨⟨w.nextCallback⟩, c, events, f, program, .active⟩] ∧
    ((Act.register host c request).run w).world =
      ((Act.enumerate host c ⟨w.nextCallback⟩ (w.existing c request.flags)).run v).world ∧
    ((Act.register host c request).run w).notices = .inserted c ⟨w.nextCallback⟩ ::
      .registered c ⟨w.nextCallback⟩ f events request.flags (w.existing c request.flags) ::
      ((Act.enumerate host c ⟨w.nextCallback⟩ (w.existing c request.flags)).run v).notices

section Registers

variable {κ τ : Type} {host : Host κ τ} {c : ContextId} {w : World κ τ} {request : Request κ}
variable {f : Filter} {program : κ}

/-- A registration that passes all checks makes its record first, also if a callback panics
on what is delivered. -/
theorem Act.registers_of_check (hcheck : request.check = .ok (f, program)) :
    Registers host c w request f request.events program where
  valid := hcheck
  enrols hon hroom := by
    refine ⟨w.enrol c f request.events program, ?_, ?_⟩
    · rw [World.enrol, World.registry_setRegistry, if_pos rfl]
      rfl
    · have hroster : ((w.enrol c f request.events program).context c).roster = w.roster c :=
        World.roster_enrol
      rw [register, run_bind, run_context, Effect.andThen_some, World.offers_iff.1 hon]
      simp only [World.enrol, World.existing] at hroster ⊢
      simp only [Bool.not_true, Bool.false_eq_true, if_false, hcheck, run_bind, run_insert, hroom,
        run_context, run_note, hroster, Effect.andThen_some]
      rcases (enumerate host c ⟨w.nextCallback⟩ _).run _ with ⟨_ | vs, w', ns⟩
      · exact ⟨rfl, rfl⟩
      · simp [Effect.andThen]

end Registers

/-- **The three ways of giving a filter agree.** Numbers stand for a filter if and only if
each is `-1` or in range, and the filter then hears of exactly what the numbers admit. A
typed filter that is given in any of the three ways, whatever else is set and in whatever
order, passes validation and makes a record with exactly this filter. -/
theorem filters_agree {κ τ : Type} : (∀ s : Selector, s.Account) ∧
    ∀ (f : Filter) (events : EventSet) (settings : List (Request.Setting κ)) (program : κ),
      Request.Setting.Give f (settings.filter Request.Setting.ofDevices) →
      (Request.build events settings).program = some program →
      ∀ (host : Host κ τ) (c : ContextId) (w : World κ τ),
        Registers host c w (.build events settings) f events program := by
  refine ⟨Selector.account, fun f events settings program hgive hprogram host c w => ?_⟩
  have hcheck : (Request.build events settings).check = .ok (f, program) := by
    rw [Request.check, Request.selector_build hgive, Selector.check_ofFilter, hprogram]
  have hevents : (Request.build events settings).events = events := Request.events_foldl_set
  have hregisters : Registers host c w _ f (Request.build events settings).events program :=
    Act.registers_of_check hcheck
  rwa [hevents] at hregisters

/-- Vendor and class are set in the other order, between flags and a callback. Of three
numbers the second is the first that does not fit. -/
theorem filters_agree_of_settings :
    Registers Host.idle ⟨1⟩ (World.addContext { memory := () } (.simulated true []) {}).1
        (.build .all [.flags .existing, .deviceClass 3, .program (), .vendor 0x45a])
        ⟨some 0x45a, none, some 3⟩ .all () ∧
      Selector.check ⟨-1, -2, 0x100⟩ = .error ⟨.product, -2⟩ ∧
      (RegisterError.misfit ⟨.product, -2⟩).text =
        "invalid parameter: product_id out of range: 0xfffffffe" := by
  obtain ⟨haccount, hregisters⟩ : (∀ s : Selector, s.Account) ∧
    ∀ (f : Filter) (events : EventSet) (settings : List (Request.Setting Unit)) (program : Unit),
      _ → _ → ∀ (host : Host Unit Unit) (c : ContextId) (w : World Unit Unit), _ := filters_agree
  refine ⟨hregisters _ _ _ _ ?_ rfl _ _ _, ((haccount _).error_iff _).2 ?_, by decide⟩
  · exact .fields (List.Perm.swap _ _ _)
  · refine .product (Or.inl rfl) ?_
    unfold Selector.Fits
    decide

end DeviceWatch
