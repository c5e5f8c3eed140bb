import DeviceWatch.Filter
/-!
# Selectors that stand for filters

The numbers that stand for a filter fit their fields, and checking them gives the filter
back.
-/

namespace DeviceWatch.Selector

variable {field : Field} {bound n : Nat}

theorem checkField_wildcard : checkField field bound wildcard = .ok none :=
  if_pos rfl

/-- A number below the bound of its field is no wildcard, and fits. -/
theorem checkField_ofNat (hn : n < bound) (hbound : bound ≤ UInt16.size) :
    checkField field bound (Int32.ofNat n) = .ok (some n) := by
  have hlt : n < 2 ^ 31 := Nat.lt_of_lt_of_le hn (Nat.le_trans hbound (by decide))
  have hvalue : (Int32.ofNat n).toInt = n := Int32.toInt_ofNat_of_lt hlt
  have hwildcard : Int32.ofNat n ≠ wildcard := by
    intro heq
    have hminus : (n : Int) = -1 := hvalue.symm.trans (congrArg Int32.toInt heq)
    omega
  rw [checkField, if_neg hwildcard, hvalue, if_pos (by omega)]
  rfl

theorem checkField_vendor (v : Option UInt16) :
    checkField field UInt16.size ((v.map fun v => Int32.ofNat v.toNat).getD wildcard) =
      .ok (v.map UInt16.toNat) := by
  rcases v with _ | v
  · exact checkField_wildcard
  · exact checkField_ofNat v.toNat_lt (Nat.le_refl _)

theorem checkField_class (v : Option UInt8) :
    checkField field UInt8.size ((v.map fun v => Int32.ofNat v.toNat).getD wildcard) =
      .ok (v.map UInt8.toNat) := by
  rcases v with _ | v
  · exact checkField_wildcard
  · exact checkField_ofNat v.toNat_lt (by decide)

/-- **The numbers that stand for a filter give it back.** -/
theorem check_ofFilter (f : Filter) : (ofFilter f).check = .ok f := by
  rcases f with ⟨vendor, product, deviceClass⟩
  simp only [check, ofFilter, checkField_vendor, checkField_class]
  simp [bind, Except.bind, pure, Except.pure, Function.comp_def]

end DeviceWatch.Selector
