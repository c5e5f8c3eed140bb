import Mathlib.Data.Char
import DeviceWatch.Json.Printer
import DeviceWatch.Json.Reader
/-!
# Printed JSON is read back

The compact form of a value reads as the value, whatever follows it, as long as that cannot
be taken for more digits. This is shown for values without fractions, exponents and halves of
surrogate pairs, which are all that is ever written. Digits, characters and values have one
lemma each; what is bounded in the reader is bounded by the length of what it reads.
-/

namespace DeviceWatch.Json

/-! ## Digits -/

theorem digitChar_digitValue {c : Char} (h : c.isDigit = true) :
    digitChar (digitValue c) = c := by
  have hle : '0'.toNat ≤ c.toNat := by
    simp only [Char.isDigit, Bool.and_eq_true, decide_eq_true_eq] at h
    exact h.1
  unfold digitChar digitValue
  rw [Nat.add_sub_cancel' hle, Char.ofNat_toNat]

theorem ofDigits_toDigits (n : Nat) : ofDigits ((Nat.toDigits 10 n).map digitValue) = n := by
  have hread : (Nat.toDigits 10 n).foldl (fun m c => 10 * m + (c.toNat - '0'.toNat)) 0 = n := by
    rw [← Nat.ofDigitChars_eq_foldl]
    exact Nat.ofDigitChars_toDigits (by decide) (by decide)
  rw [ofDigits, List.foldl_map]
  exact hread

theorem isDigit_of_mem_toDigits {n : Nat} {c : Char} (hc : c ∈ Nat.toDigits 10 n) :
    c.isDigit = true :=
  Nat.isDigit_of_mem_toDigits (by decide) (by decide) hc

/-- The digits of a number begin with a digit. -/
theorem toDigits_cons (n : Nat) : ∃ c cs, Nat.toDigits 10 n = c :: cs ∧ c.isDigit = true := by
  obtain ⟨c, cs, hcs⟩ := List.exists_cons_of_ne_nil (Nat.toDigits_ne_nil (n := n) (b := 10))
  exact ⟨c, cs, hcs, isDigit_of_mem_toDigits (hcs ▸ List.mem_cons_self)⟩

/-- No positive number begins with a zero. -/
theorem toDigits_of_pos {n : Nat} (hn : 0 < n) :
    ∃ c cs, Nat.toDigits 10 n = c :: cs ∧ digitValue c ≠ 0 := by
  have hsingle : ∀ m < 10, 0 < m → digitValue m.digitChar ≠ 0 := by decide
  induction n using Nat.strong_induction_on with
  | _ n ih =>
    by_cases hlt : n < 10
    · exact ⟨n.digitChar, [], Nat.toDigits_of_lt_base hlt, hsingle n hlt hn⟩
    · obtain ⟨c, cs, hdigits, hc⟩ := ih (n / 10) (by omega) (by omega)
      rw [Nat.toDigits_of_base_le (by decide) (by omega), hdigits, List.cons_append]
      exact ⟨c, _, rfl, hc⟩

/-! ## Numbers -/

theorem Numeral.nat?_ofNat (n : Nat) : (Numeral.ofNat n).nat? = some n := by
  unfold Numeral.nat? Numeral.ofNat
  simp [ofDigits_toDigits]

theorem numeral_ofNat (n : Nat) : Printer.numeral (.ofNat n) = Nat.toDigits 10 n := by
  have hsame : ∀ c ∈ Nat.toDigits 10 n, digitChar (digitValue c) = c := fun c hc =>
    digitChar_digitValue (isDigit_of_mem_toDigits hc)
  have hdigits : ((Nat.toDigits 10 n).map digitValue).map digitChar = Nat.toDigits 10 n := by
    rw [List.map_map]
    exact (List.map_congr_left hsame).trans (List.map_id' _)
  unfold Printer.numeral Numeral.ofNat
  simp only [hdigits]
  simp

namespace Reader

/-- What may follow a value within another, or at the end of a text. -/
def Stops (cs : List Char) : Prop :=
  ∀ c ∈ cs.head?, c = ',' ∨ c = ']' ∨ c = '\x7d'

theorem stops_cons {c : Char} (h : c = ',' ∨ c = ']' ∨ c = '\x7d') (cs : List Char) :
    Stops (c :: cs) := by
  rintro _ ⟨⟩
  exact h

theorem digits_toDigits (n : Nat) {rest : List Char} (h : Stops rest) :
    digits (Nat.toDigits 10 n ++ rest) = ((Nat.toDigits 10 n).map digitValue, rest) := by
  have hall : ∀ c ∈ Nat.toDigits 10 n, c.isDigit = true := fun c hc => isDigit_of_mem_toDigits hc
  have hnone : rest.takeWhile Char.isDigit = [] ∧ rest.dropWhile Char.isDigit = rest := by
    cases rest with
    | nil => exact ⟨rfl, rfl⟩
    | cons c cs =>
      have hc : c.isDigit = false := by
        obtain rfl | rfl | rfl := h c rfl <;> rfl
      simp [hc]
  unfold digits
  rw [List.takeWhile_append_of_pos hall, List.dropWhile_append_of_pos hall, hnone.1, hnone.2,
    List.append_nil]

theorem whole?_toDigits (n : Nat) {rest : List Char} (h : Stops rest) :
    whole? (Nat.toDigits 10 n ++ rest) = some ((Nat.toDigits 10 n).map digitValue, rest) := by
  have hdigits := digits_toDigits n h
  unfold whole? digits?
  rw [hdigits]
  rcases Nat.eq_zero_or_pos n with rfl | hn
  · rfl
  · obtain ⟨c, cs, hcs, hc⟩ := toDigits_of_pos hn
    rw [hcs, List.map_cons]
    cases hv : digitValue c with
    | zero => exact absurd hv hc
    | succ v => rfl

/-- A number in decimal is read up to what cannot belong to it. -/
theorem number?_toDigits (n : Nat) {rest : List Char} (h : Stops rest) :
    number? (Nat.toDigits 10 n ++ rest) = some (.ofNat n, rest) := by
  have hfraction : fraction? rest = some ([], rest) := by
    cases rest with
    | nil => rfl
    | cons c cs => obtain rfl | rfl | rfl := h c rfl <;> rfl
  have hexponent : exponent? rest = some (none, rest) := by
    cases rest with
    | nil => rfl
    | cons c cs => obtain rfl | rfl | rfl := h c rfl <;> rfl
  have hunsigned : unsigned? false (Nat.toDigits 10 n ++ rest) = some (.ofNat n, rest) := by
    simp [unsigned?, whole?_toDigits n h, hfraction, hexponent, Numeral.ofNat]
  obtain ⟨c, cs, hcs, hc⟩ := toDigits_cons n
  rw [hcs] at hunsigned ⊢
  unfold number?
  split
  next heq =>
    obtain ⟨rfl, -⟩ := List.cons.inj heq
    cases hc
  next => exact hunsigned

/-! ## Texts -/

variable {c e : Char} {tail : List Char}

theorem pieces?_escape (h : escaped? e = some c) :
    pieces? ('\\' :: e :: tail) = (pieces? tail).map fun p => (.char c :: p.1, p.2) := by
  have he : e ≠ 'u' := by
    rintro rfl
    cases h
  rw [pieces?.eq_4 e tail fun _ _ _ _ _ hu _ => he hu, h]
  cases pieces? tail <;> rfl

theorem pieces?_unit {a b c d : Char} {n : Nat} (h : unit? a b c d = some n) :
    pieces? ('\\' :: 'u' :: a :: b :: c :: d :: tail) =
      (pieces? tail).map fun p => (.unit n :: p.1, p.2) := by
  rw [pieces?, h]
  cases pieces? tail <;> rfl

theorem pieces?_plain (hquote : c ≠ '"') (hslash : c ≠ '\\') (hc : ¬c.toNat < 0x20) :
    pieces? (c :: tail) = (pieces? tail).map fun p => (.char c :: p.1, p.2) := by
  rw [pieces?.eq_5 c tail hquote (fun _ _ _ _ _ hu => absurd hu hslash)
    fun _ _ hu => absurd hu hslash]
  simp only [hc, hslash, decide_false, Bool.or_false, Bool.false_eq_true, if_false]
  cases pieces? tail <;> rfl

/-- A unit that is no half of a pair stands for a character of its own. -/
theorem join?_unit {n : Nat} (hn : n < 0x20) (ps : List Piece) :
    join? (.unit n :: ps) = (join? ps).map (Char.ofNat n :: ·) := by
  have hhigh : isHigh n = false := by
    unfold isHigh
    simp only [Bool.and_eq_false_imp, decide_eq_true_eq]
    omega
  have hlow : isLow n = false := by
    unfold isLow
    simp only [Bool.and_eq_false_imp, decide_eq_true_eq]
    omega
  rcases ps with _ | ⟨_ | m, ps⟩
  · simp [join?, hhigh, hlow]
  · simp [join?, hhigh, hlow]
  · simp [join?, hhigh, hlow]

/-- The unit that four characters stand for. -/
def unitOf? : List Char → Option Nat
  | [a, b, c, d] => unit? a b c d
  | _ => none

/-- The four digits of a control character are read as its number. -/
theorem unit?_hexFilled {n : Nat} (hn : n < 0x20) : ∃ a b c d,
    (Text.hexFilled 4 n).toList = [a, b, c, d] ∧ unit? a b c d = some n := by
  have hall : ∀ m < 0x20, unitOf? (Text.hexFilled 4 m).toList = some m := by decide
  have hread := hall n hn
  unfold unitOf? at hread
  split at hread
  next a b c d heq => exact ⟨a, b, c, d, heq, hread⟩
  next => cases hread

/-- **A written character is read as one part**, which stands for it. -/
theorem exists_piece (c : Char) : ∃ p,
    (∀ tail, pieces? (Printer.char c ++ tail) =
      (pieces? tail).map fun found => (p :: found.1, found.2)) ∧
    ∀ ps, join? (p :: ps) = (join? ps).map (c :: ·) := by
  unfold Printer.char
  split
  case h_8 hquote hslash _ _ _ _ _ =>
    split
    next hc =>
      obtain ⟨x, y, z, u, hdigits, hunit⟩ := unit?_hexFilled hc
      refine ⟨.unit c.toNat, fun tail => ?_, fun ps => ?_⟩
      · rw [hdigits]
        exact pieces?_unit hunit
      · rw [join?_unit hc, Char.ofNat_toNat]
    next hc => exact ⟨.char c, fun tail => pieces?_plain hquote hslash hc, fun ps => rfl⟩
  all_goals exact ⟨.char _, fun tail => pieces?_escape rfl, fun ps => rfl⟩

theorem text_append (s : String) (rest : List Char) :
    Printer.text (some s) ++ rest = '"' :: (s.toList.flatMap Printer.char ++ '"' :: rest) := by
  unfold Printer.text
  simp

/-- A written text is read up to its closing quote. -/
theorem text?_text (s : String) (rest : List Char) :
    text? (s.toList.flatMap Printer.char ++ '"' :: rest) = some (some s, rest) := by
  have hpieces : ∀ l : List Char, ∃ ps,
      pieces? (l.flatMap Printer.char ++ '"' :: rest) = some (ps, rest) ∧ join? ps = some l := by
    intro l
    induction l with
    | nil => exact ⟨[], pieces?.eq_2 rest, rfl⟩
    | cons c cs ih =>
      obtain ⟨ps, hps, hjoin⟩ := ih
      obtain ⟨p, hread, hp⟩ := exists_piece c
      refine ⟨p :: ps, ?_, ?_⟩
      · rw [List.flatMap_cons, List.append_assoc, hread, hps]
        rfl
      · rw [hp, hjoin]
        rfl
  obtain ⟨ps, hps, hjoin⟩ := hpieces s.toList
  rw [text?, hps]
  simp [hjoin]

end Reader

/-! ## Values -/

/-- The values that are ever written: their numbers are natural, and their texts name
strings. -/
inductive Plain : Json → Prop
  | null : Plain .null
  | bool (b : Bool) : Plain (.bool b)
  | nat (n : Nat) : Plain (.nat n)
  | text (s : String) : Plain (.text s)
  | array {items : List Json} : (∀ v ∈ items, Plain v) → Plain (.array items)
  | record {members : List (String × Json)} : (∀ m ∈ members, Plain m.2) → Plain (.record members)

namespace Reader

theorem skipBlank_cons {c : Char} (h : isBlank c = false) (cs : List Char) :
    skipBlank (c :: cs) = c :: cs :=
  List.dropWhile_cons_of_neg (by simp [h])

theorem isBlank_of_isDigit {c : Char} (h : c.isDigit = true) : isBlank c = false := by
  unfold isBlank
  simp only [Bool.or_eq_false_iff, decide_eq_false_iff_not]
  refine ⟨⟨⟨?_, ?_⟩, ?_⟩, ?_⟩ <;> (rintro rfl; cases h)

/-- Whatever follows it, the value is read from its printed form. -/
def Reads (v : Json) : Prop :=
  ∀ n rest, 2 * (Printer.value v).length + 1 ≤ n → Stops rest →
    value? n (Printer.value v ++ rest) = some (v, rest)

/-- A printed value begins neither with a blank nor with the end of a list. -/
theorem value_head {v : Json} (h : Plain v) : ∃ c cs, Printer.value v = c :: cs ∧
    isBlank c = false ∧ c ≠ ']' ∧ c ≠ '\x7d' := by
  cases h with
  | null => exact ⟨_, _, rfl, rfl, by decide, by decide⟩
  | bool b => cases b <;> exact ⟨_, _, rfl, rfl, by decide, by decide⟩
  | text s => exact ⟨_, _, rfl, rfl, by decide, by decide⟩
  | @array items _ => cases items <;> exact ⟨_, _, rfl, rfl, by decide, by decide⟩
  | @record members _ => cases members <;> exact ⟨_, _, rfl, rfl, by decide, by decide⟩
  | nat n =>
    obtain ⟨c, cs, hcs, hc⟩ := toDigits_cons n
    refine ⟨c, cs, (numeral_ofNat n).trans hcs, isBlank_of_isDigit hc, ?_, ?_⟩
    · rintro rfl
      cases hc
    · rintro rfl
      cases hc

theorem reads_nat (n : Nat) : Reads (.nat n) := by
  intro fuel rest hfuel hrest
  obtain ⟨fuel, rfl⟩ : ∃ k, fuel = k + 1 := ⟨fuel - 1, by omega⟩
  have hread := number?_toDigits n hrest
  have hprint : Printer.value (.nat n) = Nat.toDigits 10 n := numeral_ofNat n
  obtain ⟨c, cs, hcs, hc⟩ := toDigits_cons n
  rw [hcs, List.cons_append] at hread
  rw [hprint, hcs, List.cons_append, value?, skipBlank_cons (isBlank_of_isDigit hc)]
  -- A digit is none of the characters that begin another kind of value.
  split
  case h_8 =>
    rw [hread]
    rfl
  case h_1 heq => cases heq
  all_goals
    next heq =>
      obtain ⟨rfl, -⟩ := List.cons.inj heq
      cases hc

theorem reads_text (s : String) : Reads (.text s) := by
  intro fuel rest hfuel hrest
  obtain ⟨fuel, rfl⟩ : ∃ k, fuel = k + 1 := ⟨fuel - 1, by omega⟩
  rw [show Printer.value (.text s) = Printer.text (some s) from rfl, text_append, value?,
    skipBlank_cons rfl]
  show (text? _).map _ = _
  rw [text?_text]
  rfl

theorem reads_word (v : Json) (h : v = .null ∨ v = .bool true ∨ v = .bool false) : Reads v := by
  intro fuel rest hfuel hrest
  obtain ⟨fuel, rfl⟩ : ∃ k, fuel = k + 1 := ⟨fuel - 1, by omega⟩
  obtain rfl | rfl | rfl := h
  · simp [Printer.value, value?, skipBlank, isBlank, word?]
  · simp [Printer.value, value?, skipBlank, isBlank, word?]
  · simp [Printer.value, value?, skipBlank, isBlank, word?]

/-- The items of a printed array are read up to its end. -/
theorem items?_items (v : Json) (rest : List Json) (tail : List Char)
    (hreads : ∀ u ∈ v :: rest, Reads u) (n : Nat)
    (hn : 2 * ((Printer.value v).length + (Printer.items rest).length) + 2 ≤ n) :
    items? n (Printer.value v ++ (Printer.items rest ++ ']' :: tail)) = some (v :: rest, tail) := by
  induction rest generalizing v n with
  | nil =>
    obtain ⟨n, rfl⟩ : ∃ k, n = k + 1 := ⟨n - 1, by omega⟩
    have hstops : Stops (']' :: tail) := stops_cons (Or.inr (Or.inl rfl)) tail
    have hv := hreads v List.mem_cons_self n (']' :: tail) (by omega) hstops
    rw [Printer.items, List.nil_append, items?, hv]
    rfl
  | cons u rest ih =>
    obtain ⟨n, rfl⟩ : ∃ k, n = k + 1 := ⟨n - 1, by omega⟩
    have hlist : Printer.items (u :: rest) ++ ']' :: tail =
        ',' :: (Printer.value u ++ (Printer.items rest ++ ']' :: tail)) := by
      simp [Printer.items]
    have hlen : (Printer.items (u :: rest)).length =
        (Printer.value u).length + (Printer.items rest).length + 1 := by
      simp [Printer.items]
    have hv := hreads v List.mem_cons_self n
      (',' :: (Printer.value u ++ (Printer.items rest ++ ']' :: tail))) (by omega)
      (stops_cons (Or.inl rfl) _)
    have hrest := ih u (fun x hx => hreads x (List.mem_cons_of_mem v hx)) n (by omega)
    rw [hlist, items?, hv]
    simp only [Option.bind_eq_bind, Option.bind_some]
    rw [skipBlank_cons rfl]
    show (items? n _).map _ = _
    rw [hrest]
    rfl

theorem reads_array {items : List Json} (hplain : ∀ v ∈ items, Plain v)
    (hreads : ∀ v ∈ items, Reads v) : Reads (.array items) := by
  intro fuel rest hfuel hrest
  obtain ⟨fuel, rfl⟩ : ∃ k, fuel = k + 1 := ⟨fuel - 1, by omega⟩
  cases items with
  | nil =>
    simp [Printer.value, value?, skipBlank, isBlank]
  | cons v items =>
    have hprint : Printer.value (.array (v :: items)) ++ rest =
        '[' :: (Printer.value v ++ (Printer.items items ++ ']' :: rest)) := by
      simp [Printer.value]
    have hlen : (Printer.value (.array (v :: items))).length =
        (Printer.value v).length + (Printer.items items).length + 2 := by
      simp only [Printer.value, List.length_append, List.length_cons, List.length_nil]
      omega
    obtain ⟨c, cs, hcs, hblank, hclose, -⟩ := value_head (hplain v List.mem_cons_self)
    have hitems := items?_items v items rest hreads fuel (by omega)
    rw [hprint, value?, skipBlank_cons rfl]
    simp only
    rw [hcs, List.cons_append] at hitems ⊢
    rw [skipBlank_cons hblank]
    split
    next heq => exact absurd (List.cons.inj heq).1 hclose
    next =>
      rw [hitems]
      rfl

/-- A printed member is read, and then what follows it. -/
theorem members?_member (key : String) {v : Json} (hv : Reads v) {n : Nat} {more : List Char}
    (hn : 2 * (Printer.value v).length + 1 ≤ n) (hmore : Stops more) :
    members? (n + 1) (Printer.text (some key) ++ ':' :: (Printer.value v ++ more)) =
      match skipBlank more with
      | ',' :: rest => (members? n rest).map fun p => ((some key, v) :: p.1, p.2)
      | '\x7d' :: rest => some ([(some key, v)], rest)
      | _ => none := by
  rw [text_append, members?, skipBlank_cons rfl]
  simp only [text?_text, Option.bind_eq_bind, Option.bind_some]
  rw [skipBlank_cons rfl]
  show (value? n (Printer.value v ++ more)).bind _ = _
  rw [hv n more hn hmore]
  rfl

/-- The members of a printed object are read up to its end. -/
theorem members?_members (key : String) (v : Json) (rest : List (String × Json))
    (tail : List Char) (hreads : ∀ m ∈ (key, v) :: rest, Reads m.2) (n : Nat)
    (hn : 2 * ((Printer.value v).length +
      (Printer.members (rest.map fun m => (some m.1, m.2))).length) + 2 ≤ n) :
    members? n (Printer.text (some key) ++ ':' :: (Printer.value v ++
        (Printer.members (rest.map fun m => (some m.1, m.2)) ++ '\x7d' :: tail))) =
      some ((some key, v) :: rest.map fun m => (some m.1, m.2), tail) := by
  have hv : Reads v := hreads (key, v) List.mem_cons_self
  induction rest generalizing key v n with
  | nil =>
    obtain ⟨n, rfl⟩ : ∃ k, n = k + 1 := ⟨n - 1, by omega⟩
    have hstops : Stops ('\x7d' :: tail) := stops_cons (Or.inr (Or.inr rfl)) tail
    rw [List.map_nil, Printer.members, List.nil_append, members?_member key hv (by omega) hstops,
      skipBlank_cons rfl]
    rfl
  | cons m rest ih =>
    obtain ⟨n, rfl⟩ : ∃ k, n = k + 1 := ⟨n - 1, by omega⟩
    obtain ⟨next, u⟩ := m
    have hlist : Printer.members (((next, u) :: rest).map fun m => (some m.1, m.2)) ++
        '\x7d' :: tail = ',' :: (Printer.text (some next) ++ ':' :: (Printer.value u ++
          (Printer.members (rest.map fun m => (some m.1, m.2)) ++ '\x7d' :: tail))) := by
      simp [Printer.members]
    have hlen : (Printer.members (((next, u) :: rest).map fun m => (some m.1, m.2))).length =
        (Printer.text (some next)).length + (Printer.value u).length +
          (Printer.members (rest.map fun m => (some m.1, m.2))).length + 2 := by
      simp only [List.map_cons, Printer.members, List.length_append, List.length_cons]
      omega
    have hlater : ∀ x ∈ (next, u) :: rest, Reads x.2 := fun x hx =>
      hreads x (List.mem_cons_of_mem _ hx)
    have hrest := ih next u hlater n (by omega) (hlater (next, u) List.mem_cons_self)
    rw [hlist, members?_member key hv (by omega) (stops_cons (Or.inl rfl) _), skipBlank_cons rfl]
    show (members? n _).map _ = _
    rw [hrest]
    rfl

theorem reads_record {members : List (String × Json)} (hreads : ∀ m ∈ members, Reads m.2) :
    Reads (.record members) := by
  intro fuel rest hfuel hrest
  obtain ⟨fuel, rfl⟩ : ∃ k, fuel = k + 1 := ⟨fuel - 1, by omega⟩
  cases members with
  | nil =>
    simp [record, Printer.value, value?, skipBlank, isBlank]
  | cons m members =>
    obtain ⟨key, v⟩ := m
    have hprint : Printer.value (.record ((key, v) :: members)) ++ rest =
        '\x7b' :: (Printer.text (some key) ++ ':' :: (Printer.value v ++
          (Printer.members (members.map fun m => (some m.1, m.2)) ++ '\x7d' :: rest))) := by
      simp [record, Printer.value]
    have hlen : (Printer.value (.record ((key, v) :: members))).length =
        (Printer.text (some key)).length + (Printer.value v).length +
          (Printer.members (members.map fun m => (some m.1, m.2))).length + 3 := by
      simp only [record, List.map_cons, Printer.value, List.length_append, List.length_cons,
        List.length_nil]
      omega
    have hmembers := members?_members key v members rest hreads fuel (by omega)
    rw [hprint, value?, skipBlank_cons rfl]
    simp only
    rw [text_append] at hmembers ⊢
    rw [skipBlank_cons rfl]
    split
    next heq => exact absurd (List.cons.inj heq).1 (by decide)
    next =>
      rw [hmembers]
      rfl

/-- **Every value that is written is read back**, whatever follows it. -/
theorem reads_of_plain {v : Json} (h : Plain v) : Reads v := by
  induction h with
  | null => exact reads_word _ (Or.inl rfl)
  | bool b => cases b with
    | true => exact reads_word _ (Or.inr (Or.inl rfl))
    | false => exact reads_word _ (Or.inr (Or.inr rfl))
  | nat n => exact reads_nat n
  | text s => exact reads_text s
  | array hplain ih => exact reads_array hplain ih
  | record _ ih => exact reads_record ih

end Reader

/-- **The compact form of a value stands for the value.** -/
theorem parse?_render {v : Json} (h : Plain v) : parse? v.render = some v := by
  have hread := Reader.reads_of_plain h (2 * (Printer.value v).length + 2) [] (by omega) nofun
  rw [List.append_nil] at hread
  unfold parse? render Reader.parseChars?
  rw [String.toList_ofList, hread]
  rfl

end DeviceWatch.Json
