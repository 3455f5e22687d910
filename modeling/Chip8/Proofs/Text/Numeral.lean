import Chip8.Fault
import Mathlib

/-!
# Numerals read back

A numeral has the value of its digits, and zeros in front of them add nothing to it (`value_chars`,
`value_zeros`). A minus sign is told from a digit, so the integer can be read off (`read_hex`,
`read_decimal`), whatever the least width was. In particular no two integers have the same numeral.

A number has at most `k` digits if it is below the `k`th power of the base (`length_chars_le_iff`), so
the integers with a decimal text are those within `10 ^ longest` (`decimalText_eq`).
-/

namespace Chip8

namespace Numeral

/-! ## Digits -/

/-- The number of a digit. -/
def digitValue (c : Char) : Nat := if c.toNat < 58 then c.toNat - 48 else c.toNat - 55

theorem digitValue_digitChar {d : Nat} (h : d < 16) : digitValue (digitChar d) = d := by
  revert d
  decide

/-- The characters of a numeral: a minus sign or a digit. -/
def IsNumeralChar (c : Char) : Prop := c = '-' ∨ ∃ d < 16, c = digitChar d

theorem chars_eq {base : Nat} (hb : 1 < base) (n : Nat) : chars base n =
    if base ≤ n then chars base (n / base) ++ [digitChar (n % base)] else [digitChar n] := by
  rw [chars, digits]
  by_cases h : base ≤ n
  · simp [hb, h, chars]
  · simp [h]

theorem exists_of_mem_chars {base n : Nat} (hb : 1 < base) (h16 : base ≤ 16) {c : Char}
    (h : c ∈ chars base n) : ∃ d < 16, c = digitChar d := by
  induction n using Nat.strong_induction_on with
  | _ n ih =>
    rw [chars_eq hb] at h
    split at h
    · next hn =>
      rw [List.mem_append, List.mem_singleton] at h
      rcases h with h | rfl
      · exact ih (n / base) (Nat.div_lt_self (by omega) hb) h
      · exact ⟨_, (Nat.mod_lt _ (by omega)).trans_le h16, rfl⟩
    · exact ⟨n, by omega, List.mem_singleton.1 h⟩

theorem length_chars_le_iff {base k : Nat} (hb : 1 < base) (hk : 0 < k) (n : Nat) :
    (chars base n).length ≤ k ↔ n < base ^ k := by
  -- One digit is always there, also that of zero, so the induction starts from one.
  induction k, hk using Nat.le_induction generalizing n with
  | base =>
    rw [chars_eq hb, Nat.succ_eq_add_one, zero_add, pow_one]
    split
    · next hn =>
      have hone : 0 < (chars base (n / base)).length := by
        rw [chars_eq hb]
        split <;> simp
      rw [List.length_append, List.length_singleton]
      omega
    · next hn => simp [not_le.1 hn]
  | succ k _ ih =>
    rw [chars_eq hb, pow_succ]
    split
    · rw [List.length_append, List.length_singleton, Nat.add_le_add_iff_right, ih,
        Nat.div_lt_iff_lt_mul (zero_lt_one.trans hb)]
    · next hn =>
      have hpow : base ≤ base ^ k * base :=
        Nat.le_mul_of_pos_left base (pow_pos (zero_lt_one.trans hb) _)
      simp [(not_le.1 hn).trans_le hpow]

/-! ## Values -/

/-- The value of some digits in a base. -/
def value (base : Nat) (cs : List Char) : Nat :=
  cs.foldl (fun v c => v * base + digitValue c) 0

theorem value_concat (base : Nat) (cs : List Char) (c : Char) :
    value base (cs ++ [c]) = value base cs * base + digitValue c := by
  rw [value, List.foldl_append]
  rfl

theorem value_chars {base : Nat} (hb : 1 < base) (h16 : base ≤ 16) (n : Nat) :
    value base (chars base n) = n := by
  induction n using Nat.strong_induction_on with
  | _ n ih =>
    rw [chars_eq hb]
    split
    · next hn =>
      have hdigit : n % base < 16 := (Nat.mod_lt _ (by omega)).trans_le h16
      rw [value_concat, ih (n / base) (Nat.div_lt_self (by omega) hb), digitValue_digitChar hdigit]
      exact Nat.div_add_mod' n base
    · simp [value, digitValue_digitChar (show n < 16 by omega)]

theorem value_zeros (base k : Nat) (cs : List Char) :
    value base (List.replicate k '0' ++ cs) = value base cs := by
  have hzero : digitValue '0' = 0 := rfl
  induction k with
  | zero => rfl
  | succ k ih =>
    rw [value, List.replicate_succ, List.cons_append, List.foldl_cons, hzero, Nat.zero_mul]
    exact ih

/-! ## Integers -/

/-- The integer of a numeral. -/
def read (base : Nat) (cs : List Char) : Int :=
  if cs.head? = some '-' then -value base cs.tail else value base cs

/-- The sign, some zeros and the digits of an integer. -/
def signed (base zeros : Nat) (n : Int) : List Char :=
  sign n ++ (List.replicate zeros '0' ++ chars base n.natAbs)

theorem toList_hex (width : Nat) (n : Int) : ∃ zeros, (hex width n).toList = signed 16 zeros n :=
  ⟨_, by rw [hex, String.toList_ofList, List.append_assoc, signed]⟩

theorem toList_decimal (n : Int) : (decimal n).toList = signed 10 0 n := String.toList_ofList

theorem exists_of_mem_unsigned {base zeros n : Nat} (hb : 1 < base) (h16 : base ≤ 16) {c : Char}
    (h : c ∈ List.replicate zeros '0' ++ chars base n) : ∃ d < 16, c = digitChar d := by
  rcases List.mem_append.1 h with h | h
  · exact ⟨0, by decide, List.eq_of_mem_replicate h⟩
  · exact exists_of_mem_chars hb h16 h

theorem isNumeralChar_of_mem_signed {base zeros : Nat} {n : Int} (hb : 1 < base) (h16 : base ≤ 16)
    {c : Char} (h : c ∈ signed base zeros n) : IsNumeralChar c := by
  rcases List.mem_append.1 h with h | h
  · left
    unfold sign at h
    split at h
    · exact List.mem_singleton.1 h
    · exact absurd h List.not_mem_nil
  · exact Or.inr (exists_of_mem_unsigned hb h16 h)

theorem read_signed {base : Nat} (hb : 1 < base) (h16 : base ≤ 16) (zeros : Nat) (n : Int) :
    read base (signed base zeros n) = n := by
  have hvalue : value base (List.replicate zeros '0' ++ chars base n.natAbs) = n.natAbs := by
    rw [value_zeros, value_chars hb h16]
  rw [read, signed, sign]
  split
  · next hneg =>
    rw [List.cons_append, List.nil_append, List.head?_cons, if_pos rfl, List.tail_cons, hvalue]
    omega
  · next hneg =>
    rw [List.nil_append, hvalue, if_neg]
    · omega
    · -- Without a sign the first character is a digit, and no digit is a minus sign.
      intro hminus
      obtain ⟨d, hd, hc⟩ := exists_of_mem_unsigned hb h16 (List.mem_of_mem_head? hminus)
      revert d
      decide

theorem read_hex (width : Nat) (n : Int) : read 16 (hex width n).toList = n := by
  obtain ⟨zeros, h⟩ := toList_hex width n
  rw [h, read_signed (by decide) (by decide)]

theorem read_decimal (n : Int) : read 10 (decimal n).toList = n := by
  rw [toList_decimal, read_signed (by decide) (by decide)]

theorem isNumeralChar_of_mem_hex {width : Nat} {n : Int} {c : Char}
    (h : c ∈ (hex width n).toList) : IsNumeralChar c := by
  obtain ⟨zeros, hzeros⟩ := toList_hex width n
  rw [hzeros] at h
  exact isNumeralChar_of_mem_signed (by decide) (by decide) h

theorem isNumeralChar_of_mem_decimal {n : Int} {c : Char} (h : c ∈ (decimal n).toList) :
    IsNumeralChar c := by
  rw [toList_decimal] at h
  exact isNumeralChar_of_mem_signed (by decide) (by decide) h

example : read 16 ['-', '0', '5'] = -5 ∧ read 10 ['1', '0'] = 10 := by decide

end Numeral

/-! ## Texts -/

/-- The integers that have a decimal text, and their texts. -/
theorem decimalText_eq (n : Int) :
    decimalText n = if n.natAbs < 10 ^ Numeral.longest then .ok (Numeral.decimal n)
      else .error .numeralTooLong := by
  have hlength : (Numeral.chars 10 n.natAbs).length ≤ Numeral.longest ↔
      n.natAbs < 10 ^ Numeral.longest := Numeral.length_chars_le_iff (by decide) (by decide) _
  unfold decimalText Numeral.decimal?
  by_cases hfits : n.natAbs < 10 ^ Numeral.longest
  · rw [if_pos hfits, if_neg (not_lt.2 (hlength.2 hfits))]
  · rw [if_neg hfits, if_pos (not_le.1 (mt hlength.1 hfits))]

end Chip8
