import Chip8.Instruction.Decode
import Chip8.Proofs.Words

/-!
# Words and instructions

A word is four hexadecimal digits (`digit`), and the decoder reads its fields off them.

**From an instruction** (`decodeWord_encode`). An instruction whose operands fit their fields
(`FitsWord`) is the one that its word decodes to.

**From a word** (`digit_encode_decodeWord`). A word that decodes to an instruction is the word of
that instruction, but for the digits that the decoder ignores (`Ignores`): these come back as zero.
Every other word does nothing, and which words these are is said by their digits (`Unrecognized`).

**Words that decode alike** (`decodeWord_eq_iff`). Both facts together say when two words decode to
the same instruction: encoding it gives either word, up to ignored digits, and decoding it again
gives nothing new.
-/

namespace Chip8.Instruction

/-! ## Digits and fields -/

/-- A hexadecimal digit of a word, the last one at position zero. -/
def digit (w : UInt16) (k : Nat) : Nat := w.toNat / 16 ^ k % 16

theorem eq_of_digits {v w : UInt16} (h : ∀ k < 4, digit v k = digit w k) : v = w := by
  have hv := v.toNat_lt
  have hw := w.toNat_lt
  have h0 := h 0 (by omega)
  have h1 := h 1 (by omega)
  have h2 := h 2 (by omega)
  have h3 := h 3 (by omega)
  simp only [digit] at h0 h1 h2 h3
  apply UInt16.toNat_inj.1
  omega

theorem family_eq (w : UInt16) : family w = w.toNat / 4096 :=
  (UInt16.toNat_shiftRight w 12).trans (Nat.shiftRight_eq_div_pow _ _)

theorem fieldX_val (w : UInt16) : (fieldX w).val = w.toNat / 256 % 16 :=
  congrArg (· % 16) ((UInt16.toNat_shiftRight w 8).trans (Nat.shiftRight_eq_div_pow _ _))

theorem fieldY_val (w : UInt16) : (fieldY w).val = w.toNat / 16 % 16 :=
  congrArg (· % 16) ((UInt16.toNat_shiftRight w 4).trans (Nat.shiftRight_eq_div_pow _ _))

theorem lowDigit_eq (w : UInt16) : lowDigit w = w.toNat % 16 :=
  Nat.and_two_pow_sub_one_eq_mod w.toNat 4

theorem lowPair_eq (w : UInt16) : lowPair w = w.toNat % 256 :=
  Nat.and_two_pow_sub_one_eq_mod w.toNat 8

theorem lowTriple_eq (w : UInt16) : lowTriple w = w.toNat % 4096 :=
  Nat.and_two_pow_sub_one_eq_mod w.toNat 12

theorem family_lt (w : UInt16) : family w < 16 := by
  have hw := w.toNat_lt
  rw [family_eq]
  omega

theorem lowDigit_lt (w : UInt16) : lowDigit w < 16 := by
  rw [lowDigit_eq]
  omega

theorem digit_three (w : UInt16) : digit w 3 = family w := by
  have hw := w.toNat_lt
  rw [digit, family_eq]
  omega

theorem digit_zero (w : UInt16) : digit w 0 = lowDigit w := by
  rw [digit, lowDigit_eq, pow_zero, Nat.div_one]

theorem lowTriple_eq_lowPair (w : UInt16) :
    (lowTriple w : Int) = (fieldX w).val * 0x100 + lowPair w := by
  rw [lowTriple_eq, lowPair_eq, fieldX_val]
  omega

theorem lowTriple_eq_digits (w : UInt16) :
    (lowTriple w : Int) = (fieldX w).val * 0x100 + (fieldY w).val * 0x10 + lowDigit w := by
  rw [lowTriple_eq, lowDigit_eq, fieldX_val, fieldY_val]
  omega

/-! ## Fields of an encoded word -/

theorem toNat_word {l : Nat} {rest : Int} (hl : l < 16) (h0 : 0 ≤ rest) (h : rest < 0x1000) :
    (word l rest).toNat = l * 0x1000 + rest.toNat := by
  simp only [word, UInt16.ofInt, UInt16.toNat_ofNat']
  omega

section

variable {l : Nat} {x y : Register} {a k n : Int}

theorem family_word (hl : l < 16) (h0 : 0 ≤ a) (h : a < 0x1000) : family (word l a) = l := by
  rw [family_eq, toNat_word hl h0 h]
  omega

theorem lowTriple_word (hl : l < 16) (h0 : 0 ≤ a) (h : a < 0x1000) :
    (lowTriple (word l a) : Int) = a := by
  rw [lowTriple_eq, toNat_word hl h0 h]
  omega

theorem fieldX_word (hl : l < 16) (h0 : 0 ≤ k) (h : k < 0x100) :
    fieldX (word l (x.val * 0x100 + k)) = x := by
  have hx := x.isLt
  apply Fin.ext
  rw [fieldX_val, toNat_word hl (by omega) (by omega)]
  omega

theorem lowPair_word (hl : l < 16) (h0 : 0 ≤ k) (h : k < 0x100) :
    lowPair (word l (x.val * 0x100 + k)) = k.toNat := by
  have hx := x.isLt
  rw [lowPair_eq, toNat_word hl (by omega) (by omega)]
  omega

theorem lowDigit_word (hl : l < 16) (h0 : 0 ≤ k) (h : k < 0x100) :
    lowDigit (word l (x.val * 0x100 + k)) = k.toNat % 16 := by
  have hx := x.isLt
  rw [lowDigit_eq, toNat_word hl (by omega) (by omega)]
  omega

theorem fieldY_word (hl : l < 16) (h0 : 0 ≤ n) (h : n < 0x10) :
    fieldY (word l (x.val * 0x100 + (y.val * 0x10 + n))) = y := by
  have hx := x.isLt
  have hy := y.isLt
  apply Fin.ext
  rw [fieldY_val, toNat_word hl (by omega) (by omega)]
  omega

theorem toNat_digit_mod (h0 : 0 ≤ n) (h : n < 0x10) : (y.val * 0x10 + n).toNat % 16 = n.toNat := by
  omega

end

/-! ## Encoding, then decoding -/

/-- Every operand fits its field of the word. -/
def FitsWord : Instruction → Prop
  | jump a | call a | jumpOffset a | loadIndex a => 0 ≤ a ∧ a < 0x1000
  | skipEqualByte _ k | skipNotEqualByte _ k | loadByte _ k | addByte _ k | random _ k =>
    0 ≤ k ∧ k < 0x100
  | draw _ _ n => 0 ≤ n ∧ n < 0x10
  | _ => True

/-- **An instruction is what its word decodes to.** -/
theorem decodeWord_encode {i : Instruction} (hi : i ≠ noOperation) (h : i.FitsWord) :
    decodeWord (encode i) = i := by
  cases i with
  | noOperation => exact absurd rfl hi
  | clearScreen | ret => rfl
  | jump a | call a | jumpOffset a | loadIndex a =>
    simp only [FitsWord] at h
    simp (disch := omega) only [encode, decodeWord, family_word, lowTriple_word]
  | skipEqualByte x k | skipNotEqualByte x k | loadByte x k | addByte x k | random x k =>
    have hx := x.isLt
    simp only [FitsWord] at h
    simp (disch := omega) only [encode, decodeWord, family_word, fieldX_word, lowPair_word,
      Int.toNat_of_nonneg]
  | draw x y n =>
    have hx := x.isLt
    have hy := y.isLt
    simp only [FitsWord] at h
    simp (disch := omega) only [encode, decodeWord, family_word, Int.add_assoc, fieldX_word,
      fieldY_word, lowDigit_word, toNat_digit_mod, Int.toNat_of_nonneg]
  | skipEqualRegister x y | skipNotEqualRegister x y =>
    have hx := x.isLt
    have hy := y.isLt
    -- The last digit is a zero that is not written.
    rw [encode, ← Int.add_zero (_ + _)]
    simp (disch := omega) only [decodeWord, family_word, Int.add_assoc, fieldX_word, fieldY_word]
  | loadRegister x y =>
    have hx := x.isLt
    have hy := y.isLt
    rw [encode, ← Int.add_zero (_ + _)]
    simp (disch := omega) only [decodeWord, family_word, Int.add_assoc, fieldX_word, fieldY_word,
      lowDigit_word, toNat_digit_mod]
    rfl
  | bitOr x y | bitAnd x y | bitXor x y | addRegister x y | subtract x y | subtractReversed x y =>
    have hx := x.isLt
    have hy := y.isLt
    simp (disch := omega) only [encode, decodeWord, family_word, Int.add_assoc, fieldX_word,
      fieldY_word, lowDigit_word, toNat_digit_mod]
    rfl
  | shiftRight x | shiftLeft x =>
    have hx := x.isLt
    simp (disch := omega) only [encode, decodeWord, family_word, fieldX_word, lowDigit_word]
    rfl
  | _ x =>
    have hx := x.isLt
    simp (disch := omega) only [encode, decodeWord, family_word, fieldX_word, lowPair_word]
    rfl

/-! ## Words of no known form -/

/-- The word is of no known form. -/
def Unrecognized (w : UInt16) : Prop :=
  digit w 3 = 0x0 ∧ w ≠ 0x00E0 ∧ w ≠ 0x00EE ∨
  digit w 3 = 0x8 ∧ (0x8 ≤ digit w 0 ∧ digit w 0 ≤ 0xD ∨ digit w 0 = 0xF) ∨
  digit w 3 = 0xE ∧ w.toNat % 0x100 ∉ [0x9E, 0xA1] ∨
  digit w 3 = 0xF ∧
    w.toNat % 0x100 ∉ [0x07, 0x0A, 0x15, 0x18, 0x1E, 0x29, 0x33, 0x55, 0x65]

theorem decodeSystem_eq_noOperation_iff (w : UInt16) :
    decodeSystem w = noOperation ↔ w ≠ 0x00E0 ∧ w ≠ 0x00EE := by
  unfold decodeSystem
  split_ifs <;> simp_all

theorem decodeArithmetic_eq_noOperation_iff (x y : Register) {n : Nat} (hn : n < 16) :
    decodeArithmetic x y n = noOperation ↔ 0x8 ≤ n ∧ n ≤ 0xD ∨ n = 0xF := by
  interval_cases n <;> simp [decodeArithmetic]

theorem decodeKey_eq_noOperation_iff (x : Register) (kk : Nat) :
    decodeKey x kk = noOperation ↔ kk ∉ [0x9E, 0xA1] := by
  unfold decodeKey
  split <;> simp_all

theorem decodeTransfer_eq_noOperation_iff (x : Register) (kk : Nat) :
    decodeTransfer x kk = noOperation ↔
      kk ∉ [0x07, 0x0A, 0x15, 0x18, 0x1E, 0x29, 0x33, 0x55, 0x65] := by
  unfold decodeTransfer
  split <;> simp_all

theorem decodeWord_eq_noOperation_iff (w : UInt16) :
    decodeWord w = noOperation ↔ Unrecognized w := by
  rw [Unrecognized, digit_three, digit_zero, ← lowPair_eq]
  have hlt := family_lt w
  unfold decodeWord
  split
  -- The families 0, 8, E and F decode further; in the others every word has a form.
  case h_1 hf => simp [hf, decodeSystem_eq_noOperation_iff]
  case h_9 hf => simp [hf, decodeArithmetic_eq_noOperation_iff _ _ (lowDigit_lt w)]
  case h_15 hf => simp [hf, decodeKey_eq_noOperation_iff]
  case h_16 =>
    have hf : family w = 0xF := by
      simp only [imp_false] at *
      omega
    simp [hf, decodeTransfer_eq_noOperation_iff]
  all_goals
    rename_i hf
    simp [hf]

/-! ## Decoding, then encoding -/

theorem fitsWord_decodeWord (w : UInt16) : (decodeWord w).FitsWord := by
  have haddress : 0 ≤ (lowTriple w : Int) ∧ (lowTriple w : Int) < 0x1000 := by
    rw [lowTriple_eq]
    omega
  have hbyte : 0 ≤ (lowPair w : Int) ∧ (lowPair w : Int) < 0x100 := by
    rw [lowPair_eq]
    omega
  have hdigit : 0 ≤ (lowDigit w : Int) ∧ (lowDigit w : Int) < 0x10 := by
    rw [lowDigit_eq]
    omega
  unfold decodeWord
  split
  case h_1 => unfold decodeSystem; split_ifs <;> trivial
  case h_9 => unfold decodeArithmetic; split <;> trivial
  case h_15 => unfold decodeKey; split <;> trivial
  case h_16 => unfold decodeTransfer; split <;> trivial
  all_goals first | exact haddress | exact hbyte | exact hdigit | trivial

theorem encode_decodeSystem {w : UInt16} (h : decodeSystem w ≠ noOperation) :
    encode (decodeSystem w) = w := by
  unfold decodeSystem at h ⊢
  split_ifs at h ⊢ with hclear hret
  · exact hclear.symm
  · exact hret.symm
  · exact absurd rfl h

theorem encode_decodeArithmetic {x y : Register} {n : Nat}
    (h : decodeArithmetic x y n ≠ noOperation) :
    encode (decodeArithmetic x y n) =
      word 0x8 (if n = 0x6 ∨ n = 0xE then x.val * 0x100 + n
        else x.val * 0x100 + y.val * 0x10 + n) := by
  unfold decodeArithmetic at h ⊢
  split at h
  case h_10 => exact absurd rfl h
  all_goals simp [encode]

theorem encode_decodeKey {x : Register} {kk : Nat} (h : decodeKey x kk ≠ noOperation) :
    encode (decodeKey x kk) = word 0xE (x.val * 0x100 + kk) := by
  unfold decodeKey at h ⊢
  split at h
  case h_3 => exact absurd rfl h
  all_goals rfl

theorem encode_decodeTransfer {x : Register} {kk : Nat} (h : decodeTransfer x kk ≠ noOperation) :
    encode (decodeTransfer x kk) = word 0xF (x.val * 0x100 + kk) := by
  unfold decodeTransfer at h ⊢
  split at h
  case h_10 => exact absurd rfl h
  all_goals rfl

/-- The last three digits of a word, with a zero for one that has no meaning. -/
def meaningful (w : UInt16) : Int :=
  if family w = 0x5 ∨ family w = 0x9 then (fieldX w).val * 0x100 + (fieldY w).val * 0x10
  else if family w = 0x8 ∧ (lowDigit w = 0x6 ∨ lowDigit w = 0xE) then
    (fieldX w).val * 0x100 + lowDigit w
  else lowTriple w

theorem word_family (w : UInt16) : word (family w) (lowTriple w) = w := by
  have hw := w.toNat_lt
  have hlt : (lowTriple w : Int) < 0x1000 := by
    rw [lowTriple_eq]
    omega
  apply UInt16.toNat_inj.1
  rw [toNat_word (family_lt w) (Int.natCast_nonneg _) hlt, family_eq, lowTriple_eq]
  omega

theorem encode_decodeWord {w : UInt16} (h : decodeWord w ≠ noOperation) :
    encode (decodeWord w) = word (family w) (meaningful w) := by
  have hlt := family_lt w
  unfold decodeWord at h ⊢
  split at h
  case h_1 hf =>
    have hm : meaningful w = lowTriple w := by simp [meaningful, hf]
    rw [hm, word_family]
    exact encode_decodeSystem h
  case h_9 hf => simp [meaningful, hf, encode_decodeArithmetic h, lowTriple_eq_digits]
  case h_15 hf => simp [meaningful, hf, encode_decodeKey h, lowTriple_eq_lowPair]
  case h_16 =>
    have hf : family w = 0xF := by
      simp only [imp_false] at *
      omega
    simp [meaningful, hf, encode_decodeTransfer h, lowTriple_eq_lowPair]
  case h_4 hf | h_5 hf | h_7 hf | h_8 hf | h_13 hf =>
    simp [encode, meaningful, hf, lowTriple_eq_lowPair]
  case h_14 hf => simp [encode, meaningful, hf, lowTriple_eq_digits]
  all_goals
    rename_i hf
    simp [encode, meaningful, hf]

/-- The digit of the word has no meaning. -/
def Ignores (w : UInt16) (k : Nat) : Prop :=
  k = 0 ∧ (digit w 3 = 0x5 ∨ digit w 3 = 0x9) ∨
  k = 1 ∧ digit w 3 = 0x8 ∧ (digit w 0 = 0x6 ∨ digit w 0 = 0xE)

instance (w : UInt16) : DecidablePred (Ignores w) := fun _ => inferInstanceAs (Decidable (_ ∨ _))

/-- **A word is the word of its instruction**, but for digits without a meaning. -/
theorem digit_encode_decodeWord {w : UInt16} (h : decodeWord w ≠ noOperation) {k : Nat}
    (hk : k < 4) : digit (encode (decodeWord w)) k = if Ignores w k then 0 else digit w k := by
  have hw := w.toNat_lt
  have hrest : 0 ≤ meaningful w ∧ meaningful w < 0x1000 := by
    have := (fieldX w).isLt
    have := (fieldY w).isLt
    have := lowDigit_lt w
    have := lowTriple_eq_digits w
    unfold meaningful
    split_ifs <;> omega
  rw [encode_decodeWord h, digit, toNat_word (family_lt w) hrest.1 hrest.2]
  simp only [Ignores, digit_three, digit_zero, meaningful]
  simp only [family_eq, lowDigit_eq, fieldX_val, fieldY_val, lowTriple_eq, digit]
  interval_cases k <;> simp <;> split_ifs <;> omega

/-! ## Words that decode alike -/

/-- The words agree in all digits that have a meaning in the first. -/
def Agree (v w : UInt16) : Prop := ∀ k < 4, ¬Ignores v k → digit v k = digit w k

theorem ignores_congr {v w : UInt16} (h3 : digit v 3 = digit w 3)
    (h0 : digit v 3 = 0x8 → digit v 0 = digit w 0) (k : Nat) : Ignores v k ↔ Ignores w k := by
  unfold Ignores
  rw [← h3]
  grind

theorem Agree.ignores {v w : UInt16} (h : Agree v w) (k : Nat) : Ignores v k ↔ Ignores w k :=
  ignores_congr (h 3 (by decide) (by simp [Ignores]))
    (fun h8 => h 0 (by decide) (by simp [Ignores, h8])) k

theorem not_ignores_of_unrecognized {w : UInt16} (h : Unrecognized w) (k : Nat) :
    ¬Ignores w k := by
  unfold Unrecognized at h
  unfold Ignores
  grind

theorem Agree.eq_of_unrecognized {v w : UInt16} (h : Agree v w)
    (hu : Unrecognized v ∨ Unrecognized w) : v = w := by
  refine eq_of_digits fun k hk => h k hk ?_
  rcases hu with hv | hw
  · exact not_ignores_of_unrecognized hv k
  · rw [h.ignores k]
    exact not_ignores_of_unrecognized hw k

/-- Words that decode to the same instruction agree. -/
theorem agree_of_decodeWord_eq {v w : UInt16} (hv : decodeWord v ≠ noOperation)
    (h : decodeWord v = decodeWord w) : Agree v w := by
  have hdigits : ∀ k < 4, (if Ignores v k then 0 else digit v k) =
      if Ignores w k then 0 else digit w k := by
    intro k hk
    rw [← digit_encode_decodeWord hv hk, ← digit_encode_decodeWord (h ▸ hv) hk, h]
  -- The digits that decide which ones are ignored are not ignored themselves.
  have h3 : digit v 3 = digit w 3 := by simpa [Ignores] using hdigits 3 (by decide)
  have h0 : digit v 3 = 0x8 → digit v 0 = digit w 0 := by
    intro h8
    simpa [Ignores, ← h3, h8] using hdigits 0 (by decide)
  intro k hk hmeans
  have hdigit := hdigits k hk
  rw [if_neg hmeans, if_neg (fun hw => hmeans ((ignores_congr h3 h0 k).2 hw))] at hdigit
  exact hdigit

/-- Words that agree decode to the same instruction. -/
theorem Agree.decodeWord_eq {v w : UInt16} (h : Agree v w) : decodeWord v = decodeWord w := by
  by_cases hu : Unrecognized v ∨ Unrecognized w
  · rw [h.eq_of_unrecognized hu]
  · rw [← decodeWord_eq_noOperation_iff, ← decodeWord_eq_noOperation_iff, not_or] at hu
    obtain ⟨hv, hw⟩ := hu
    have hencode : encode (decodeWord v) = encode (decodeWord w) := by
      refine eq_of_digits fun k hk => ?_
      rw [digit_encode_decodeWord hv hk, digit_encode_decodeWord hw hk]
      by_cases hi : Ignores v k
      · rw [if_pos hi, if_pos ((h.ignores k).1 hi)]
      · rw [if_neg hi, if_neg (mt (h.ignores k).2 hi), h k hk hi]
    rw [← decodeWord_encode hv (fitsWord_decodeWord v), hencode,
      decodeWord_encode hw (fitsWord_decodeWord w)]

theorem decodeWord_eq_iff (v w : UInt16) :
    decodeWord v = decodeWord w ↔ Unrecognized v ∧ Unrecognized w ∨ Agree v w := by
  constructor
  · intro h
    by_cases hv : decodeWord v = noOperation
    · left
      exact ⟨(decodeWord_eq_noOperation_iff v).1 hv, (decodeWord_eq_noOperation_iff w).1 (h ▸ hv)⟩
    · right
      exact agree_of_decodeWord_eq hv h
  · rintro (⟨hv, hw⟩ | h)
    · rw [(decodeWord_eq_noOperation_iff v).2 hv, (decodeWord_eq_noOperation_iff w).2 hw]
    · exact h.decodeWord_eq

/-! ## Integers -/

theorem toNat_ofInt (n : Int) : ((UInt16.ofInt n).toNat : Int) = n % 0x10000 := by
  simp only [UInt16.ofInt, UInt16.toNat_ofNat']
  omega

/-- **The decoder accepts exactly the instruction set.** Every instruction whose operands fit is
what its word decodes to. An integer counts by its remainder, as a word. A word of no known form
does nothing, and no other word does. Any other word decodes to an instruction whose operands fit,
and is the word of that instruction, ignored digits apart. So two integers decode to the same
instruction if their words are both of no known form or agree outside the ignored digits, and only
then. -/
theorem decode_exact :
    (∀ i : Instruction, i ≠ noOperation → i.FitsWord → decode (encode i).toNat = i) ∧
      (∀ n : Int, let v := UInt16.ofInt n
        (v.toNat : Int) = n % 0x10000 ∧
          (decode n = noOperation ↔ Unrecognized v) ∧
          (¬Unrecognized v → (decode n).FitsWord ∧
            ∀ k < 4, digit (encode (decode n)) k = if Ignores v k then 0 else digit v k)) ∧
      ∀ m n : Int, let v := UInt16.ofInt m
        let w := UInt16.ofInt n
        decode m = decode n ↔ Unrecognized v ∧ Unrecognized w ∨ Agree v w := by
  refine ⟨fun i hi hfits => ?_, fun n => ⟨toNat_ofInt n, ?_, fun hv => ⟨?_, fun k hk => ?_⟩⟩,
    fun m n => decodeWord_eq_iff _ _⟩
  · have hword : UInt16.ofInt (encode i).toNat = encode i := by
      apply UInt16.toNat_inj.1
      have := toNat_ofInt (encode i).toNat
      have := (encode i).toNat_lt
      omega
    rw [decode, hword]
    exact decodeWord_encode hi hfits
  · exact decodeWord_eq_noOperation_iff _
  · exact fitsWord_decodeWord _
  · exact digit_encode_decodeWord (mt (decodeWord_eq_noOperation_iff _).1 hv) hk

/-- A skip, from a word with a digit that has no meaning and from an integer beyond the words. -/
theorem decode_exact_ignored :
    let i := skipEqualRegister 3 4
    i ≠ noOperation ∧ i.FitsWord ∧ decode (encode i).toNat = i ∧
      ¬Unrecognized (UInt16.ofInt (-0xACB9)) ∧ Ignores (UInt16.ofInt (-0xACB9)) 0 ∧
      digit (encode (decode (-0xACB9))) 0 = 0 ∧ decode (-0xACB9) = decode 0x15340 := by
  intro i
  obtain ⟨hround, hword, halike⟩ := decode_exact
  have hrecognized : ¬Unrecognized (UInt16.ofInt (-0xACB9)) := by
    rw [← (hword (-0xACB9)).2.1]
    decide
  have hignores : Ignores (UInt16.ofInt (-0xACB9)) 0 := by decide
  have hdigit := ((hword (-0xACB9)).2.2 hrecognized).2 0 (by decide)
  rw [if_pos hignores] at hdigit
  have hagree : Agree (UInt16.ofInt (-0xACB9)) (UInt16.ofInt 0x15340) := by
    unfold Agree
    decide
  exact ⟨by decide, trivial, hround i (by decide) trivial, hrecognized, hignores, hdigit,
    (halike (-0xACB9) 0x15340).2 (Or.inr hagree)⟩

end Chip8.Instruction
