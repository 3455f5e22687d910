import Chip8.Proofs.Instruction.Encoding
import Chip8.Proofs.Machine.Effect

/-!
# Arithmetic on registers

**Operators** (`Operator`). The nine instructions of the family `8` are operators on two bytes, the
one in `VX` and the one in `VY`. Each has a result, and five of them a flag besides; both are told
here in exact numbers.

**Bytes.** The machine computes on bytes that wrap. A sum has wrapped exactly if it is below its
first operand, and the flags of the shifts are the bits at the ends of a byte.

**One effect** (`perform_operator`). Result and flag are computed first, then the flag is written,
then the result. So operands are as they were before, whichever registers they are in, and a target
that is the flag register keeps the result (`execute_operator`).
-/

namespace Chip8

/-- An operation of the family `8`. -/
inductive Operator where
  | load
  | or
  | and
  | xor
  | add
  | subtract
  | shiftRight
  | subtractReversed
  | shiftLeft
deriving Repr, DecidableEq

namespace Operator

/-- The last digit of the words of an operator. -/
def digit : Operator → Nat
  | load => 0x0
  | or => 0x1
  | and => 0x2
  | xor => 0x3
  | add => 0x4
  | subtract => 0x5
  | shiftRight => 0x6
  | subtractReversed => 0x7
  | shiftLeft => 0xE

def instruction (x y : Register) : Operator → Instruction
  | load => .loadRegister x y
  | or => .bitOr x y
  | and => .bitAnd x y
  | xor => .bitXor x y
  | add => .addRegister x y
  | subtract => .subtract x y
  | shiftRight => .shiftRight x
  | subtractReversed => .subtractReversed x y
  | shiftLeft => .shiftLeft x

/-- The result, `a` being the value of `VX` and `b` that of `VY`. -/
def result (a b : Nat) : Operator → Nat
  | load => b
  | or => a ||| b
  | and => a &&& b
  | xor => a ^^^ b
  | add => (a + b) % 256
  | subtract => ((a - b : Int) % 256).toNat
  | shiftRight => a / 2
  | subtractReversed => ((b - a : Int) % 256).toNat
  | shiftLeft => 2 * a % 256

/-- The flag, for the operators that have one. -/
def flag? (a b : Nat) : Operator → Option Bool
  | add => some (255 < a + b)
  | subtract => some (b < a)
  | shiftRight => some (a % 2 = 1)
  | subtractReversed => some (a < b)
  | shiftLeft => some (128 ≤ a)
  | load | or | and | xor => none

end Operator

/-! ## Bytes -/

section

variable (a b : UInt8)

theorem add_lt_left_iff : a + b < a ↔ 255 < a.toNat + b.toNat := by
  have ha := a.toNat_lt
  have hb := b.toNat_lt
  rw [UInt8.lt_iff_toNat_lt, UInt8.toNat_add]
  omega

theorem toNat_sub_eq : (a - b).toNat = ((a.toNat - b.toNat : Int) % 256).toNat := by
  have ha := a.toNat_lt
  have hb := b.toNat_lt
  rw [UInt8.toNat_sub]
  omega

theorem toNat_shiftRight_one : (a >>> 1).toNat = a.toNat / 2 :=
  (UInt8.toNat_shiftRight a 1).trans (Nat.shiftRight_eq_div_pow _ _)

theorem toNat_shiftLeft_one : (a <<< 1).toNat = 2 * a.toNat % 256 := by
  have h : (a <<< 1).toNat = a.toNat <<< 1 % 256 := UInt8.toNat_shiftLeft a 1
  rw [h, Nat.shiftLeft_eq, pow_one, Nat.mul_comm]

theorem and_one_beq : (a &&& 1 == 1) = decide (a.toNat % 2 = 1) := by
  have h : (a &&& 1).toNat = a.toNat % 2 := (UInt8.toNat_and a 1).trans (Nat.and_one_is_mod _)
  rw [beq_eq_decide, ← h]
  exact decide_eq_decide.2 UInt8.toNat_inj.symm

theorem and_highest_beq : (a &&& 0x80 == 0x80) = decide (128 ≤ a.toNat) := by
  have ha := a.toNat_lt
  have h : (a &&& 0x80).toNat = (a.toNat.testBit 7).toNat * 128 :=
    (UInt8.toNat_and a 0x80).trans (Nat.and_two_pow _ 7)
  have hbit : a.toNat.testBit 7 = decide (128 ≤ a.toNat) := by
    rw [Nat.testBit_eq_decide_div_mod_eq]
    exact decide_eq_decide.2 (by omega)
  rw [beq_eq_decide, ← hbit, Bool.eq_iff_iff, decide_eq_true_iff, ← UInt8.toNat_inj, h]
  cases a.toNat.testBit 7 <;> decide

end

/-! ## Operators -/

open Instruction in
/-- The word of an operator decodes to its instruction, whatever stands in a digit it ignores. -/
theorem Operator.decodeWord_word (o : Operator) (x y : Register) :
    decodeWord (word 0x8 (x.val * 0x100 + (y.val * 0x10 + o.digit))) = o.instruction x y := by
  have hx := x.isLt
  have hy := y.isLt
  have hdigit : o.digit < 0x10 := by cases o <;> decide
  have hlow : lowDigit (word 0x8 (x.val * 0x100 + (y.val * 0x10 + o.digit))) = o.digit := by
    rw [lowDigit_word (by decide) (by omega) (by omega)]
    omega
  rw [decodeWord, family_word (by decide) (by omega) (by omega)]
  simp only
  rw [fieldX_word (by decide) (by omega) (by omega), fieldY_word (by decide) (by omega) (by omega),
    hlow]
  cases o <;> rfl

namespace Machine

/-- **The flag is written before the result**, and both are computed before either. -/
theorem perform_operator (m : Machine) (o : Operator) (x y : Register) :
    ∃ v : UInt8, v.toNat = o.result (m.register x).toNat (m.register y).toNat ∧
      m.perform (o.instruction x y) =
        match o.flag? (m.register x).toNat (m.register y).toNat with
        | some c => m.setWithFlag x c v
        | none => m.setRegister x v := by
  cases o with
  | load => exact ⟨_, rfl, rfl⟩
  | or => exact ⟨_, UInt8.toNat_or _ _, rfl⟩
  | and => exact ⟨_, UInt8.toNat_and _ _, rfl⟩
  | xor => exact ⟨_, UInt8.toNat_xor _ _, rfl⟩
  | add =>
    refine ⟨_, UInt8.toNat_add _ _, ?_⟩
    simp only [Operator.flag?, ← decide_eq_decide.2 (add_lt_left_iff _ _)]
    rfl
  | subtract =>
    refine ⟨_, toNat_sub_eq _ _, ?_⟩
    simp only [Operator.flag?, ← decide_eq_decide.2 UInt8.lt_iff_toNat_lt]
    rfl
  | shiftRight =>
    refine ⟨_, toNat_shiftRight_one _, ?_⟩
    simp only [Operator.flag?, ← and_one_beq]
    rfl
  | subtractReversed =>
    refine ⟨_, toNat_sub_eq _ _, ?_⟩
    simp only [Operator.flag?, ← decide_eq_decide.2 UInt8.lt_iff_toNat_lt]
    rfl
  | shiftLeft =>
    refine ⟨_, toNat_shiftLeft_one _, ?_⟩
    simp only [Operator.flag?, ← and_highest_beq]
    rfl

/-- What the registers hold after an operator. -/
theorem register_perform_operator (m : Machine) (o : Operator) (x y : Register) :
    ∃ v : UInt8, v.toNat = o.result (m.register x).toNat (m.register y).toNat ∧
      ∀ r, (m.perform (o.instruction x y)).register r =
        if x = r then v
        else if flagRegister = r then
          ((o.flag? (m.register x).toNat (m.register y).toNat).map flag).getD (m.register r)
        else m.register r := by
  obtain ⟨v, hv, hperform⟩ := m.perform_operator o x y
  refine ⟨v, hv, fun r => ?_⟩
  rw [hperform]
  cases o.flag? (m.register x).toNat (m.register y).toNat with
  | some c =>
    simp only [setWithFlag, register_setRegister]
    rfl
  | none =>
    simp only [register_setRegister, Option.map_none, Option.getD_none, ite_self]

/-- **Arithmetic with its flag.** A word of the family `8` completes, and computes on the values
`a` and `b` that `VX` and `VY` had before. The result goes to `VX`; the flag register holds the
flag or, if the operator has none, what it held, but if it is `VX` itself the result; all other
registers are as they were. -/
theorem execute_operator (m : Machine) (o : Operator) (x y : Register) :
    let a := (m.register x).toNat
    let b := (m.register y).toNat
    let w := Instruction.word 0x8 (x.val * 0x100 + (y.val * 0x10 + o.digit))
    Instruction.decodeWord w = o.instruction x y ∧
      ∃ n, m.execute (o.instruction x y) = .ok (n, .running) ∧
        (n.register x).toNat = o.result a b ∧
        (n.register flagRegister).toNat =
          (if x = flagRegister then o.result a b
          else ((o.flag? a b).map Bool.toNat).getD (m.register flagRegister).toNat) ∧
        ∀ r, r ≠ x → r ≠ flagRegister → n.register r = m.register r := by
  intro a b w
  obtain ⟨v, hv, hperform⟩ := m.register_perform_operator o x y
  have hexecute : m.execute (o.instruction x y) =
      .ok (m.complete (o.instruction x y), .running) := by
    cases o <;> rfl
  have hregister (r : Register) : (m.complete (o.instruction x y)).register r =
      (m.perform (o.instruction x y)).register r := by
    cases o <;> rfl
  refine ⟨o.decodeWord_word x y, _, hexecute, ?_, ?_, fun r hrx hrf => ?_⟩
  · rw [hregister, hperform, if_pos rfl, hv]
  · rw [hregister, hperform]
    by_cases hx : x = flagRegister
    · rw [if_pos hx, if_pos hx, hv]
    · rw [if_neg hx, if_neg hx, if_pos rfl]
      cases o.flag? a b with
      | some c => cases c <;> rfl
      | none => rfl
  · rw [hregister, hperform, if_neg hrx.symm, if_neg hrf.symm]

end Machine

end Chip8
