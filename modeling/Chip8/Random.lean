/-!
# The random stream

Random bytes come from a two-word key by a counter-based block cipher of twenty rounds.

**The block** (`RandomKey.block`). Two words under a key: five groups of four rotations, the
two rotation schedules in turn, and a part of the key schedule added after each group.

**The stream.** A draw replaces the key by `next` and yields `byte`, both functions of the
key alone, so the `i`-th byte depends on the seed and `i` only.
-/

namespace Chip8

/-- The key of the random stream. -/
structure RandomKey where
  fst : UInt32
  snd : UInt32
deriving Repr, DecidableEq

namespace RandomKey

/-- The key of a seed; only its low 32 bits count. -/
def ofSeed (seed : Int) : RandomKey := ⟨0, UInt32.ofInt seed⟩

/-- A seed is a 64-bit signed integer. -/
def seedFits (seed : Int) : Bool := -9223372036854775808 ≤ seed && seed ≤ 9223372036854775807

/-! ## The block -/

def rotate (w r : UInt32) : UInt32 := (w <<< r) ||| (w >>> (32 - r))

/-- One round: add, rotate, mix. -/
def round (b : RandomKey) (r : UInt32) : RandomKey :=
  let sum := b.fst + b.snd
  ⟨sum, rotate b.snd r ^^^ sum⟩

/-- The third word of the key schedule. -/
def parity (k : RandomKey) : UInt32 := k.fst ^^^ k.snd ^^^ 0x1BD11BDA

/-- The two rotation schedules. -/
def evenRotations : List UInt32 := [13, 15, 26, 6]

/-- The rotations of the odd groups. -/
def oddRotations : List UInt32 := [17, 29, 16, 24]

/-- One group: four rounds, then two words of the key schedule and the group's number. -/
def group (rotations : List UInt32) (a c number : UInt32) (b : RandomKey) : RandomKey :=
  let b := rotations.foldl round b
  ⟨b.fst + a, b.snd + c + number⟩

/-- The block of two words under a key. -/
def block (k : RandomKey) (b : RandomKey) : RandomKey :=
  let b : RandomKey := ⟨b.fst + k.fst, b.snd + k.snd⟩
  let b := group evenRotations k.snd k.parity 1 b
  let b := group oddRotations k.parity k.fst 2 b
  let b := group evenRotations k.fst k.snd 3 b
  let b := group oddRotations k.snd k.parity 4 b
  group evenRotations k.parity k.fst 5 b

/-! ## Draws -/

def next (k : RandomKey) : RandomKey := k.block ⟨0, 0⟩

def byte (k : RandomKey) : UInt8 :=
  let word := ((k.block ⟨0, 1⟩).block ⟨0, 1⟩).block ⟨0, 0⟩
  (word.fst ^^^ word.snd).toUInt8

/-- The zero key yields 14. -/
example : byte ⟨0, 0⟩ = 14 ∧ next ⟨0, 0⟩ = ⟨1797259609, 2579123966⟩ := by decide +kernel

end RandomKey

end Chip8
