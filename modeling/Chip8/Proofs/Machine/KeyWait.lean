import Chip8.Proofs.Machine.Cadence
import Chip8.Proofs.Machine.Counter

/-!
# Waiting for a key

Only one instruction suspends a machine, and only while no key is held.

**Waiting** (`execute_waiting_iff`). The engine looks at the instruction's trait and the mask of
held keys before it executes anything, so a machine that waits is as it was, and waits again at the
next cycle. Timer ticks do not reach the mask, and so it goes on (`play_of_waiting`).

**Going on** (`tick_waitForKey`). A mask other than zero has a least bit (`lowestKey?_eq`). The
instruction finds it, so what the engine lets through the instruction can complete.
-/

namespace Chip8

theorem Instruction.blocking_iff {i : Instruction} : i.blocking = true ↔ ∃ x, i = .waitForKey x := by
  constructor
  · intro h
    cases i with
    | waitForKey x => exact ⟨x, rfl⟩
    | _ => cases h
  · rintro ⟨x, rfl⟩
    rfl

namespace Machine

/-! ## Waiting -/

theorem execute_waiting_iff {m n : Machine} {i : Instruction} :
    m.execute i = .ok (n, .waiting) ↔ (i.blocking = true ∧ m.keys = 0) ∧ n = m := by
  rw [execute]
  split
  · next hwaits =>
    constructor
    · intro h
      cases h
      exact ⟨hwaits, rfl⟩
    · rintro ⟨-, rfl⟩
      rfl
  · next hwaits =>
    constructor
    · intro h
      cases hready : m.stackReady i <;> rw [hready] at h <;> cases h
    · rintro ⟨h, -⟩
      exact absurd h hwaits

/-- A machine that waits goes on waiting, whatever its timers do. -/
theorem play_of_waiting {m : Machine} (h : m.tick = .ok (m, .waiting)) (beats : List Beat) :
    ∃ delay sound, m.play beats =
      ⟨.replicate (cyclesOf beats).length m.fetch, .replicate (cyclesOf beats).length .waiting,
        .ok { m with delay, sound }⟩ := by
  induction beats generalizing m with
  | nil => exact ⟨m.delay, m.sound, rfl⟩
  | cons b beats ih =>
    cases b with
    | timers n =>
      have hwaits := execute_waiting_iff.1 h
      exact ih (execute_waiting_iff.2 ⟨hwaits.1, rfl⟩)
    | cycle =>
      obtain ⟨delay, sound, hplay⟩ := ih h
      refine ⟨delay, sound, ?_⟩
      rw [play_cycle_of_ok h, hplay]
      rfl

/-! ## Going on -/

/-- A mask other than zero has a least bit, and it is found. -/
theorem lowestKey?_eq {m : Machine} (h : m.keys ≠ 0) :
    ∃ k, m.lowestKey? = some k ∧ m.keys.toNat.testBit k = true ∧
      ∀ j < k, m.keys.toNat.testBit j = false := by
  have hheld (k : Register) : ((m.keys >>> UInt16.ofNat k) &&& 1 == 1) = m.keys.toNat.testBit k :=
    shiftRight_and_one m.keys k.isLt
  cases hk : m.lowestKey? with
  | none =>
    have hnone := List.find?_eq_none.1 hk
    -- No bit below sixteen is set, and a mask has no others.
    have hzero : m.keys.toNat = 0 := by
      refine Nat.zero_of_testBit_eq_false fun i => ?_
      by_cases hi : i < 16
      · have hbit := hnone ⟨i, hi⟩ (List.mem_finRange _)
        rw [hheld ⟨i, hi⟩] at hbit
        exact eq_false_of_ne_true hbit
      · have hlt : m.keys.toNat < 2 ^ i :=
          Nat.lt_of_lt_of_le m.keys.toNat_lt (Nat.pow_le_pow_right (by decide) (by omega))
        exact Nat.testBit_lt_two_pow hlt
    exact absurd (UInt16.toNat_inj.1 hzero) h
  | some k =>
    obtain ⟨hbit, i, hi, hik, hbefore⟩ := List.find?_eq_some_iff_getElem.1 hk
    rw [hheld] at hbit
    refine ⟨k, rfl, hbit, fun j hj => ?_⟩
    have hki : k.val = i := by
      rw [← hik, List.getElem_finRange]
      rfl
    have hji : j.val < i := hki ▸ Fin.lt_def.1 hj
    have hjbit := hbefore j hji
    rw [List.getElem_finRange, hheld, Bool.not_eq_true'] at hjbit
    exact hjbit

theorem advance_eq (m : Machine) :
    m.advance 2 = { m with pc := UInt16.ofNat ((m.pc.toNat + 2) % 4096) } := by
  have hpc : (m.advance 2).pc = UInt16.ofNat ((m.pc.toNat + 2) % 4096) := by
    apply UInt16.toNat_inj.1
    rw [toNat_advance_pc, UInt16.toNat_ofNat_of_lt' (by rw [UInt16.size]; omega)]
  rw [← hpc]
  rfl

theorem tick_waitForKey {m : Machine} {x : Register} (hfetch : m.fetch = .waitForKey x)
    (hkeys : m.keys ≠ 0) :
    ∃ k : Register, m.keys.toNat.testBit k = true ∧ (∀ j < k, m.keys.toNat.testBit j = false) ∧
      m.tick = .ok ({ m.setRegister x (UInt8.ofNat k) with
        pc := UInt16.ofNat ((m.pc.toNat + 2) % 4096) }, .running) := by
  obtain ⟨k, hk, hbit, hleast⟩ := lowestKey?_eq hkeys
  refine ⟨k, hbit, hleast, ?_⟩
  have hperform : m.perform (.waitForKey x) = m.setRegister x (UInt8.ofNat k) := by
    rw [perform, hk]
  rw [tick, hfetch, execute, if_neg fun h => hkeys h.2]
  show Except.ok ((m.perform (.waitForKey x)).advance 2, Status.running) = _
  rw [hperform, advance_eq]
  rfl

/-- How a machine waits for a key. -/
structure KeyWait (m : Machine) : Prop where
  /-- A cycle waits for a key at a key wait with no key held, and nowhere else. -/
  waiting_iff : (∃ n, m.tick = .ok (n, .waiting)) ↔ (∃ x, m.fetch = .waitForKey x) ∧ m.keys = 0
  /-- A cycle that waits changes nothing. -/
  unchanged {n : Machine} : m.tick = .ok (n, .waiting) → n = m
  /-- All cycles that follow wait as well, and only the timers change. -/
  polling {n : Machine} : m.tick = .ok (n, .waiting) → ∀ beats, ∃ delay sound, m.play beats =
    ⟨.replicate (cyclesOf beats).length m.fetch, .replicate (cyclesOf beats).length .waiting,
      .ok { m with delay, sound }⟩
  /-- With keys held, the least of them goes into the register. -/
  completes {x : Register} : m.fetch = .waitForKey x → m.keys ≠ 0 →
    ∃ k : Register, m.keys.toNat.testBit k = true ∧ (∀ j < k, m.keys.toNat.testBit j = false) ∧
      m.tick = .ok ({ m.setRegister x (UInt8.ofNat k) with
        pc := UInt16.ofNat ((m.pc.toNat + 2) % 4096) }, .running)

/-- **The key wait.** Every machine suspends at a key wait only, as long as no key is held, and with
a key held it goes on. -/
theorem keyWait (m : Machine) : KeyWait m where
  waiting_iff := by
    simp only [tick, execute_waiting_iff, ← Instruction.blocking_iff]
    constructor
    · rintro ⟨_, h, _⟩
      exact h
    · intro h
      exact ⟨m, h, rfl⟩
  unchanged h := (execute_waiting_iff.1 h).2
  polling {n} h := by
    obtain ⟨-, rfl⟩ := execute_waiting_iff.1 h
    exact play_of_waiting h
  completes := tick_waitForKey

end Machine

end Chip8
