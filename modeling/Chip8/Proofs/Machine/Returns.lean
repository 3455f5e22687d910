import Chip8.Proofs.Machine.Counter
import Chip8.Proofs.Machine.Stack

/-!
# Pending returns

The list of return addresses tells where the returns of a machine will continue.

**What an action does to the list** (`ReturnMove`). Apart from a push by the host, which may push
anything, it keeps the list, drops the last address, or appends the address two past the counter.

**Addresses are reduced on return.** The counter is within memory, but two past it may not be: a
call in the last word pushes the address where memory ends, sixteen bits wide as the stack keeps
it, and the return continues at its remainder (`returnAddresses_past_memory`). So an entry is an
address of memory plus two (`FollowsWord`), and a return continues at the remainder of the entry.

**Every entry is pending** (`ret_resumes`). Not only the last one: the return that takes the machine
below the level of an entry continues there, whatever is executed above that level before.
-/

namespace Chip8.Machine

/-! ## What an action does to the list -/

/-- What an action other than a push may do to the return addresses. -/
inductive ReturnMove (m n : Machine) : Prop
  | still (h : n.returnAddresses = m.returnAddresses)
  | call (h : n.returnAddresses = m.returnAddresses ++ [m.pc + 2])
  | ret (h : n.returnAddresses = m.returnAddresses.dropLast)

theorem returnMove_of_pop {m n : Machine} (hm : StackBounded m) (hroom : 2 ≤ m.sp.toNat)
    (hsp : n.sp = m.sp - 2) (hstack : n.stack = m.stack) : ReturnMove m n := by
  have h := returnAddresses_of_pop hm.even hroom hsp hstack
  refine .ret ?_
  rw [h, List.dropLast_concat]

theorem returnMove_execute {m n : Machine} {i : Instruction} {s : Status} (hm : StackBounded m)
    (h : m.execute i = .ok (n, s)) : ReturnMove m n := by
  rcases execute_cases h with ⟨-, rfl⟩ | ⟨-, rfl, hready⟩
  · exact .still rfl
  · by_cases hi : i.stackChange = 0
    · have ⟨hsp, hstack⟩ := complete_stack m hi
      exact .still (returnAddresses_of_still hsp hstack)
    · cases i with
      | call a => exact .call (returnAddresses_of_push hm.even (room_of_checkStack hready) rfl rfl)
      | ret => exact returnMove_of_pop hm (two_le_of_checkStack hready) rfl rfl
      | _ => exact absurd rfl hi

/-- **An action that is no push keeps the list, takes its last address, or calls.** -/
theorem returnMove_act {m : Machine} (hm : StackBounded m) {a : Action}
    (ha : ∀ v, a ≠ .push v) : ReturnMove m (m.act a) := by
  cases a with
  | execute i =>
    rcases act_execute m i with h | ⟨n, s, hexecute, h⟩ <;> rw [h]
    · exact .still rfl
    · exact returnMove_execute hm hexecute
  | tick =>
    rw [act, tick]
    rcases attempt_execute m m.fetch with h | ⟨n, s, hexecute, h⟩ <;> rw [h]
    · exact .still rfl
    · exact returnMove_execute hm hexecute
  | tickTimers | setKeys => exact .still rfl
  | load program =>
    simp only [act, loadProgram]
    split <;> exact .still rfl
  | push v => exact absurd rfl (ha v)
  | pop =>
    simp only [act, pop?]
    cases hc : m.checkStack (-2) with
    | ok _ => exact returnMove_of_pop hm (two_le_of_checkStack hc) rfl rfl
    | error fault => exact .still rfl

/-! ## Where the entries point -/

/-- The address is two past one of memory. -/
def FollowsWord (a : UInt16) : Prop := ∃ p < 4096, a.toNat = p + 2

/-- The stack is in bounds, the counter within memory, and every entry two past an address. -/
structure Pending (m : Machine) : Prop where
  bounded : StackBounded m
  counter : m.pc.toNat < 4096
  entries : ∀ a ∈ m.returnAddresses, FollowsWord a

theorem Pending.act {m : Machine} (hm : Pending m) {a : Action} (ha : ∀ v, a ≠ .push v) :
    Pending (m.act a) := by
  refine ⟨(stackMove_act m a).bounded hm.bounded, toNat_act_pc_lt hm.counter a, fun b hb => ?_⟩
  cases returnMove_act hm.bounded ha with
  | still h =>
    rw [h] at hb
    exact hm.entries b hb
  | ret h =>
    rw [h] at hb
    exact hm.entries b (List.mem_of_mem_dropLast hb)
  | call h =>
    rw [h, List.mem_append, List.mem_singleton] at hb
    rcases hb with hb | rfl
    · exact hm.entries b hb
    · -- The counter is far enough from the end of sixteen bits.
      refine ⟨m.pc.toNat, hm.counter, ?_⟩
      have hcounter := hm.counter
      rw [UInt16.toNat_add]
      exact Nat.mod_eq_of_lt (by show m.pc.toNat + 2 < 65536; omega)

theorem Pending.run {m : Machine} (hm : Pending m) {actions : List Action}
    (hactions : ∀ v, .push v ∉ actions) : Pending (m.run actions) := by
  induction actions generalizing m with
  | nil => exact hm
  | cons a actions ih =>
    have hhead : ∀ v, a ≠ .push v := fun v ha => hactions v (ha ▸ List.mem_cons_self)
    exact ih (hm.act hhead) fun v hv => hactions v (List.mem_cons_of_mem a hv)

theorem pending_powerOn (random : RandomKey) : Pending (powerOn random) := by
  refine ⟨run_stackBounded random [], toNat_run_pc_lt random [], fun a ha => ?_⟩
  have hsp : (powerOn random).sp.toNat = 0 := rfl
  rw [returnAddresses, hsp] at ha
  exact absurd ha List.not_mem_nil

/-! ## Returning -/

theorem getElem_returnAddresses (m : Machine) {i : Nat} (h : i < m.returnAddresses.length) :
    m.returnAddresses[i] =
      bytesToWord (m.stack.read (2 * i : Nat)) (m.stack.read (2 * i + 1 : Nat)) := by
  simp only [returnAddresses, List.getElem_map, List.getElem_range]

/-- **An entry stays until its return, which continues there.** -/
theorem ret_resumes {m : Machine} (hm : StackBounded m) {i : Nat}
    (hi : i < m.returnAddresses.length) (rest : List Action)
    (hstay : ∀ n ∈ m.visited rest, 2 * i + 2 ≤ n.sp.toNat)
    (hlevel : (m.run rest).sp.toNat = 2 * i + 2) :
    ∃ n, (m.run rest).execute .ret = .ok (n, .running) ∧
      n.pc.toNat = m.returnAddresses[i].toNat % 4096 := by
  have hle := hm.le
  have hlength := length_returnAddresses m
  have hpop : (m.run rest).pop.2 = m.returnAddresses[i] := by
    rw [pop_snd hlevel, run_read_below rest hstay (by omega), run_read_below rest hstay (by omega),
      getElem_returnAddresses]
  refine ⟨(m.run rest).ret, ?_, ?_⟩
  · rw [execute_ret, checkStack_pop (by omega), if_pos (by omega)]
    rfl
  · rw [toNat_ret_pc, hpop]

/-- A return continues at the last entry. -/
theorem ret_getLast? {m : Machine} (hm : StackBounded m) {a : UInt16}
    (ha : m.returnAddresses.getLast? = some a) :
    ∃ n, m.execute .ret = .ok (n, .running) ∧ n.pc.toNat = a.toNat % 4096 := by
  rw [List.getLast?_eq_getElem?, List.getElem?_eq_some_iff] at ha
  obtain ⟨hlast, rfl⟩ := ha
  have hlength := length_returnAddresses m
  have heven := hm.even
  -- The level of the last entry is that of the machine itself, and nothing is executed before.
  have hlevel : m.sp.toNat = 2 * (m.returnAddresses.length - 1) + 2 := by omega
  exact ret_resumes hm hlast [] (by simp [visited, hlevel]) hlevel

/-- **The return addresses are where the returns will continue**, before they are reduced to the
addresses of memory. Let a machine be run from power on in any way, host pushes excepted. Then every
entry is an address of memory plus two. A return continues at the remainder of the last one, and the
return that leaves the level of an earlier one continues at the remainder of that. -/
theorem returnAddresses_pending (random : RandomKey) {actions : List Action}
    (hactions : ∀ v, .push v ∉ actions) :
    let m := (powerOn random).run actions
    (∀ a ∈ m.returnAddresses, FollowsWord a) ∧
      (∀ a, m.returnAddresses.getLast? = some a →
        ∃ n, m.execute .ret = .ok (n, .running) ∧ n.pc.toNat = a.toNat % 4096) ∧
      ∀ (i : Nat) (hi : i < m.returnAddresses.length) (rest : List Action),
        (∀ n ∈ m.visited rest, 2 * i + 2 ≤ n.sp.toNat) → (m.run rest).sp.toNat = 2 * i + 2 →
          ∃ n, (m.run rest).execute .ret = .ok (n, .running) ∧
            n.pc.toNat = m.returnAddresses[i].toNat % 4096 := by
  intro m
  have hm : Pending m := (pending_powerOn random).run hactions
  exact ⟨hm.entries, fun a ha => ret_getLast? hm.bounded ha,
    fun i hi rest => ret_resumes hm.bounded hi rest⟩

/-- The return from a nested call, one of the calls in the last word of memory. -/
theorem returnAddresses_pending_nested :
    let actions : List Action := [.execute (.call 0xFFE), .setKeys 5, .execute (.call 0x300)]
    let m := (powerOn ⟨0, 0⟩).run actions
    (∀ v, .push v ∉ actions) ∧ m.returnAddresses = [0x202, 0x1000] ∧
      ∃ n, (m.act (.execute .ret)).execute .ret = .ok (n, .running) ∧ n.pc.toNat = 0x202 := by
  intro actions m
  have hactions : ∀ v, .push v ∉ actions := by simp [actions]
  have haddresses : m.returnAddresses = [0x202, 0x1000] := by decide +kernel
  have hlength : 0 < m.returnAddresses.length := by rw [haddresses]; decide
  obtain ⟨n, hn, hpc⟩ := (returnAddresses_pending ⟨0, 0⟩ hactions).2.2 0 hlength [.execute .ret]
    (by decide +kernel) (by decide +kernel)
  have hentry : m.returnAddresses[0] = 0x202 := List.getElem_of_eq haddresses hlength
  rw [hentry] at hpc
  exact ⟨hactions, haddresses, n, hn, hpc⟩

/-- **A call in the last word of memory.** A program stores the word `2200` there and jumps to it.
The entry is no address of memory, and the return continues at the start of memory. -/
theorem returnAddresses_past_memory :
    let program : Program := [0x60, 0x22, 0xAF, 0xFE, 0xF1, 0x55, 0x1F, 0xFE]
    let m := (powerOn ⟨0, 0⟩).run [.load program, .tick, .tick, .tick, .tick, .tick]
    m.returnAddresses = [0x1000] ∧ ¬(∀ a ∈ m.returnAddresses, a.toNat < 0x1000) ∧
      ∃ n, m.execute .ret = .ok (n, .running) ∧ n.pc = 0 ∧
        m.returnAddresses.getLast? ≠ some n.pc := by
  intro program m
  have haddresses : m.returnAddresses = [0x1000] := by decide +kernel
  have hlast : m.returnAddresses.getLast? = some 0x1000 := by rw [haddresses]; rfl
  obtain ⟨n, hn, hpc⟩ := ret_getLast? (run_stackBounded ⟨0, 0⟩ _) hlast
  have hzero : n.pc = 0 := UInt16.toNat_inj.1 hpc
  refine ⟨haddresses, ?_, n, hn, hzero, ?_⟩
  · rw [haddresses]
    simp
  · rw [hlast, hzero]
    decide

end Chip8.Machine
