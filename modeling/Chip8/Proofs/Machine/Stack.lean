import Chip8.Proofs.Machine.Run

/-!
# The stack as a list of addresses

**What an action does to the stack** (`StackMove`). Nothing, a push with room for it, or a pop
with something to take. Every action is one of the three (`stackMove_act`), and all else about the
stack follows from that.

**Calls and returns** (`ret_after_call`). A push writes at the stack pointer and nothing below it.
As long as the pointer does not fall below the level after a call, the two bytes of the return
address stay, whatever is executed, so the return from that level goes back to the call.

**The list** (`run_stackIsList`). From power on, the pointer is even and at most 64, and every
operation on the stack is the one on the list of return addresses (`AddressList`).
-/

namespace Chip8

/-! ## Bounded lists of addresses -/

namespace AddressList

/-- The most addresses a list holds. -/
def capacity : Nat := 32

/-- Appends an address unless the list is full. -/
def push (l : List UInt16) (v : UInt16) : Option (List UInt16) :=
  if l.length = capacity then none else some (l ++ [v])

/-- Takes the last address unless the list is empty. -/
def pop (l : List UInt16) : Option (List UInt16 × UInt16) := l.getLast?.map fun v => (l.dropLast, v)

end AddressList

namespace Machine

/-! ## What an action does to the stack -/

/-- What an action may do to the stack. -/
inductive StackMove (m n : Machine) : Prop
  | still (hsp : n.sp = m.sp) (hstack : n.stack = m.stack)
  | push (v : UInt16) (hroom : m.sp.toNat + 2 ≤ 64) (hsp : n.sp = m.sp + 2)
      (hstack : n.stack = (m.push v).stack)
  | pop (hroom : 2 ≤ m.sp.toNat) (hsp : n.sp = m.sp - 2) (hstack : n.stack = m.stack)

theorem StackMove.refl (m : Machine) : StackMove m m := .still rfl rfl

theorem stackMove_execute {m n : Machine} {i : Instruction} {s : Status}
    (h : m.execute i = .ok (n, s)) : StackMove m n := by
  by_cases hi : i.stackChange = 0
  · rw [execute_of_stackChange_eq_zero m hi] at h
    split at h
    · cases h
      exact .refl m
    · cases h
      exact .still (complete_stack m hi).1 (complete_stack m hi).2
  · cases i with
    | call a =>
      rw [execute_call, checkStack_push] at h
      split at h
      · next hroom =>
        cases h
        exact .push (m.pc + 2) hroom rfl rfl
      · cases h
    | ret =>
      rw [execute_ret] at h
      cases hc : m.checkStack (-2) with
      | ok _ =>
        rw [hc] at h
        cases h
        exact .pop (two_le_of_checkStack hc) rfl rfl
      | error fault =>
        rw [hc] at h
        cases h
    | _ => exact absurd rfl hi

/-- **Every action leaves the stack, pushes or pops.** -/
theorem stackMove_act (m : Machine) (a : Action) : StackMove m (m.act a) := by
  have h := acted m a
  generalize m.act a = n at h ⊢
  cases h with
  | same => exact .refl m
  | executed h => exact stackMove_execute h
  | timed | keyed | loaded => exact .still rfl rfl
  | pushed v hroom => exact .push v hroom rfl rfl
  | popped hroom => exact .pop hroom rfl rfl

/-! ## Calls and returns -/

/-- A push writes its two bytes at the pointer and no others. -/
theorem read_push (m : Machine) (v : UInt16) {k : Nat} (hk : k < 64) :
    (m.push v).stack.read k =
      if m.sp.toNat + 1 = k then v.toUInt8
      else if m.sp.toNat = k then (v >>> 8).toUInt8 else m.stack.read k := by
  have hsp : (m.sp.toNat : Int) + 1 = (m.sp.toNat + 1 : Nat) := by push_cast; rfl
  simp only [push]
  rw [hsp, Cells.read_write _ _ _ hk, Cells.read_write _ _ _ hk]

theorem toNat_sp_push {m n : Machine} (hroom : m.sp.toNat + 2 ≤ 64) (h : n.sp = m.sp + 2) :
    n.sp.toNat = m.sp.toNat + 2 := by
  rw [h, UInt8.toNat_add]
  exact Nat.mod_eq_of_lt (by simp; omega)

theorem toNat_sp_pop {m n : Machine} (hroom : 2 ≤ m.sp.toNat) (h : n.sp = m.sp - 2) :
    n.sp.toNat + 2 = m.sp.toNat := by
  have h2 : (2 : UInt8) ≤ m.sp := UInt8.le_iff_toNat_le.2 hroom
  rw [h, UInt8.toNat_sub_of_le _ _ h2]
  exact Nat.sub_add_cancel hroom

theorem pop_snd {m : Machine} {k : Nat} (h : m.sp.toNat = k + 2) :
    m.pop.2 = bytesToWord (m.stack.read k) (m.stack.read (k + 1 : Nat)) := by
  have hsp : (m.sp.toNat : Int) - 2 = k := by omega
  simp only [pop, hsp]
  push_cast
  rfl

theorem StackMove.read_below {m n : Machine} (h : StackMove m n) {k : Nat}
    (hk : k < m.sp.toNat) : n.stack.read k = m.stack.read k := by
  cases h with
  | still _ hstack => rw [hstack]
  | push v hroom _ hstack =>
    rw [hstack, read_push m v (by omega), if_neg (by omega), if_neg (by omega)]
  | pop _ _ hstack => rw [hstack]

/-- **The bytes below a level stay as they are while the pointer keeps to it.** -/
theorem run_read_below {m : Machine} {level : Nat} (actions : List Action)
    (hstay : ∀ n ∈ m.visited actions, level ≤ n.sp.toNat) {k : Nat} (hk : k < level) :
    (m.run actions).stack.read k = m.stack.read k := by
  -- Each action finds the pointer at the level or above, and writes nothing below the pointer.
  induction actions generalizing m with
  | nil => rfl
  | cons a actions ih =>
    simp only [visited, List.scanl_cons, List.mem_cons, forall_eq_or_imp] at hstay
    rw [← (stackMove_act m a).read_below (Nat.lt_of_lt_of_le hk hstay.1)]
    exact ih hstay.2

/-- **A return goes back to its call.** After a call, let anything be executed that does not take
the stack pointer below its level. A return from that level succeeds, continues after the call,
and puts the pointer back where the call found it. -/
theorem ret_after_call {m n : Machine} {a : Int} {s : Status}
    (hcall : m.execute (.call a) = .ok (n, s)) (actions : List Action)
    (hstay : ∀ k ∈ n.visited actions, m.sp.toNat + 2 ≤ k.sp.toNat)
    (hlevel : (n.run actions).sp.toNat = m.sp.toNat + 2) :
    ∃ k, (n.run actions).execute .ret = .ok (k, .running) ∧
      k.pc.toNat = (m.pc.toNat + 2) % 4096 ∧ k.sp = m.sp := by
  rw [execute_call, checkStack_push] at hcall
  split at hcall
  case isFalse => cases hcall
  next hroom =>
  cases hcall
  set e := (m.call (Int32.ofInt a)).run actions
  have hbelow {k : Nat} (hk : k < m.sp.toNat + 2) :
      e.stack.read k = (m.push (m.pc + 2)).stack.read k := run_read_below actions hstay hk
  have hhigh : e.stack.read (m.sp.toNat : Nat) = ((m.pc + 2) >>> 8).toUInt8 := by
    rw [hbelow (by omega), read_push _ _ (by omega), if_neg (by omega), if_pos rfl]
  have hlow : e.stack.read (m.sp.toNat + 1 : Nat) = (m.pc + 2).toUInt8 := by
    rw [hbelow (by omega), read_push _ _ (by omega), if_pos rfl]
  have hpop : e.pop.2 = m.pc + 2 := by
    rw [pop_snd hlevel, hhigh, hlow, bytesToWord_split]
  refine ⟨e.ret, ?_, ?_, ?_⟩
  · rw [execute_ret, checkStack_pop (by omega), if_pos (by omega)]
    rfl
  · have hpc := toNat_ret_pc e
    rw [hpop, UInt16.toNat_add] at hpc
    rw [hpc, Nat.mod_mod_of_dvd _ (by decide)]
    rfl
  · apply UInt8.toNat_inj.1
    have hsp : e.ret.sp.toNat + 2 = e.sp.toNat := toNat_sp_pop (by omega) rfl
    omega

/-- A nested call and its return, the keypad and the timers lie between the call and the return. -/
theorem ret_after_call_nested :
    let m := powerOn ⟨0, 0⟩
    let n := m.call (Int32.ofInt 0x300)
    let actions : List Action :=
      [.execute (.call 0x400), .tickTimers 3, .execute (.loadByte 1 7), .execute .ret, .setKeys 5]
    m.execute (.call 0x300) = .ok (n, .running) ∧
      (∀ k ∈ n.visited actions, m.sp.toNat + 2 ≤ k.sp.toNat) ∧
      (n.run actions).sp.toNat = m.sp.toNat + 2 ∧
      ∃ k, (n.run actions).execute .ret = .ok (k, .running) ∧ k.pc.toNat = 0x202 ∧ k.sp = 0 := by
  intro m n actions
  have hcall : m.execute (.call 0x300) = .ok (n, .running) := by
    rw [execute_call, checkStack_push, if_pos (by decide)]
    rfl
  have hstay : ∀ k ∈ n.visited actions, m.sp.toNat + 2 ≤ k.sp.toNat := by decide +kernel
  have hlevel : (n.run actions).sp.toNat = m.sp.toNat + 2 := by decide +kernel
  exact ⟨hcall, hstay, hlevel, ret_after_call hcall actions hstay hlevel⟩

/-! ## The list of return addresses -/

theorem returnAddresses_of_still {m n : Machine} (hsp : n.sp = m.sp) (hstack : n.stack = m.stack) :
    n.returnAddresses = m.returnAddresses := by
  simp only [returnAddresses, hsp, hstack]

theorem returnAddresses_of_push {m n : Machine} {v : UInt16} (heven : m.sp.toNat % 2 = 0)
    (hroom : m.sp.toNat + 2 ≤ 64) (hsp : n.sp = m.sp + 2) (hstack : n.stack = (m.push v).stack) :
    n.returnAddresses = m.returnAddresses ++ [v] := by
  have hlen : n.sp.toNat / 2 = m.sp.toNat / 2 + 1 := by
    rw [toNat_sp_push hroom hsp]
    omega
  have htop : 2 * (m.sp.toNat / 2) = m.sp.toNat := by omega
  -- The pointer is even, so no entry below it has a byte at the pointer.
  have hbelow : ∀ i ∈ List.range (m.sp.toNat / 2),
      bytesToWord (n.stack.read (2 * i : Nat)) (n.stack.read (2 * i + 1 : Nat)) =
        bytesToWord (m.stack.read (2 * i : Nat)) (m.stack.read (2 * i + 1 : Nat)) := by
    intro i hi
    have hi := List.mem_range.1 hi
    rw [hstack, read_push m v (by omega), read_push m v (by omega), if_neg (by omega),
      if_neg (by omega), if_neg (by omega), if_neg (by omega)]
  rw [returnAddresses, returnAddresses, hlen, List.range_succ, List.map_append,
    List.map_congr_left hbelow, List.map_singleton, htop, hstack, read_push m v (by omega),
    read_push m v (by omega), if_neg (by omega), if_pos rfl, if_pos rfl, bytesToWord_split]

theorem returnAddresses_of_pop {m n : Machine} (heven : m.sp.toNat % 2 = 0)
    (hroom : 2 ≤ m.sp.toNat) (hsp : n.sp = m.sp - 2) (hstack : n.stack = m.stack) :
    m.returnAddresses = n.returnAddresses ++ [m.pop.2] := by
  have hn := toNat_sp_pop hroom hsp
  have hlen : m.sp.toNat / 2 = n.sp.toNat / 2 + 1 := by omega
  have htop : m.sp.toNat = 2 * (n.sp.toNat / 2) + 2 := by omega
  rw [returnAddresses, returnAddresses, hlen, List.range_succ, List.map_append, hstack,
    List.map_singleton, pop_snd htop]

/-- The pointer is even and within the stack. -/
structure StackBounded (m : Machine) : Prop where
  even : m.sp.toNat % 2 = 0
  le : m.sp.toNat ≤ 64

theorem StackMove.bounded {m n : Machine} (h : StackMove m n) (hm : StackBounded m) :
    StackBounded n := by
  obtain ⟨heven, hle⟩ := hm
  cases h with
  | still hsp _ => exact ⟨by rw [hsp]; exact heven, by rw [hsp]; exact hle⟩
  | push v hroom hsp _ =>
    have := toNat_sp_push hroom hsp
    exact ⟨by omega, by omega⟩
  | pop hroom hsp _ =>
    have := toNat_sp_pop hroom hsp
    exact ⟨by omega, by omega⟩

/-- From power on, the pointer stays even and within the stack. -/
theorem run_stackBounded (random : RandomKey) (actions : List Action) :
    StackBounded ((powerOn random).run actions) :=
  run_induction ⟨rfl, Nat.zero_le 64⟩ (fun n a h => (stackMove_act n a).bounded h) actions

theorem length_returnAddresses (m : Machine) : m.returnAddresses.length = m.sp.toNat / 2 := by
  simp [returnAddresses]

theorem StackBounded.pushed {m n : Machine} {v : UInt16} (hm : StackBounded m)
    (hsp : n.sp = m.sp + 2) (hstack : n.stack = (m.push v).stack) :
    (if m.sp.toNat + 2 ≤ 64 then some n.returnAddresses else none) =
      AddressList.push m.returnAddresses v := by
  have hlen := length_returnAddresses m
  obtain ⟨heven, hle⟩ := hm
  by_cases hroom : m.sp.toNat + 2 ≤ 64
  · rw [if_pos hroom, AddressList.push, if_neg (by rw [hlen, AddressList.capacity]; omega),
      returnAddresses_of_push heven hroom hsp hstack]
  · rw [if_neg hroom, AddressList.push, if_pos (by rw [hlen, AddressList.capacity]; omega)]

theorem StackBounded.popped {m n : Machine} (hm : StackBounded m) (hsp : n.sp = m.sp - 2)
    (hstack : n.stack = m.stack) :
    (if 2 ≤ m.sp.toNat then some (n.returnAddresses, m.pop.2) else none) =
      AddressList.pop m.returnAddresses := by
  by_cases hroom : 2 ≤ m.sp.toNat
  · rw [if_pos hroom, returnAddresses_of_pop hm.even hroom hsp hstack, AddressList.pop,
      List.getLast?_concat, List.dropLast_concat]
    rfl
  · have hlen : m.returnAddresses.length = 0 := by
      rw [length_returnAddresses]
      omega
    rw [if_neg hroom, List.length_eq_zero_iff.1 hlen]
    rfl

/-- The stack of a machine works as the list of its return addresses. -/
structure StackIsList (m : Machine) : Prop where
  even : m.sp.toNat % 2 = 0
  le : m.sp.toNat ≤ 64
  length : m.returnAddresses.length = m.sp.toNat / 2
  push (v : Int32) : (m.push? (lowWord v)).toOption.map returnAddresses =
    AddressList.push m.returnAddresses (UInt16.ofInt v.toInt)
  pop : m.pop?.toOption.map (fun r => (r.1.returnAddresses, r.2)) =
    AddressList.pop m.returnAddresses
  call (a : Int) : (m.execute (.call a)).toOption.map (fun r => r.1.returnAddresses) =
    AddressList.push m.returnAddresses (m.pc + 2)
  ret : (m.execute .ret).toOption.map (fun r => r.1.returnAddresses) =
    (AddressList.pop m.returnAddresses).map Prod.fst
  /-- No other instruction faults or changes the list. -/
  other {i : Instruction} (hcall : ∀ a, i ≠ .call a) (hret : i ≠ .ret) :
    (m.execute i).toOption.map (fun r => r.1.returnAddresses) = some m.returnAddresses
  /-- A push to a full stack changes nothing at all. -/
  full (hfull : m.returnAddresses.length = 32) (v : Int32) (a : Int) :
    m.act (.push v) = m ∧ m.act (.execute (.call a)) = m
  /-- A pop from an empty stack changes nothing at all. -/
  empty (hempty : m.returnAddresses = []) : m.act .pop = m ∧ m.act (.execute .ret) = m

theorem returnAddresses_execute {m : Machine} {i : Instruction} (hcall : ∀ a, i ≠ .call a)
    (hret : i ≠ .ret) :
    (m.execute i).toOption.map (fun r => r.1.returnAddresses) = some m.returnAddresses := by
  have hi : i.stackChange = 0 := by
    cases i with
    | call a => exact absurd rfl (hcall a)
    | ret => exact absurd rfl hret
    | _ => rfl
  rw [execute_of_stackChange_eq_zero m hi]
  split
  · rfl
  · have ⟨hsp, hstack⟩ := complete_stack m hi
    exact congrArg some (returnAddresses_of_still hsp hstack)

/-- **The byte stack is a bounded list.** On every machine that a run from power on reaches,
whatever is pushed, popped and executed, each operation on the bytes is the one on the list. -/
theorem run_stackIsList (random : RandomKey) (actions : List Action) :
    StackIsList ((powerOn random).run actions) := by
  have hm := run_stackBounded random actions
  set m := (powerOn random).run actions
  have hlen := length_returnAddresses m
  refine ⟨hm.even, hm.le, hlen, ?_, ?_, ?_, ?_, returnAddresses_execute, ?_, ?_⟩
  · intro v
    show _ = AddressList.push m.returnAddresses (lowWord v)
    rw [push?, checkStack_push, ← hm.pushed (n := m.push (lowWord v)) rfl rfl]
    split <;> rfl
  · rw [pop?, checkStack_pop hm.le, ← hm.popped (n := m.pop.1) rfl rfl]
    split <;> rfl
  · intro a
    rw [execute_call, checkStack_push, ← hm.pushed (n := m.call (Int32.ofInt a)) rfl rfl]
    split <;> rfl
  · rw [execute_ret, checkStack_pop hm.le, ← hm.popped (n := m.ret) rfl rfl]
    split <;> rfl
  · intro hfull v a
    have hcheck : m.checkStack 2 = .error (.overflow m.sp) := by
      rw [checkStack_push, if_neg (by omega)]
    exact ⟨by rw [act, push?, hcheck]; rfl, by rw [act, issue, execute_call, hcheck]; rfl⟩
  · intro hempty
    have := hm.even
    rw [hempty, List.length_nil] at hlen
    have hcheck : m.checkStack (-2) = .error (.underflow m.sp) := by
      rw [checkStack_pop hm.le, if_neg (by omega)]
    exact ⟨by rw [act, pop?, hcheck]; rfl, by rw [act, issue, execute_ret, hcheck]; rfl⟩

end Machine

end Chip8
