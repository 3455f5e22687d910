import Chip8.Proofs.Machine.Footprint

/-!
# Fields nobody reads

Two machines that differ in one field run in step as long as no instruction they execute reads it.

**One instruction** (`perform_take`). An instruction that does not read a field does the same
whatever the field holds: if it writes the field, the results are equal, and if not, they differ as
the machines did. Executing adds the look at the held keys, which only an instruction that reads
them takes, and the look at the stack pointer, which is no such field (`sameOutcome_execute`).

**Runs** (`lockstep`). What is fetched next depends on memory and the program counter. After each
tick the machines agree on these again, so both fetch the same instruction, although it may have
been written during the run. A tick that faults does so on both, and leaves both as they were.
-/

namespace Chip8

namespace Instruction

/-- The fields an instruction may read. -/
def reads : Instruction → Field → Bool
  | addIndex _, .index | draw _ _ _, .index | storeDigits _, .index | storeRegisters _, .index
  | loadRegisters _, .index => true
  | loadDelayTimer _, .delay => true
  | random _ _, .random => true
  | skipKeyPressed _, .keys | skipKeyNotPressed _, .keys | waitForKey _, .keys => true
  | draw _ _ _, .screen => true
  | _, _ => false

theorem reads_sound (i : Instruction) : i.reads .sound = false := by
  cases i <;> rfl

end Instruction

namespace Machine

/-! ## Taking a field from another machine -/

/-- The machine with a field taken from another one. -/
def take (m : Machine) (f : Field) (o : Machine) : Machine :=
  match f with
  | .index => { m with index := o.index }
  | .delay => { m with delay := o.delay }
  | .sound => { m with sound := o.sound }
  | .random => { m with random := o.random }
  | .keys => { m with keys := o.keys }
  | .screen => { m with screen := o.screen }

/-- The machines agree on everything but a field. -/
def AgreeExcept (f : Field) (m n : Machine) : Prop := n = m.take f n

theorem AgreeExcept.refl (f : Field) (m : Machine) : AgreeExcept f m m := by
  cases f <;> rfl

theorem agreeExcept_take (f : Field) (m o : Machine) : AgreeExcept f m (m.take f o) := by
  cases f <;> rfl

/-! ## One instruction -/

theorem skipIf_take (m o : Machine) (f : Field) (c : Bool) :
    (m.take f o).skipIf c = (m.skipIf c).take f o := by
  cases c <;> cases f <;> rfl

/-- **An instruction does not tell values of a field apart that it does not read.** -/
theorem perform_take (m o : Machine) (f : Field) {i : Instruction} (h : i.reads f = false) :
    (m.take f o).perform i = if i.writes f then m.perform i else (m.perform i).take f o := by
  cases i with
  | skipEqualByte | skipNotEqualByte | skipEqualRegister | skipNotEqualRegister =>
    cases f <;> exact skipIf_take ..
  | skipKeyPressed | skipKeyNotPressed =>
    cases f <;> first | exact skipIf_take .. | cases h
  | waitForKey x =>
    have hkey : (m.take f o).lowestKey? = m.lowestKey? := by cases f <;> first | rfl | cases h
    simp only [perform, hkey]
    cases m.lowestKey? <;> cases f <;> rfl
  | storeRegisters x =>
    simp only [perform, storeRegisters, indexPast, foldl_store]
    cases f <;> first | rfl | cases h
  | loadRegisters x =>
    simp only [perform, loadRegisters, indexPast, foldl_setRegister]
    cases f <;> first | rfl | cases h
  -- These two by hand: trying `rfl` on unequal random bytes or sprites would unfold them.
  | random x k =>
    cases f with
    | random => cases h
    | _ => rfl
  | draw x y height =>
    cases f with
    | index | screen => cases h
    | _ => rfl
  | _ => cases f <;> first | rfl | cases h

theorem complete_take (m o : Machine) (f : Field) {i : Instruction} (h : i.reads f = false) :
    (m.take f o).complete i = if i.writes f then m.complete i else (m.complete i).take f o := by
  simp only [complete, perform_take m o f h]
  cases i.writes f with
  | true => rfl
  | false =>
    cases i.transfersControl with
    | true => rfl
    | false => cases f <;> rfl

theorem agreeExcept_complete {f : Field} {m n : Machine} (h : AgreeExcept f m n)
    {i : Instruction} (hreads : i.reads f = false) :
    AgreeExcept f (m.complete i) (n.complete i) := by
  rw [h, complete_take m n f hreads]
  split
  · exact .refl f _
  · exact agreeExcept_take f _ n

/-- Both faulted alike, or both report the same and agree on everything but a field. -/
def SameOutcome (f : Field) :
    Except StackFault (Machine × Status) → Except StackFault (Machine × Status) → Prop
  | .ok (m, s), .ok (n, t) => s = t ∧ AgreeExcept f m n
  | .error fault, .error fault' => fault = fault'
  | _, _ => False

theorem stackReady_take (m o : Machine) (f : Field) (i : Instruction) :
    (m.take f o).stackReady i = m.stackReady i := by
  cases f <;> rfl

/-- Only an instruction that reads the keys looks whether one is held. -/
theorem waits_take (m o : Machine) (f : Field) {i : Instruction} (h : i.reads f = false) :
    (i.blocking = true ∧ (m.take f o).keys = 0) ↔ (i.blocking = true ∧ m.keys = 0) := by
  cases i with
  | waitForKey x => cases f <;> first | rfl | cases h
  | _ => exact and_congr_right fun hblocking => by cases hblocking

theorem sameOutcome_execute {f : Field} {m n : Machine} (h : AgreeExcept f m n)
    {i : Instruction} (hreads : i.reads f = false) :
    SameOutcome f (m.execute i) (n.execute i) := by
  have hwaits := waits_take m n f hreads
  have hready := stackReady_take m n f i
  rw [← h] at hwaits hready
  simp only [execute, hwaits, hready]
  split
  · exact ⟨rfl, h⟩
  · cases m.stackReady i with
    | ok _ => exact ⟨rfl, agreeExcept_complete h hreads⟩
    | error fault => rfl

/-! ## Runs -/

theorem fetch_take (m o : Machine) (f : Field) : (m.take f o).fetch = m.fetch := by
  cases f <;> rfl

theorem AgreeExcept.fetch {f : Field} {m n : Machine} (h : AgreeExcept f m n) :
    n.fetch = m.fetch := by
  rw [h, fetch_take]

theorem sameOutcome_tick {f : Field} {m n : Machine} (h : AgreeExcept f m n)
    (hreads : m.fetch.reads f = false) : SameOutcome f m.tick n.tick := by
  rw [tick, tick, h.fetch]
  exact sameOutcome_execute h hreads

theorem agreeExcept_act_tick {f : Field} {m n : Machine} (h : AgreeExcept f m n)
    (hreads : m.fetch.reads f = false) : AgreeExcept f (m.act .tick) (n.act .tick) := by
  have htick := sameOutcome_tick h hreads
  simp only [act]
  -- Both tick or both fault: one of each would not be the same outcome.
  cases hm : m.tick <;> cases hn : n.tick <;> rw [hm, hn] at htick
  · exact h
  · exact htick.elim
  · exact htick.elim
  · exact htick.2

def ticks (m : Machine) : Nat → Machine
  | 0 => m
  | k + 1 => (m.ticks k).act .tick

theorem agreeExcept_ticks {f : Field} {m n : Machine} (h : AgreeExcept f m n) {k : Nat}
    (hreads : ∀ j < k, (m.ticks j).fetch.reads f = false) :
    AgreeExcept f (m.ticks k) (n.ticks k) := by
  induction k with
  | zero => exact h
  | succ k ih =>
    exact agreeExcept_act_tick (ih fun j hj => hreads j (Nat.lt_succ_of_lt hj))
      (hreads k (Nat.lt_succ_self k))

/-- **Machines that differ in one field run in step**, if no tick of the first one reads it; the
sound timer is never read. -/
theorem lockstep {f : Field} {m n : Machine} (h : AgreeExcept f m n) {k : Nat}
    (hreads : f = .sound ∨ ∀ j < k, (m.ticks j).fetch.reads f = false) :
    ∀ j < k, (n.ticks j).fetch = (m.ticks j).fetch ∧
      SameOutcome f (m.ticks j).tick (n.ticks j).tick ∧
      AgreeExcept f (m.ticks (j + 1)) (n.ticks (j + 1)) := by
  have hunread : ∀ j < k, (m.ticks j).fetch.reads f = false := by
    rcases hreads with rfl | hreads
    · exact fun j _ => Instruction.reads_sound _
    · exact hreads
  intro j hj
  have hagree : AgreeExcept f (m.ticks j) (n.ticks j) :=
    agreeExcept_ticks h fun l hl => hunread l (Nat.lt_trans hl hj)
  exact ⟨hagree.fetch, sameOutcome_tick hagree (hunread j hj),
    agreeExcept_act_tick hagree (hunread j hj)⟩

/-- A program that stores registers over its own words, and then returns with nothing to return to;
one machine has keys held. -/
theorem lockstep_selfModifying :
    let program : Program := [0x61, 0xEE, 0xA0, 0x06, 0xF1, 0x55, 0x12, 0x00]
    let m := { blank ⟨0, 0⟩ with memory := (Cells.zero 4096).overwrite 0 program }
    let n := { m with keys := 5 }
    AgreeExcept .keys m n ∧ (∀ j < 4, (m.ticks j).fetch.reads .keys = false) ∧
      (m.ticks 3).tick.toOption.isNone ∧
      ∀ j < 4, (n.ticks j).fetch = (m.ticks j).fetch ∧
        SameOutcome .keys (m.ticks j).tick (n.ticks j).tick ∧
        AgreeExcept .keys (m.ticks (j + 1)) (n.ticks (j + 1)) := by
  intro program m n
  have hagree : AgreeExcept .keys m n := rfl
  have hreads : ∀ j < 4, (m.ticks j).fetch.reads .keys = false := by decide +kernel
  have hfault : (m.ticks 3).tick.toOption.isNone := by decide +kernel
  exact ⟨hagree, hreads, hfault, lockstep hagree (Or.inr hreads)⟩

end Machine

end Chip8
