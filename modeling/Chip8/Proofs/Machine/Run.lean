import Chip8.Machine.Program
import Chip8.Proofs.Machine.Effect

/-!
# Runs of a machine

**Actions** (`Action`). What a host does to a machine: it executes instructions, lets it run on its
own, feeds its timers and keys, loads programs, and pushes and pops. An action that faults leaves
the machine as it was (`Machine.attempt`), and the host may go on.

**What an action leaves** (`Machine.Acted`). The machine as it was, what one instruction makes of
it, or one change of the host's. What all of these preserve, every run preserves
(`Machine.run_induction`).

**Runs** (`Machine.run`). The actions of a list one after another. All machines on the way, the
first and the last included, are `Machine.visited`.
-/

namespace Chip8

/-- What a host may do to a machine. -/
inductive Action where
  /-- Executes an instruction, decoded from a word or built by hand. -/
  | execute (i : Instruction)
  /-- Executes the instruction at the program counter. -/
  | tick
  | tickTimers (ticks : Int32)
  | setKeys (keys : UInt16)
  | load (program : Program)
  | push (value : Int32)
  | pop

namespace Machine

/-- The machine after an attempt: as it was, if the attempt faults. -/
def attempt {ε : Type} (m : Machine) : Except ε Machine → Machine
  | .ok n => n
  | .error _ => m

/-- The machine after an action. -/
def act (m : Machine) : Action → Machine
  | .execute i => m.attempt ((m.issue i).map Prod.fst)
  | .tick => m.attempt (m.tick.map Prod.fst)
  | .tickTimers n => m.tickTimers n
  | .setKeys keys => { m with keys }
  | .load program => m.attempt (m.loadProgram program)
  | .push v => m.attempt (m.push? (lowWord v))
  | .pop => m.attempt (m.pop?.map Prod.fst)

/-- The machine after some actions. -/
def run (m : Machine) (actions : List Action) : Machine := actions.foldl act m

/-- The machines a run goes through. -/
def visited (m : Machine) (actions : List Action) : List Machine := actions.scanl act m

/-- What every action preserves, a run preserves. -/
theorem run_induction {P : Machine → Prop} {m : Machine} (hm : P m)
    (hact : ∀ n a, P n → P (n.act a)) (actions : List Action) : P (m.run actions) := by
  induction actions generalizing m with
  | nil => exact hm
  | cons a actions ih => exact ih (hact m a hm)

theorem attempt_execute (m : Machine) (i : Instruction) :
    m.attempt ((m.execute i).map Prod.fst) = m ∨
      ∃ n s, m.execute i = .ok (n, s) ∧ m.attempt ((m.execute i).map Prod.fst) = n := by
  cases m.execute i with
  | error fault => exact Or.inl rfl
  | ok r => exact Or.inr ⟨r.1, r.2, rfl, rfl⟩

/-- An action that executes an instruction changes nothing, or leaves what the instruction does. -/
theorem act_execute (m : Machine) (i : Instruction) :
    m.act (.execute i) = m ∨ ∃ n s, m.execute i = .ok (n, s) ∧ m.act (.execute i) = n := by
  rw [act, issue]
  cases m.execute i with
  | error fault => exact Or.inl rfl
  | ok r =>
    -- Operands are checked after the effect, which is then dropped.
    by_cases hfits : i.fits
    · exact Or.inr ⟨r.1, r.2, rfl, by simp only [if_pos hfits]; rfl⟩
    · exact Or.inl (by simp only [if_neg hfits]; rfl)

/-- What an action may leave of a machine. -/
inductive Acted (m : Machine) : Machine → Prop
  | same : Acted m m
  | executed {i : Instruction} {n : Machine} {s : Status} (h : m.execute i = .ok (n, s)) :
    Acted m n
  | timed (ticks : Int32) : Acted m (m.tickTimers ticks)
  | keyed (keys : UInt16) : Acted m { m with keys }
  | loaded (memory : Cells 4096) : Acted m { m with memory }
  | pushed (v : UInt16) (hroom : m.sp.toNat + 2 ≤ 64) : Acted m (m.push v)
  | popped (hroom : 2 ≤ m.sp.toNat) : Acted m m.pop.1

theorem acted (m : Machine) (a : Action) : Acted m (m.act a) := by
  cases a with
  | execute i =>
    rcases act_execute m i with h | ⟨n, s, hexecute, h⟩ <;> rw [h]
    · exact .same
    · exact .executed hexecute
  | tick =>
    rw [act, tick]
    rcases attempt_execute m m.fetch with h | ⟨n, s, hexecute, h⟩ <;> rw [h]
    · exact .same
    · exact .executed hexecute
  | tickTimers n => exact .timed n
  | setKeys keys => exact .keyed keys
  | load program =>
    simp only [act, loadProgram]
    split
    · exact .same
    · exact .loaded _
  | push v =>
    simp only [act, push?, checkStack_push]
    split
    · next hroom => exact .pushed (lowWord v) hroom
    · exact .same
  | pop =>
    simp only [act, pop?]
    cases hc : m.checkStack (-2) with
    | ok _ => exact .popped (two_le_of_checkStack hc)
    | error fault => exact .same

end Machine

end Chip8
