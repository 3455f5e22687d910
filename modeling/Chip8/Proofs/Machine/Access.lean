import Chip8.Proofs.Indexed
import Chip8.Proofs.Machine.Stack

/-!
# Every access is in range

**The machine by indices.** Registers, stack, screen and memory are rows of cells, and each
instruction is written once more as the accesses it makes, at the integers it computes
(`Indexed.perform`, `Indexed.execute`). Under the index rule of byte cells this is the machine, on
every state (`clamped_execute`).

**Where the indices come from.** Registers are numbered by digits of a word, addresses are masked or
are remainders, and so are the places on the screen. Only the stack is indexed by a field of the
machine: there the check for room bounds one side, and the pointer's bound the other, without which
a return can leave the row (`strict_ret_above`).

**Runs** (`run_strict`). The pointer stays within the stack, so from power on every access is in
range, and an interpreter that stops at the first index outside a row never does.
-/

namespace Chip8

namespace Indexed

/-! ## Primitives -/

def register (m : Machine) (x : Register) : Indexed UInt8 := get m.registers x.val

def setRegister (m : Machine) (x : Register) (b : UInt8) : Indexed Machine := do
  return { m with registers := ← set m.registers x.val b }

def load (m : Machine) (address : Int32) : Indexed UInt8 :=
  get m.memory (address &&& 0xFFF).toInt

def store (m : Machine) (address : Int32) (b : UInt8) : Indexed Machine := do
  return { m with memory := ← set m.memory (address &&& 0xFFF).toInt b }

def word (m : Machine) (address : Int32) : Indexed UInt16 := do
  let high ← get m.memory (address.toInt % 4096)
  let low ← get m.memory ((address + 1).toInt % 4096)
  return bytesToWord high low

def push (m : Machine) (value : UInt16) : Indexed Machine := do
  let sp : Int := m.sp.toNat
  let stack ← set m.stack sp (value >>> 8).toUInt8
  let stack ← set stack (sp + 1) value.toUInt8
  return { m with stack, sp := m.sp + 2 }

def pop (m : Machine) : Indexed (Machine × UInt16) := do
  let sp : Int := m.sp.toNat - 2
  let high ← get m.stack sp
  let low ← get m.stack (sp + 1)
  return ({ m with sp := m.sp - 2 }, bytesToWord high low)

def flip (screen : Screen) (position : Int) (part : UInt8) : Indexed (Screen × Bool) := do
  let old ← get screen position
  return (← set screen position (old ^^^ part), old &&& part != 0)

def drawRow (screen : Screen) (pixels x y : Int32) : Indexed (Screen × Bool) := do
  let bits := lowByte pixels
  let rowStart := y.toInt % 32 * 8
  let column := x.toInt % 64 / 8
  let (screen, hit) ← flip screen (rowStart + column) (Screen.stay bits (Screen.bitOffset x))
  let (screen, spillHit) ←
    flip screen (rowStart + (column + 1) % 8) (Screen.spill bits (Screen.bitOffset x))
  return (screen, hit || spillHit)

/-! ## Effects -/

/-- Computes a register from two. -/
def combine (m : Machine) (x y : Register) (result : UInt8 → UInt8 → UInt8) : Indexed Machine := do
  let a ← register m x
  let b ← register m y
  setRegister m x (result a b)

/-- Computes the flag and a register from two; the flag is written first. -/
def combineWithFlag (m : Machine) (x y : Register) (flag : UInt8 → UInt8 → Bool)
    (result : UInt8 → UInt8 → UInt8) : Indexed Machine := do
  let a ← register m x
  let b ← register m y
  let m ← setRegister m flagRegister (Machine.flag (flag a b))
  setRegister m x (result a b)

def draw (m : Machine) (x y : Register) (height : Int) : Indexed Machine := do
  let left := widen (← register m x)
  let top := widen (← register m y)
  let (screen, hit) ← (List.range height.toNat).foldlM
    (fun (screen, hit) row => do
      let pixels ← load m (m.indexAddress + Int32.ofNat row)
      let (screen, rowHit) ← drawRow screen (widen pixels) left (top + Int32.ofNat row)
      return (screen, hit || rowHit))
    (m.screen, false)
  setRegister { m with screen } flagRegister (Machine.flag hit)

def storeDigits (m : Machine) (x : Register) : Indexed Machine := do
  let d := Digits.ofInt (← register m x).toNat
  let m ← store m m.indexAddress (UInt8.ofNat d.hundreds)
  let m ← store m (m.indexAddress + 1) (UInt8.ofNat d.tens)
  store m (m.indexAddress + 2) (UInt8.ofNat d.ones)

def storeRegisters (m : Machine) (x : Register) : Indexed Machine := do
  let n ← (Machine.registersTo x).foldlM
    (fun n (r : Register) => do store n (m.indexAddress + Int32.ofNat r) (← register m r)) m
  return n.indexPast x

def loadRegisters (m : Machine) (x : Register) : Indexed Machine := do
  let n ← (Machine.registersTo x).foldlM
    (fun n (r : Register) => do setRegister n r (← load m (m.indexAddress + Int32.ofNat r))) m
  return n.indexPast x

/-- Moves past the next instruction if a condition on two registers holds. -/
def skipIf (m : Machine) (x y : Register) (condition : UInt8 → UInt8 → Bool) : Indexed Machine := do
  let a ← register m x
  let b ← register m y
  return m.skipIf (condition a b)

def perform (m : Machine) : Instruction → Indexed Machine
  | .clearScreen => return { m with screen := Screen.dark }
  | .ret => do
    let (m, address) ← pop m
    return m.jump (widenWord address)
  | .noOperation => return m
  | .jump a => return m.jump (Int32.ofInt a)
  | .call a => do return (← push m (m.pc + 2)).jump (Int32.ofInt a)
  | .jumpOffset a => do
    return m.jump (Int32.ofInt (a % 4096) + widen (← register m firstRegister))
  | .skipEqualByte x k => do return m.skipIf ((← register m x).toNat = k)
  | .skipNotEqualByte x k => do return m.skipIf ((← register m x).toNat ≠ k)
  | .skipEqualRegister x y => skipIf m x y (· == ·)
  | .skipNotEqualRegister x y => skipIf m x y (· != ·)
  | .skipKeyPressed x => do return m.skipIf (m.keyHeld (← register m x))
  | .skipKeyNotPressed x => do return m.skipIf !m.keyHeld (← register m x)
  | .loadByte x k => setRegister m x (UInt8.ofInt k)
  | .addByte x k => do setRegister m x ((← register m x) + UInt8.ofInt k)
  | .loadIndex a => return { m with index := UInt16.ofInt a }
  | .random x k => do
    return { ← setRegister m x (m.random.byte &&& UInt8.ofInt k) with random := m.random.next }
  | .loadRegister x y => combine m x y fun _ b => b
  | .bitOr x y => combine m x y (· ||| ·)
  | .bitAnd x y => combine m x y (· &&& ·)
  | .bitXor x y => combine m x y (· ^^^ ·)
  | .addRegister x y => combineWithFlag m x y (fun a b => a + b < a) (· + ·)
  | .subtract x y => combineWithFlag m x y (fun a b => b < a) (· - ·)
  | .shiftRight x => combineWithFlag m x firstRegister (fun a _ => a &&& 1 == 1) fun a _ => a >>> 1
  | .subtractReversed x y => combineWithFlag m x y (fun a b => a < b) fun a b => b - a
  | .shiftLeft x =>
    combineWithFlag m x firstRegister (fun a _ => a &&& 0x80 == 0x80) fun a _ => a <<< 1
  | .draw x y height => draw m x y height
  | .loadDelayTimer x => setRegister m x m.delay
  | .waitForKey x => do
    let a ← register m x
    setRegister m x ((m.lowestKey?.map fun k => UInt8.ofNat k).getD a)
  | .setDelayTimer x => do return { m with delay := ← register m x }
  | .setSoundTimer x => do return { m with sound := ← register m x }
  | .addIndex x => do return { m with index := m.index + (← register m x).toUInt16 }
  | .loadSprite x => do
    return { m with index := UInt16.ofInt (Font.address (← register m x).toNat) }
  | .storeDigits x => storeDigits m x
  | .storeRegisters x => storeRegisters m x
  | .loadRegisters x => loadRegisters m x

/-! ## Cycles and actions -/

def complete (m : Machine) (i : Instruction) : Indexed Machine :=
  if i.transfersControl then perform m i else do return (← perform m i).advance 2

def execute (m : Machine) (i : Instruction) : Indexed (Except StackFault (Machine × Status)) :=
  if i.blocking ∧ m.keys = 0 then return .ok (m, .waiting)
  else
    match m.stackReady i with
    | .error fault => return .error fault
    | .ok _ => do return .ok (← complete m i, .running)

def tick (m : Machine) : Indexed (Except StackFault (Machine × Status)) := do
  execute m (Instruction.decodeWord (← word m (widenWord m.pc)))

def loadProgram (m : Machine) (program : Program) : Indexed (Except Fault Machine) :=
  if longestProgram < program.length then return .error (.programTooLong program.length)
  else do return .ok { m with memory := ← overwrite m.memory programStart program }

def issue (m : Machine) (i : Instruction) : Indexed (Except Fault (Machine × Status)) := do
  match ← execute m i with
  | .error fault => return .error (.stack fault)
  | .ok result => return if i.fits then .ok result else .error .outOfRange

/-- The machine after an action. -/
def act (m : Machine) : Action → Indexed Machine
  | .execute i => do return m.attempt ((← issue m i).map Prod.fst)
  | .tick => do return m.attempt ((← tick m).map Prod.fst)
  | .tickTimers n => return m.tickTimers n
  | .setKeys keys => return { m with keys }
  | .load program => do return m.attempt (← loadProgram m program)
  | .push v =>
    match m.checkStack 2 with
    | .error _ => return m
    | .ok _ => push m (lowWord v)
  | .pop =>
    match m.checkStack (-2) with
    | .error _ => return m
    | .ok _ => do return (← pop m).1

/-- The machine after some actions. -/
def run (m : Machine) (actions : List Action) : Indexed Machine := actions.foldlM act m

/-! ## Primitives stay in range -/

section

variable (m : Machine)

theorem register_gives (x : Register) : (register m x).Gives (m.register x) := .get _ rfl x.isLt

theorem setRegister_gives (x : Register) (b : UInt8) :
    (setRegister m x b).Gives (m.setRegister x b) :=
  (Gives.set _ rfl x.isLt b).bind (.pure _)

theorem load_gives (address : Int32) : (load m address).Gives (m.load address) :=
  .get _ (toInt_and_address address) (masked address).isLt

theorem store_gives (address : Int32) (b : UInt8) :
    (store m address b).Gives (m.store address b) :=
  (Gives.set _ (toInt_and_address address) (masked address).isLt b).bind (.pure _)

theorem word_gives (address : Int32) : (word m address).Gives (m.word address) :=
  (Gives.get _ (wrapped_val address).symm (wrapped address).isLt).bind
    ((Gives.get _ (wrapped_val (address + 1)).symm (wrapped (address + 1)).isLt).bind (.pure _))

/-- A push with room for it writes inside the stack. -/
theorem push_gives (value : UInt16) (h : m.sp.toNat + 2 ≤ 64) :
    (push m value).Gives (m.push value) :=
  (Gives.write _ ⟨by simp, by simp; omega⟩ _).bind
    ((Gives.write _ ⟨by simp; omega, by simp; omega⟩ _).bind (.pure _))

/-- A pop with something to take reads inside the stack, if the pointer is within it. -/
theorem pop_gives (hroom : 2 ≤ m.sp.toNat) (hle : m.sp.toNat ≤ 64) : (pop m).Gives m.pop :=
  (Gives.read _ ⟨by simp; omega, by simp; omega⟩).bind
    ((Gives.read _ ⟨by simp; omega, by simp; omega⟩).bind (.pure _))

theorem flip_gives (screen : Screen) {i : Int} {spot : Fin 256} (h : i = spot.val) (part : UInt8) :
    (flip screen i part).Gives (screen.flip spot part) :=
  (Gives.get _ h spot.isLt).bind ((Gives.set _ h spot.isLt _).bind (.pure _))

theorem drawRow_gives (screen : Screen) (pixels x y : Int32) :
    (drawRow screen pixels x y).Gives (screen.drawRow pixels x y) := by
  have hcolumn : (Screen.byteColumn x).val = (x.toInt % 64).toNat / 8 := rfl
  have hnext : (Screen.byteColumn x + 1).val = ((x.toInt % 64).toNat / 8 + 1) % 8 := by
    rw [Fin.val_add, hcolumn]
    rfl
  have hfirst : y.toInt % 32 * 8 + x.toInt % 64 / 8 =
      (Screen.place (Screen.line y) (Screen.byteColumn x)).val := by
    simp only [Screen.place, Screen.line, hcolumn]
    omega
  have hsecond : y.toInt % 32 * 8 + (x.toInt % 64 / 8 + 1) % 8 =
      (Screen.place (Screen.line y) (Screen.byteColumn x + 1)).val := by
    simp only [Screen.place, Screen.line, hnext]
    omega
  exact (flip_gives screen hfirst _).bind ((flip_gives _ hsecond _).bind (.pure _))

/-! ## Instructions stay in range -/

theorem combine_gives (x y : Register) (result : UInt8 → UInt8 → UInt8) :
    (combine m x y result).Gives (m.setRegister x (result (m.register x) (m.register y))) :=
  (register_gives m x).bind ((register_gives m y).bind (setRegister_gives m x _))

theorem combineWithFlag_gives (x y : Register) (flag : UInt8 → UInt8 → Bool)
    (result : UInt8 → UInt8 → UInt8) :
    (combineWithFlag m x y flag result).Gives
      (m.setWithFlag x (flag (m.register x) (m.register y))
        (result (m.register x) (m.register y))) :=
  (register_gives m x).bind <| (register_gives m y).bind <|
    (setRegister_gives m flagRegister _).bind (setRegister_gives _ x _)

theorem skipIf_gives (x y : Register) (condition : UInt8 → UInt8 → Bool) :
    (skipIf m x y condition).Gives (m.skipIf (condition (m.register x) (m.register y))) :=
  (register_gives m x).bind ((register_gives m y).bind (.pure _))

theorem draw_gives (x y : Register) (height : Int) :
    (draw m x y height).Gives (m.draw x y height) := by
  refine (register_gives m x).bind ((register_gives m y).bind (Gives.bind (.foldlM ?_ _)
    (setRegister_gives _ flagRegister _)))
  rintro ⟨screen, hit⟩ row
  exact (load_gives m _).bind ((drawRow_gives screen _ _ _).bind (.pure _))

theorem storeDigits_gives (x : Register) : (storeDigits m x).Gives (m.storeDigits x) :=
  (register_gives m x).bind <| (store_gives m _ _).bind <| (store_gives _ _ _).bind <|
    store_gives _ _ _

theorem storeRegisters_gives (x : Register) : (storeRegisters m x).Gives (m.storeRegisters x) :=
  (Gives.foldlM (fun n r => (register_gives m r).bind (store_gives n _ _)) m).bind (.pure _)

theorem loadRegisters_gives (x : Register) : (loadRegisters m x).Gives (m.loadRegisters x) :=
  (Gives.foldlM (fun n r => (load_gives m _).bind (setRegister_gives n r _)) m).bind (.pure _)

/-- An instruction that does not move the stack pointer stays in range on any machine. -/
theorem perform_gives {i : Instruction} (h : i.stackChange = 0) :
    (perform m i).Gives (m.perform i) := by
  cases i with
  | call | ret => simp [Instruction.stackChange] at h
  | clearScreen | noOperation | jump | loadIndex => exact .pure _
  | jumpOffset | skipEqualByte x | skipNotEqualByte x | skipKeyPressed x | skipKeyNotPressed x
  | setDelayTimer x | setSoundTimer x | addIndex x | loadSprite x =>
    exact (register_gives m _).bind (.pure _)
  | skipEqualRegister x y => exact skipIf_gives m x y _
  | skipNotEqualRegister x y => exact skipIf_gives m x y _
  | loadByte x | loadDelayTimer x => exact setRegister_gives m x _
  | addByte x => exact (register_gives m x).bind (setRegister_gives m x _)
  | random x => exact (setRegister_gives m x _).bind (.pure _)
  | loadRegister x y | bitOr x y | bitAnd x y | bitXor x y => exact combine_gives m x y _
  | addRegister x y | subtract x y | subtractReversed x y =>
    exact combineWithFlag_gives m x y _ _
  | shiftRight x | shiftLeft x => exact combineWithFlag_gives m x firstRegister _ _
  | draw x y height => exact draw_gives m x y height
  | waitForKey x =>
    -- With no key held the register is written back, which is no change.
    have hset : (m.setRegister x ((m.lowestKey?.map fun k => UInt8.ofNat k).getD (m.register x))) =
        m.perform (.waitForKey x) := by
      rw [Machine.perform]
      cases m.lowestKey? with
      | some k => rfl
      | none => exact m.setRegister_register x
    rw [← hset]
    exact (register_gives m x).bind (setRegister_gives m x _)
  | storeDigits x => exact storeDigits_gives m x
  | storeRegisters x => exact storeRegisters_gives m x
  | loadRegisters x => exact loadRegisters_gives m x

/-- A call or a return stays in range on a machine whose pointer is within the stack. -/
theorem perform_gives_of_stackReady {i : Instruction} (hle : m.sp.toNat ≤ 64)
    (hready : m.stackReady i = .ok ()) : (perform m i).Gives (m.perform i) := by
  cases i with
  | call a => exact (push_gives m _ (Machine.room_of_checkStack hready)).bind (.pure _)
  | ret => exact (pop_gives m (Machine.two_le_of_checkStack hready) hle).bind (.pure _)
  | _ => exact perform_gives m rfl

theorem clamped_perform (i : Instruction) : (perform m i).clamped = m.perform i := by
  cases i with
  -- The machine leaves the stack's indices to the same rule, so no bound is needed here.
  | call | ret => rfl
  | _ => exact (perform_gives m rfl).clamped_eq

theorem complete_gives {i : Instruction} (h : (perform m i).Gives (m.perform i)) :
    (complete m i).Gives (m.complete i) := by
  rw [complete, Machine.complete]
  split
  · exact h
  · exact h.bind (.pure _)

theorem clamped_complete (i : Instruction) : (complete m i).clamped = m.complete i := by
  rw [complete, Machine.complete]
  split
  · exact clamped_perform m i
  · rw [clamped_bind, clamped_perform]
    rfl

/-- **Under the index rule of byte cells the accesses make up the machine**, on every state. -/
theorem clamped_execute (i : Instruction) : (execute m i).clamped = m.execute i := by
  rw [execute, Machine.execute]
  split
  · rfl
  · cases m.stackReady i with
    | error fault => rfl
    | ok _ =>
      show (complete m i >>= fun n => pure (Except.ok (n, Status.running))).clamped = _
      rw [clamped_bind, clamped_complete]
      rfl

/-- **With the pointer within the stack, an instruction stays in range.** -/
theorem execute_gives (hle : m.sp.toNat ≤ 64) (i : Instruction) :
    (execute m i).Gives (m.execute i) := by
  rw [execute, Machine.execute]
  split
  · exact .pure _
  · cases hready : m.stackReady i with
    | error fault => exact .pure _
    | ok _ => exact (complete_gives m (perform_gives_of_stackReady m hle hready)).bind (.pure _)

/-- **The bound is needed.** The check only looks where the pointer goes, so just above the stack it
lets a return pass, which then reads outside. -/
theorem strict_ret_above (hlt : 64 < m.sp.toNat) (hle : m.sp.toNat ≤ 66) :
    (execute m .ret).strict = .error ⟨64, 64⟩ := by
  have hready : m.stackReady .ret = .ok () := by
    show m.checkStack (-2) = _
    rw [Machine.checkStack, if_neg (by rw [Machine.stackSize]; omega), if_neg (by omega)]
  have hreads : execute m .ret = read m.stack (m.sp.toNat - 2) fun high =>
      read m.stack (m.sp.toNat - 2 + 1) fun low =>
        done (.ok (({ m with sp := m.sp - 2 } : Machine).jump (widenWord (bytesToWord high low)),
          .running)) := by
    rw [execute, if_neg (fun h => Bool.false_ne_true h.1), hready]
    rfl
  rw [hreads, strict]
  -- From 65 the second byte is outside, from 66 the first.
  rcases (by omega : m.sp.toNat = 65 ∨ m.sp.toNat = 66) with h | h
  · rw [dif_pos (by omega), strict, dif_neg (by omega), h]
    rfl
  · rw [dif_neg (by omega), h]
    rfl

theorem tick_gives (hle : m.sp.toNat ≤ 64) : (tick m).Gives m.tick :=
  (word_gives m _).bind (execute_gives m hle _)

/-! ## Runs stay in range -/

theorem loadProgram_gives (program : Program) :
    (loadProgram m program).Gives (m.loadProgram program) := by
  rw [loadProgram, Machine.loadProgram]
  split
  · exact .pure _
  · next hfits =>
    have hle : programStart + program.length ≤ 4096 := by
      simp only [longestProgram, programStart] at hfits ⊢
      omega
    exact (Gives.overwrite _ _ _ hle).bind (.pure _)

theorem issue_gives (hle : m.sp.toNat ≤ 64) (i : Instruction) :
    (issue m i).Gives (m.issue i) := by
  refine (execute_gives m hle i).bind ?_
  rw [Machine.issue]
  cases m.execute i with
  | error fault => exact .pure _
  | ok result => exact .pure _

theorem act_gives (hle : m.sp.toNat ≤ 64) (a : Action) : (act m a).Gives (m.act a) := by
  cases a with
  | execute i => exact (issue_gives m hle i).bind (.pure _)
  | tick => exact (tick_gives m hle).bind (.pure _)
  | tickTimers | setKeys => exact .pure _
  | load program => exact (loadProgram_gives m program).bind (.pure _)
  | push v =>
    rw [act, Machine.act, Machine.push?]
    cases hready : m.checkStack 2 with
    | error fault => exact .pure _
    | ok _ => exact push_gives m _ (Machine.room_of_checkStack hready)
  | pop =>
    rw [act, Machine.act, Machine.pop?]
    cases hready : m.checkStack (-2) with
    | error fault => exact .pure _
    | ok _ => exact (pop_gives m (Machine.two_le_of_checkStack hready) hle).bind (.pure _)

theorem run_gives (hm : m.StackBounded) (actions : List Action) :
    (run m actions).Gives (m.run actions) := by
  -- Each action keeps the bound on the pointer that the next one needs.
  induction actions generalizing m with
  | nil => exact .pure _
  | cons a actions ih => exact (act_gives m hm.le a).bind (ih _ ((m.stackMove_act a).bounded hm))

end

/-- **From power on, no access is out of range.** Whatever has been loaded, executed, fed, pushed
and popped before, every access of the next instruction is in range, so clamping and dropping never
take effect: an interpreter that stops at the first index outside a row goes through the run and
the next cycle with the same machine, status or fault. -/
theorem run_strict (random : RandomKey) (actions : List Action) (i : Instruction) :
    let start := Machine.powerOn random
    let m := start.run actions
    (∀ a ∈ (execute m i).accesses, a.InRange) ∧
      (execute m i).clamped = m.execute i ∧
      (run start actions >>= fun n => execute n i).strict = .ok (m.execute i) ∧
      (run start actions >>= tick).strict = .ok m.tick := by
  intro start m
  have hrun : (run start actions).Gives m :=
    run_gives start (Machine.run_stackBounded random []) actions
  have hm : m.StackBounded := Machine.run_stackBounded random actions
  have hexecute := execute_gives m hm.le i
  exact ⟨hexecute.inRange, clamped_execute m i, (hrun.bind hexecute).strict_eq,
    (hrun.bind (tick_gives m hm.le)).strict_eq⟩

end Indexed

end Chip8
