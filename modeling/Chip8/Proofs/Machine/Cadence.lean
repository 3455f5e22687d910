import Chip8.Proofs.Machine.Ambient

/-!
# Cycles and timer ticks

Two clocks drive a machine, one its instructions and the other its timers, and each keeps its own
time. A run is given as a list of *beats* of the two kinds (`Beat`), and reports what it executed,
what each cycle returned, and the machine at the end or the fault that ended it (`Played`).

**One beat past the other.** Ticks given one after another add up, since a timer that has reached
zero stays there (`tickTimers_tickTimers`). An instruction that neither reads nor sets a timer does
the same before a tick as after it, and the tick does the same to its machine
(`tick_tickTimers`): such an instruction cannot tell the timers apart (`complete_take`) and leaves
them alone (`complete_kept`).

**Interleavings** (`play_perm`). Neighbouring beats may hence change places, and all orders of the
same beats give the same report. In one of them all ticks come last, and there they are one tick of
their sum (`play_append_timers`).
-/

namespace Chip8

/-- What drives a machine. -/
inductive Beat where
  | cycle
  | timers (ticks : Int32)
deriving DecidableEq

namespace Beat

def ticks : Beat → Int
  | cycle => 0
  | timers n => n.toInt

@[simp] theorem ticks_cycle : cycle.ticks = 0 := rfl

@[simp] theorem ticks_timers (n : Int32) : (timers n).ticks = n.toInt := rfl

def totalTicks (beats : List Beat) : Int := (beats.map ticks).sum

theorem totalTicks_cons (b : Beat) (beats : List Beat) :
    totalTicks (b :: beats) = b.ticks + totalTicks beats := by
  simp [totalTicks]

theorem totalTicks_nonneg {beats : List Beat} (h : ∀ b ∈ beats, 0 ≤ b.ticks) :
    0 ≤ totalTicks beats :=
  List.sum_nonneg fun n hn => by
    obtain ⟨b, hb, rfl⟩ := List.mem_map.1 hn
    exact h b hb

theorem totalTicks_perm {beats beats' : List Beat} (h : beats.Perm beats') :
    totalTicks beats = totalTicks beats' :=
  (h.map ticks).sum_eq

end Beat

/-- The instruction reads or sets a timer. -/
def Instruction.usesTimers : Instruction → Bool
  | loadDelayTimer _ | setDelayTimer _ | setSoundTimer _ => true
  | _ => false

/-- What a run reports. -/
structure Played where
  /-- The instructions of the cycles, the one that faulted included. -/
  executed : List Instruction
  statuses : List Status
  result : Except StackFault Machine

namespace Played

/-- The report with a cycle before it. -/
def cons (i : Instruction) (s : Status) (r : Played) : Played :=
  ⟨i :: r.executed, s :: r.statuses, r.result⟩

/-- The report with a last tick of the timers; after a fault there is none. -/
def thenTimers (r : Played) (ticks : Int32) : Played :=
  { r with result := r.result.map fun m => m.tickTimers ticks }

end Played

namespace Machine

open Beat

/-- The report of a run; a fault ends it. -/
def play (m : Machine) : List Beat → Played
  | [] => ⟨[], [], .ok m⟩
  | .timers n :: beats => (m.tickTimers n).play beats
  | .cycle :: beats =>
    match m.tick with
    | .ok (n, s) => (n.play beats).cons m.fetch s
    | .error fault => ⟨[m.fetch], [], .error fault⟩

theorem play_timers (m : Machine) (n : Int32) (beats : List Beat) :
    m.play (.timers n :: beats) = (m.tickTimers n).play beats := rfl

theorem play_cycle_of_ok {m n : Machine} {s : Status} (h : m.tick = .ok (n, s))
    (beats : List Beat) : m.play (.cycle :: beats) = (n.play beats).cons m.fetch s := by
  rw [play, h]

theorem play_cycle_of_error {m : Machine} {fault : StackFault} (h : m.tick = .error fault)
    (beats : List Beat) : m.play (.cycle :: beats) = ⟨[m.fetch], [], .error fault⟩ := by
  rw [play, h]

theorem fetch_mem_executed (m : Machine) (beats : List Beat) :
    m.fetch ∈ (m.play (.cycle :: beats)).executed := by
  cases h : m.tick with
  | ok r =>
    rw [play_cycle_of_ok h]
    exact List.mem_cons_self
  | error fault =>
    rw [play_cycle_of_error h]
    exact List.mem_cons_self

theorem play_append {m n : Machine} {beats : List Beat} (h : (m.play beats).result = .ok n)
    (more : List Beat) : (m.play (beats ++ more)).result = (n.play more).result := by
  induction beats generalizing m with
  | nil =>
    cases h
    rfl
  | cons b beats ih =>
    cases b with
    | timers k => exact ih h
    | cycle =>
      cases hm : m.tick with
      | ok r =>
        rw [play_cycle_of_ok hm] at h
        rw [List.cons_append, play_cycle_of_ok hm]
        exact ih h
      | error fault =>
        rw [play_cycle_of_error hm] at h
        cases h

/-! ## Ticks after ticks -/

theorem toNat_countDown {n : Int32} (hn : 0 ≤ n.toInt) (t : UInt8) :
    ((countDown n t).toNat : Int) = max 0 (t.toNat - n.toInt) := by
  have ht := t.toNat_lt
  have hlt := n.toInt_lt
  have hleft : (widen t - n).toInt = t.toNat - n.toInt := by
    rw [Int32.toInt_sub, toInt_widen]
    exact Int.bmod_eq_of_le (by omega) (by omega)
  have hneg : widen t - n < 0 ↔ (t.toNat : Int) - n.toInt < 0 := by
    rw [Int32.lt_iff_toInt_lt, hleft]
    rfl
  simp only [countDown, hneg]
  split
  · rw [max_eq_left (by omega)]
    rfl
  · rw [toNat_lowByte, hleft]
    omega

theorem toInt_add_of_lt {a b : Int32} (ha : 0 ≤ a.toInt) (hb : 0 ≤ b.toInt)
    (hsum : a.toInt + b.toInt < 2 ^ 31) : (a + b).toInt = a.toInt + b.toInt := by
  rw [Int32.toInt_add]
  exact Int.bmod_eq_of_le (by omega) (by omega)

theorem countDown_countDown {a b : Int32} (ha : 0 ≤ a.toInt) (hb : 0 ≤ b.toInt)
    (hsum : a.toInt + b.toInt < 2 ^ 31) (t : UInt8) :
    countDown b (countDown a t) = countDown (a + b) t := by
  have hadd := toInt_add_of_lt ha hb hsum
  have hfirst := toNat_countDown ha t
  have hboth := toNat_countDown hb (countDown a t)
  have hone := toNat_countDown (n := a + b) (by omega) t
  apply UInt8.toNat_inj.1
  omega

/-- **Ticks one after another are one tick of their sum.** -/
theorem tickTimers_tickTimers (m : Machine) {a b : Int32} (ha : 0 ≤ a.toInt) (hb : 0 ≤ b.toInt)
    (hsum : a.toInt + b.toInt < 2 ^ 31) :
    (m.tickTimers a).tickTimers b = m.tickTimers (a + b) := by
  simp only [tickTimers, countDown_countDown ha hb hsum]

theorem tickTimers_comm (m : Machine) {a b : Int32} (ha : 0 ≤ a.toInt) (hb : 0 ≤ b.toInt)
    (hsum : a.toInt + b.toInt < 2 ^ 31) :
    (m.tickTimers a).tickTimers b = (m.tickTimers b).tickTimers a := by
  rw [tickTimers_tickTimers m ha hb hsum, tickTimers_tickTimers m hb ha (by omega), Int32.add_comm]

theorem countDown_zero (t : UInt8) : countDown 0 t = t := by
  apply UInt8.toNat_inj.1
  have h := toNat_countDown (n := 0) (le_refl 0) t
  have hzero : (0 : Int32).toInt = 0 := rfl
  omega

theorem tickTimers_zero (m : Machine) : m.tickTimers 0 = m := by
  simp only [tickTimers, countDown_zero]

/-- Some ticks are that many single ones. -/
theorem iterate_tickTimers (m : Machine) {k : Nat} (hk : k < 2 ^ 31) :
    (fun n => n.tickTimers 1)^[k] m = m.tickTimers (Int32.ofNat k) := by
  induction k with
  | zero => exact (tickTimers_zero m).symm
  | succ k ih =>
    have hofNat : (Int32.ofNat k).toInt = k := Int32.toInt_ofNat_of_lt (by omega)
    have hone : (1 : Int32).toInt = 1 := rfl
    rw [Function.iterate_succ_apply', ih (by omega), Int32.ofNat_add]
    exact tickTimers_tickTimers m (by omega) (by omega) (by omega)

/-! ## Cycles and ticks -/

theorem complete_tickTimers (m : Machine) (ticks : Int32) {i : Instruction}
    (h : i.usesTimers = false) :
    (m.tickTimers ticks).complete i = (m.complete i).tickTimers ticks := by
  have hreads : i.reads .delay = false := by cases i <;> first | rfl | cases h
  have hdelay : i.writes .delay = false := by cases i <;> first | rfl | cases h
  have hsound : i.writes .sound = false := by cases i <;> first | rfl | cases h
  have hkept := complete_kept m i
  have hd : (m.complete i).delay = m.delay := hkept.fields .delay hdelay
  have hs : (m.complete i).sound = m.sound := hkept.fields .sound hsound
  set o := m.tickTimers ticks with ho
  -- A tick of the timers is taking both of them from another machine.
  calc o.complete i = ((m.take .delay o).take .sound o).complete i := rfl
    _ = ((m.complete i).take .delay o).take .sound o := by
      rw [complete_take _ _ _ i.reads_sound, if_neg (by rw [hsound]; decide),
        complete_take _ _ _ hreads, if_neg (by rw [hdelay]; decide)]
    _ = (m.complete i).tickTimers ticks := by
      simp only [take, ho, tickTimers, hd, hs]

/-- **A cycle does the same before a tick of the timers as after it.** -/
theorem tick_tickTimers {m : Machine} (ticks : Int32) (h : m.fetch.usesTimers = false) :
    (m.tickTimers ticks).tick = m.tick.map fun r => (r.1.tickTimers ticks, r.2) := by
  have hfetch : (m.tickTimers ticks).fetch = m.fetch := rfl
  have hkeys : (m.tickTimers ticks).keys = m.keys := rfl
  have hready : (m.tickTimers ticks).stackReady m.fetch = m.stackReady m.fetch := rfl
  rw [tick, tick, hfetch, execute, execute, hkeys, hready, complete_tickTimers m ticks h]
  split
  · rfl
  · cases m.stackReady m.fetch <;> rfl

theorem play_swap {m : Machine} (n : Int32) (beats : List Beat) (h : m.fetch.usesTimers = false) :
    m.play (.timers n :: .cycle :: beats) = m.play (.cycle :: .timers n :: beats) := by
  have htick := tick_tickTimers n h
  cases hm : m.tick with
  | ok r =>
    rw [hm] at htick
    rw [play_timers, play_cycle_of_ok htick, play_cycle_of_ok hm]
    rfl
  | error fault =>
    rw [hm] at htick
    rw [play_timers, play_cycle_of_error htick, play_cycle_of_error hm]
    rfl

/-! ## Interleavings -/

/-- **All orders of the same beats give the same report.** -/
theorem play_perm {beats beats' : List Beat} (h : beats.Perm beats') {m : Machine}
    (hticks : ∀ b ∈ beats, 0 ≤ b.ticks) (hsum : totalTicks beats < 2 ^ 31)
    (hquiet : ∀ i ∈ (m.play beats).executed, i.usesTimers = false) :
    m.play beats' = m.play beats := by
  -- Along the permutation: what is executed stays the same, and so what is assumed of it.
  induction h generalizing m with
  | nil => rfl
  | @cons b l l' h ih =>
    rw [totalTicks_cons] at hsum
    have hb := hticks b List.mem_cons_self
    have hl : ∀ c ∈ l, 0 ≤ c.ticks := fun c hc => hticks c (List.mem_cons_of_mem _ hc)
    have hlt : totalTicks l < 2 ^ 31 := by omega
    cases b with
    | timers n => exact ih hl hlt hquiet
    | cycle =>
      cases hm : m.tick with
      | ok r =>
        rw [play_cycle_of_ok hm] at hquiet
        rw [play_cycle_of_ok hm, play_cycle_of_ok hm,
          ih hl hlt fun i hi => hquiet i (List.mem_cons_of_mem _ hi)]
      | error fault => rw [play_cycle_of_error hm, play_cycle_of_error hm]
  | swap a b l =>
    have hl : 0 ≤ totalTicks l := totalTicks_nonneg fun c hc => hticks c (by simp [hc])
    have ha := hticks a (by simp)
    have hb := hticks b (by simp)
    rw [totalTicks_cons, totalTicks_cons] at hsum
    cases a with
    | cycle =>
      cases b with
      | cycle => rfl
      -- The first instruction is the one at the counter on either side of the tick.
      | timers n => exact (play_swap n l (hquiet m.fetch (fetch_mem_executed _ l))).symm
    | timers k =>
      cases b with
      | cycle => exact play_swap k l (hquiet m.fetch (fetch_mem_executed _ _))
      | timers n =>
        rw [ticks_timers] at ha hb hsum
        rw [ticks_timers] at hsum
        exact congrArg (fun n : Machine => n.play l) (tickTimers_comm m ha hb (by omega))
  | trans h₁ _ ih₁ ih₂ =>
    have hfirst := ih₁ hticks hsum hquiet
    rw [← hfirst] at hquiet ⊢
    exact ih₂ (fun b hb => hticks b (h₁.mem_iff.2 hb)) (totalTicks_perm h₁ ▸ hsum) hquiet

/-- Without cycles, the beats are one tick of the timers. -/
theorem play_timersOnly {m : Machine} {beats : List Beat} (honly : ∀ b ∈ beats, b ≠ .cycle)
    (hticks : ∀ b ∈ beats, 0 ≤ b.ticks) (hsum : totalTicks beats < 2 ^ 31) :
    m.play beats = ⟨[], [], .ok (m.tickTimers (Int32.ofInt (totalTicks beats)))⟩ := by
  induction beats generalizing m with
  | nil =>
    have hzero : Int32.ofInt (totalTicks []) = 0 := rfl
    rw [hzero, tickTimers_zero, play]
  | cons b beats ih =>
    cases b with
    | cycle => exact absurd rfl (honly _ List.mem_cons_self)
    | timers n =>
      have hn : 0 ≤ n.toInt := hticks _ List.mem_cons_self
      have hrest : ∀ b ∈ beats, 0 ≤ b.ticks := fun b hb => hticks b (List.mem_cons_of_mem _ hb)
      have hnonneg := totalTicks_nonneg hrest
      rw [totalTicks_cons, ticks_timers] at hsum ⊢
      have htotal : (Int32.ofInt (totalTicks beats)).toInt = totalTicks beats :=
        Int32.toInt_ofInt_of_le (by omega) (by omega)
      rw [play_timers, ih (fun b hb => honly b (List.mem_cons_of_mem _ hb)) hrest (by omega),
        tickTimers_tickTimers m hn (by omega) (by omega), Int32.ofInt_add, Int32.ofInt_toInt]

theorem play_append_timers {m : Machine} (beats : List Beat) {last : List Beat}
    (honly : ∀ b ∈ last, b ≠ .cycle) (hticks : ∀ b ∈ last, 0 ≤ b.ticks)
    (hsum : totalTicks last < 2 ^ 31) :
    m.play (beats ++ last) = (m.play beats).thenTimers (Int32.ofInt (totalTicks last)) := by
  induction beats generalizing m with
  | nil => exact play_timersOnly honly hticks hsum
  | cons b beats ih =>
    cases b with
    | timers n => exact ih
    | cycle =>
      cases hm : m.tick with
      | ok r =>
        rw [List.cons_append, play_cycle_of_ok hm, play_cycle_of_ok hm, ih]
        rfl
      | error fault =>
        rw [List.cons_append, play_cycle_of_error hm, play_cycle_of_error hm]
        rfl

def cyclesOf (beats : List Beat) : List Beat := beats.filter (· = .cycle)

theorem totalTicks_filter_timers (beats : List Beat) :
    totalTicks (beats.filter fun b => !decide (b = .cycle)) = totalTicks beats := by
  induction beats with
  | nil => rfl
  | cons b beats ih =>
    cases b with
    | cycle => simpa [totalTicks] using ih
    | timers n => simpa [totalTicks] using ih

/-- **The instructions and the timers keep their own time.** As long as no timer is read or set, all
interleavings of the same cycles and ticks execute the same instructions with the same statuses, and
end with the same fault or on the same machine: the one that the cycles alone lead to, all ticks
given at its end, at once or one by one. -/
theorem play_interleaved {m : Machine} {beats : List Beat} (hticks : ∀ b ∈ beats, 0 ≤ b.ticks)
    (hsum : totalTicks beats < 2 ^ 31)
    (hquiet : ∀ i ∈ (m.play beats).executed, i.usesTimers = false) :
    (∀ beats', beats.Perm beats' → m.play beats' = m.play beats) ∧
      m.play beats =
        (m.play (cyclesOf beats)).thenTimers (Int32.ofInt (totalTicks beats)) ∧
      ∀ n : Machine, n.tickTimers (Int32.ofInt (totalTicks beats)) =
        (fun k => k.tickTimers 1)^[(totalTicks beats).toNat] n := by
  refine ⟨fun beats' h => play_perm h hticks hsum hquiet, ?_, fun n => ?_⟩
  · have hsort := (List.filter_append_perm (fun b => decide (b = .cycle)) beats).symm
    rw [← play_perm hsort hticks hsum hquiet, ← totalTicks_filter_timers beats]
    refine play_append_timers _ (fun b hb => ?_) (fun b hb => ?_) ?_
    · simpa using (List.mem_filter.1 hb).2
    · exact hticks b (List.mem_filter.1 hb).1
    · rw [totalTicks_filter_timers]
      exact hsum
  · obtain ⟨k, hk⟩ := Int.eq_ofNat_of_zero_le (totalTicks_nonneg hticks)
    rw [hk] at hsum ⊢
    exact (iterate_tickTimers n (by exact_mod_cast hsum)).symm

/-- A program that comes to wait for a key while its timers run out. -/
theorem play_interleaved_waiting :
    let program : Program := [0x61, 0x05, 0x71, 0x01, 0xF0, 0x0A]
    let m := { blank ⟨0, 0⟩ with
      delay := 3, sound := 9, memory := (Cells.zero 4096).overwrite 0 program }
    let beats : List Beat := [.cycle, .timers 2, .cycle, .cycle, .timers 4, .cycle]
    let beats' : List Beat := [.timers 4, .cycle, .cycle, .timers 2, .cycle, .cycle]
    (∀ b ∈ beats, 0 ≤ b.ticks) ∧ totalTicks beats < 2 ^ 31 ∧
      (∀ i ∈ (m.play beats).executed, i.usesTimers = false) ∧ beats.Perm beats' ∧
      (m.play beats).statuses = [.running, .running, .waiting, .waiting] ∧
      m.play beats' = m.play beats ∧
      m.play beats = (m.play (cyclesOf beats)).thenTimers 6 ∧
      m.tickTimers 6 = (fun k => k.tickTimers 1)^[6] m := by
  intro program m beats beats'
  have hticks : ∀ b ∈ beats, 0 ≤ b.ticks := by decide
  have hsum : totalTicks beats < 2 ^ 31 := by decide
  have hquiet : ∀ i ∈ (m.play beats).executed, i.usesTimers = false := by decide +kernel
  have hperm : beats.Perm beats' := by decide
  have hstatuses : (m.play beats).statuses = [.running, .running, .waiting, .waiting] := by
    decide +kernel
  obtain ⟨hall, hlast, hsingle⟩ := play_interleaved hticks hsum hquiet
  exact ⟨hticks, hsum, hquiet, hperm, hstatuses, hall beats' hperm, hlast, hsingle m⟩

end Machine

end Chip8
