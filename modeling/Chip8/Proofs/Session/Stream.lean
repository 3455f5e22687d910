import Chip8.Proofs.Machine.Footprint
import Chip8.Proofs.Session.History

/-!
# The random stream of a session

**Draws** (`Draw`). A cycle that completes the random instruction draws one byte, masks it, and puts
it into a register. The draws of a history are read off its trace (`draws`).

**The key** (`drawn_tick`). The random instruction takes the key of the stream to the next one, and no
other instruction writes it. A crash and a reset build the machine anew, but from the key of the old
one. So the key moves on with each draw, and with nothing else (`drawn_trace`).

**The stream** (`draws_of_seed`). The byte of the `i`-th draw is the `i`-th byte of the stream of the
seed, whatever happened before it.
-/

namespace Chip8

/-- A draw: the register, the mask, and the byte that went into the register. -/
structure Draw where
  target : Register
  mask : Int
  value : UInt8

/-- The draw that the next cycle completes, if it completes one. -/
def Machine.draw? (m : Machine) : Option Draw :=
  match m.fetch, m.tick with
  | .random x k, .ok (n, .running) => some ⟨x, k, n.register x⟩
  | _, _ => none

variable {κ : Type}

/-- The draw of an event, if it is one. -/
def Event.draw? : Event κ → Option Draw
  | .cycle s => s.machine.draw?
  | .timers _ => none

/-- The draws of a trace, in order. -/
def draws (events : List (Event κ)) : List Draw := events.filterMap Event.draw?

/-- The byte of the stream of a seed at a position. -/
def RandomKey.stream (seed : Int) (i : Nat) : UInt8 := (next^[i] (ofSeed seed)).byte

/-! ## Draws and keys -/

/-- The draws take their bytes from a key on and leave another one. -/
structure DrawnFrom (k : RandomKey) (ds : List Draw) (k' : RandomKey) : Prop where
  key : k' = RandomKey.next^[ds.length] k
  value (i : Nat) (h : i < ds.length) :
    ds[i].value = (RandomKey.next^[i] k).byte &&& UInt8.ofInt ds[i].mask

namespace DrawnFrom

theorem nil (k : RandomKey) : DrawnFrom k [] k := ⟨rfl, fun _ h => absurd h (Nat.not_lt_zero _)⟩

theorem append {k₁ k₂ k₃ : RandomKey} {ds es : List Draw} (hd : DrawnFrom k₁ ds k₂)
    (he : DrawnFrom k₂ es k₃) : DrawnFrom k₁ (ds ++ es) k₃ := by
  refine ⟨?_, fun i h => ?_⟩
  · rw [he.key, hd.key, List.length_append, Nat.add_comm, Function.iterate_add_apply]
  · by_cases hi : i < ds.length
    · rw [List.getElem_append_left hi]
      exact hd.value i hi
    · rw [List.getElem_append_right (Nat.not_lt.1 hi)]
      -- The later draws go on from the key that the earlier ones have left.
      have hvalue := he.value (i - ds.length) (by rw [List.length_append] at h; omega)
      rw [hd.key, ← Function.iterate_add_apply, Nat.sub_add_cancel (Nat.not_lt.1 hi)] at hvalue
      exact hvalue

end DrawnFrom

namespace Machine

theorem draw?_of_error {m : Machine} {fault : StackFault} (h : m.tick = .error fault) :
    m.draw? = none := by
  rw [draw?, h]
  cases m.fetch <;> rfl

/-- **A cycle moves the key on if it draws, and only then.** -/
theorem drawn_tick {m n : Machine} {s : Status} (h : m.tick = .ok (n, s)) :
    DrawnFrom m.random m.draw?.toList n.random := by
  cases hi : m.fetch with
  | random x k =>
    have htick : m.tick = .ok (m.complete (.random x k), .running) := by
      rw [tick, hi]
      rfl
    rw [htick] at h
    cases h
    have hvalue : (m.complete (.random x k)).register x = m.random.byte &&& UInt8.ofInt k := by
      show (m.setRegister x _).register x = _
      rw [register_setRegister, if_pos rfl]
    have hdraw : m.draw? = some ⟨x, k, m.random.byte &&& UInt8.ofInt k⟩ := by
      rw [draw?, hi, htick, ← hvalue]
    rw [hdraw]
    refine ⟨rfl, fun i h => ?_⟩
    obtain rfl : i = 0 := Nat.lt_one_iff.1 h
    rfl
  | _ =>
    -- No other instruction writes the key.
    have hnone : m.draw? = none := by rw [draw?, hi]
    have hrandom : n.random = m.random := by
      rw [tick, hi] at h
      rcases execute_cases h with ⟨-, rfl⟩ | ⟨-, rfl, -⟩
      · rfl
      · exact (complete_kept m _).fields .random rfl
    rw [hnone, hrandom]
    exact .nil _

end Machine

/-! ## Draws along a trace -/

theorem draws_append (a b : List (Event κ)) : draws (a ++ b) = draws a ++ draws b :=
  List.filterMap_append

theorem draws_cycle (s : Session κ) : draws [.cycle s] = s.machine.draw?.toList := by
  rw [draws, List.filterMap_cons, List.filterMap_nil, Event.draw?]
  cases s.machine.draw? <;> rfl

theorem Machine.random_of_loadProgram {m n : Machine} {program : Program}
    (h : m.loadProgram program = .ok n) : n.random = m.random := by
  rw [loadProgram_eq_ok (length_le_of_loadProgram h)] at h
  cases h
  rfl

namespace Session

theorem Loaded.random {s t : Session κ} (h : Loaded s t) :
    t.machine.random = s.machine.random := by
  obtain ⟨_, _, _, _, rfl⟩ := h
  rfl

variable [ClockArithmetic κ]

/-- Running moves the key on with each draw, also where it crashes. -/
theorem traced_draws : Traced (κ := κ) fun s events t =>
    DrawnFrom s.machine.random (draws events) t.machine.random where
  trans {s t u a b} hab hbc := draws_append a b ▸ hab.append hbc
  step s := by
    have h := stepped s
    rw [draws_cycle]
    generalize s.step.session = t at h ⊢
    cases h with
    | ticked h => exact Machine.drawn_tick h
    | stuck h log =>
      rw [Machine.draw?_of_error h]
      exact .nil _
    | restarted h hload =>
      rw [Machine.draw?_of_error h, restarted, Machine.random_of_loadProgram hload]
      exact .nil _
  timers h := by
    rw [tickTimers_eq_ok h]
    exact .nil _
  debt _ _ := .nil _
  clock _ _ := .nil _
  lastSync _ _ := .nil _

/-- An operation that does not run the machine leaves the key alone, a reset included. -/
theorem operate_random (s : Session κ) {op : Operation κ} (h : op.runs = false) :
    (s.operate op).session.machine.random = s.machine.random := by
  have hhandled := handled s h
  generalize (s.operate op).session = t at hhandled ⊢
  cases hhandled with
  | still => rfl
  | loaded _ hloaded => exact hloaded.random
  | adjusted _ hadjusted =>
    obtain ⟨_, _, _, _, rfl⟩ := hadjusted
    rfl
  | reset hreset =>
    obtain ⟨machine, hload, rfl⟩ := exists_of_map_eq_ok hreset
    have hrandom := Machine.random_of_loadProgram hload
    exact hrandom

theorem drawn_trace (s : Session κ) (ops : List (Operation κ)) :
    DrawnFrom s.machine.random (draws (s.trace ops)) (s.after ops).machine.random := by
  refine traced_draws.after (fun t op _ hop => ?_) s
  rw [operate_random t hop]
  exact .nil _

theorem create_random {read : FileReader} {settings : SessionSettings κ} {s : Session κ}
    (h : create read settings = .ok s) : s.machine.random = RandomKey.ofSeed settings.seed :=
  (loaded_of_create h).random

/-- **One random stream for a seed.** After any history of a session, with its loads, resets and
crashes, the key has moved on by one for each draw that was completed, and the `i`-th of them put the
`i`-th byte of the stream of the seed into its register, masked. So two sessions with the same seed
draw the same bytes, whatever else they execute. -/
theorem draws_of_seed {read : FileReader} {settings : SessionSettings κ} {s : Session κ}
    (hcreate : create read settings = .ok s) (ops : List (Operation κ)) :
    let ds := draws (s.trace ops)
    (s.after ops).machine.random =
        RandomKey.next^[ds.length] (RandomKey.ofSeed settings.seed) ∧
      (∀ i (h : i < ds.length),
        ds[i].value = RandomKey.stream settings.seed i &&& UInt8.ofInt ds[i].mask) ∧
      ∀ (read' : FileReader) (settings' : SessionSettings κ) (s' : Session κ),
        create read' settings' = .ok s' → settings'.seed = settings.seed →
        ∀ (ops' : List (Operation κ)) (i : Nat) (h : i < ds.length)
          (h' : i < (draws (s'.trace ops')).length),
          (draws (s'.trace ops'))[i].mask = ds[i].mask →
          (draws (s'.trace ops'))[i].value = ds[i].value := by
  intro ds
  have hdrawn := drawn_trace s ops
  rw [create_random hcreate] at hdrawn
  refine ⟨hdrawn.key, hdrawn.value, fun read' settings' s' hcreate' hseed ops' i h h' hmask => ?_⟩
  have hdrawn' := drawn_trace s' ops'
  rw [create_random hcreate', hseed] at hdrawn'
  rw [hdrawn'.value i h', hmask, hdrawn.value i h]

/-- A program that draws a byte and crashes: two runs of it, a reset in between. -/
theorem draws_of_seed_crashing :
    let settings : SessionSettings Rat := ⟨none, 700, 60, 5⟩
    let ops : List (Operation Rat) :=
      [.loadProgram [0xC3, 0x0F, 0x00, 0xEE], .run 4, .reset, .tickTimers 9, .step]
    let ds := draws ((fresh settings).trace ops)
    create (fun _ => .error .zeroInPath) settings = .ok (fresh settings) ∧ ds.length = 3 ∧
      ((fresh settings).after ops).machine.random = RandomKey.next^[3] (RandomKey.ofSeed 5) ∧
      ∀ i (h : i < ds.length), ds[i].value = RandomKey.stream 5 i &&& UInt8.ofInt ds[i].mask := by
  intro settings ops ds
  have hcreate : create (fun _ => .error .zeroInPath) settings = .ok (fresh settings) :=
    create_fresh rfl (by decide +kernel) (by decide +kernel) (by decide) _
  have hlength : ds.length = 3 := by decide +kernel
  obtain ⟨hkey, hvalue, -⟩ := draws_of_seed hcreate ops
  exact ⟨hcreate, hlength, hlength ▸ hkey, hvalue⟩

end Session

end Chip8
