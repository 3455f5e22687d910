import Chip8.Proofs.Machine.Counter
import Chip8.Proofs.Session.History

/-!
# The keypad of a session

**One call** (`KeyCall.apply`). A call presses, releases or toggles one key. In the mask it is an
operation with the key's bit, and the word's operation agrees with the one on integers of any size
(`toInt_change`), also where a release complements the bit. A number that is no key's is refused.

**One bit** (`testBit_apply`). A call changes the bit of its own key only, as its action says.

**Many calls** (`testBit_keysAfter`). So the bit of a key is the fold of the actions on this key
(`heldAfter`), and calls on different keys may change places. The bit is the one that the skips of a
program look at.
-/

namespace Chip8

/-! ## Calls -/

/-- What a call does to a key. -/
inductive KeyAction where
  | press
  | release
  | toggle
deriving DecidableEq

/-- A call, with the number of a key. -/
structure KeyCall where
  action : KeyAction
  key : Int
deriving DecidableEq

namespace KeyAction

/-- The key is held after the call. -/
def held : KeyAction → Bool → Bool
  | press, _ => true
  | release, _ => false
  | toggle, b => !b

/-- The mask after the call, given the bit of the key. -/
def change (a : KeyAction) (keys bit : UInt16) : UInt16 :=
  match a with
  | press => keys ||| bit
  | release => keys &&& ~~~bit
  | toggle => keys ^^^ bit

/-- The same in integers, which have no last bit. -/
def changeInteger (a : KeyAction) (keys bit : Int) : Int :=
  match a with
  | press => keys.lor bit
  | release => keys.land bit.lnot
  | toggle => keys.xor bit

end KeyAction

namespace KeyCall

/-- The number is that of a key. -/
def valid (c : KeyCall) : Bool := 0 ≤ c.key && c.key < 16

/-- The call is on this key. -/
def isOn (c : KeyCall) (k : Register) : Bool := c.key = (k.val : Int)

/-- The mask after the call. -/
def apply (c : KeyCall) (keys : UInt16) : UInt16 :=
  if c.valid then c.action.change keys (1 <<< UInt16.ofInt c.key) else keys

/-- The call as an operation of a session. -/
def operation {κ : Type} : KeyCall → Operation κ
  | ⟨.press, key⟩ => .pressKey key
  | ⟨.release, key⟩ => .releaseKey key
  | ⟨.toggle, key⟩ => .toggleKey key

end KeyCall

/-- The mask after some calls. -/
def keysAfter (keys : UInt16) (calls : List KeyCall) : UInt16 :=
  calls.foldl (fun keys c => c.apply keys) keys

/-- A key is held after some calls: those on this key, in order. -/
def heldAfter (k : Register) (held : Bool) (calls : List KeyCall) : Bool :=
  (calls.filter (·.isOn k)).foldl (fun b c => c.action.held b) held

/-! ## One call -/

theorem testBit_not (w : UInt16) {k : Nat} (hk : k < 16) :
    (~~~w).toNat.testBit k = !w.toNat.testBit k := by
  have h : (~~~w.toBitVec).getLsbD k = (decide (k < 16) && !w.toBitVec.getLsbD k) :=
    BitVec.getLsbD_not
  rw [decide_eq_true hk, Bool.true_and] at h
  exact h

theorem toNat_bit {key : Int} (h0 : 0 ≤ key) (h : key < 16) :
    ((1 : UInt16) <<< UInt16.ofInt key).toNat = 2 ^ key.toNat := by
  interval_cases key <;> rfl

theorem testBit_change (a : KeyAction) (keys : UInt16) {bit : UInt16} {j k : Nat}
    (hbit : bit.toNat = 2 ^ j) (hk : k < 16) :
    (a.change keys bit).toNat.testBit k =
      if j = k then a.held (keys.toNat.testBit k) else keys.toNat.testBit k := by
  have hb : bit.toNat.testBit k = decide (j = k) := by rw [hbit, Nat.testBit_two_pow]
  cases a with
  | press =>
    rw [KeyAction.change, UInt16.toNat_or, Nat.testBit_or, hb]
    by_cases h : j = k <;> simp [h, KeyAction.held]
  | release =>
    rw [KeyAction.change, UInt16.toNat_and, Nat.testBit_and, testBit_not bit hk, hb]
    by_cases h : j = k <;> simp [h, KeyAction.held]
  | toggle =>
    rw [KeyAction.change, UInt16.toNat_xor, Nat.testBit_xor, hb]
    by_cases h : j = k <;> simp [h, KeyAction.held]

/-- Words of sixteen bits are equal if their bits are. -/
theorem ext_testBit {v w : UInt16} (h : ∀ k < 16, v.toNat.testBit k = w.toNat.testBit k) :
    v = w := by
  apply UInt16.toNat_inj.1
  refine Nat.eq_of_testBit_eq fun k => ?_
  by_cases hk : k < 16
  · exact h k hk
  · have hlarge (u : UInt16) : u.toNat.testBit k = false :=
      Nat.testBit_lt_two_pow (u.toNat_lt.trans_le (Nat.pow_le_pow_right (by decide) (by omega)))
    rw [hlarge, hlarge]

/-- **The mask is that of the integers, truncated**, although their complement has no end. -/
theorem toInt_change (a : KeyAction) (keys bit : UInt16) :
    ((a.change keys bit).toNat : Int) = a.changeInteger keys.toNat bit.toNat % 65536 := by
  have hlt : ((a.change keys bit).toNat : Int) < 65536 := by exact_mod_cast UInt16.toNat_lt _
  have hexact : a.changeInteger keys.toNat bit.toNat = (a.change keys bit).toNat := by
    cases a with
    | press => rw [KeyAction.change, UInt16.toNat_or]; rfl
    | toggle => rw [KeyAction.change, UInt16.toNat_xor]; rfl
    | release =>
      -- Above sixteen bits the complement is all ones, but the mask has none.
      show ((Nat.ldiff keys.toNat bit.toNat : Nat) : Int) = (keys &&& ~~~bit).toNat
      refine congrArg _ (Nat.eq_of_testBit_eq fun k => ?_)
      rw [Nat.testBit_ldiff, UInt16.toNat_and, Nat.testBit_and]
      by_cases hk : k < 16
      · rw [testBit_not bit hk]
      · have hlarge : keys.toNat.testBit k = false := Nat.testBit_lt_two_pow
          (keys.toNat_lt.trans_le (Nat.pow_le_pow_right (by decide) (by omega)))
        rw [hlarge, Bool.false_and, Bool.false_and]
  rw [hexact, Int.emod_eq_of_lt (Int.natCast_nonneg _) hlt]

/-- **A call changes the bit of its key only.** -/
theorem testBit_apply (c : KeyCall) (keys : UInt16) (k : Register) :
    (c.apply keys).toNat.testBit k =
      if c.isOn k then c.action.held (keys.toNat.testBit k) else keys.toNat.testBit k := by
  have hk := k.isLt
  by_cases hvalid : c.valid = true
  · obtain ⟨h0, h⟩ : 0 ≤ c.key ∧ c.key < 16 := by simpa [KeyCall.valid] using hvalid
    have hkey : c.key.toNat = k.val ↔ c.isOn k = true := by
      rw [KeyCall.isOn, decide_eq_true_eq]
      omega
    rw [KeyCall.apply, if_pos hvalid, testBit_change _ _ (toNat_bit h0 h) hk]
    simp only [hkey]
  · -- A number that is no key's is on no key.
    have hother : ¬ c.isOn k = true := by
      intro hsame
      have hkey : c.key = k.val := of_decide_eq_true hsame
      exact hvalid (by simp [KeyCall.valid, hkey, hk])
    rw [KeyCall.apply, if_neg hvalid, if_neg hother]

/-! ## Many calls -/

/-- **The bit of a key is the fold of the calls on it.** -/
theorem testBit_keysAfter (keys : UInt16) (calls : List KeyCall) (k : Register) :
    (keysAfter keys calls).toNat.testBit k = heldAfter k (keys.toNat.testBit k) calls := by
  induction calls generalizing keys with
  | nil => rfl
  | cons c calls ih =>
    have hrest := ih (c.apply keys)
    rw [testBit_apply] at hrest
    rw [keysAfter, List.foldl_cons, ← keysAfter, hrest, heldAfter, heldAfter, List.filter_cons]
    by_cases hsame : c.isOn k <;> simp [hsame]

/-- Only the order of the calls on each key matters. -/
theorem keysAfter_congr (keys : UInt16) {calls calls' : List KeyCall}
    (h : ∀ k, calls.filter (·.isOn k) = calls'.filter (·.isOn k)) :
    keysAfter keys calls = keysAfter keys calls' := by
  refine ext_testBit fun k hk => ?_
  have hbit (calls : List KeyCall) := testBit_keysAfter keys calls ⟨k, hk⟩
  rw [hbit calls, hbit calls', heldAfter, heldAfter, h]

theorem filter_swap {a b : KeyCall} (h : a.key ≠ b.key) (k : Register) :
    [a, b].filter (·.isOn k) = [b, a].filter (·.isOn k) := by
  by_cases ha : a.key = k.val
  · have hb : b.key ≠ k.val := fun hb => h (ha.trans hb.symm)
    simp [KeyCall.isOn, ha, hb]
  · by_cases hb : b.key = k.val <;> simp [KeyCall.isOn, ha, hb]

namespace Session

variable {κ : Type} [ClockArithmetic κ]

theorem operate_key (s : Session κ) {c : KeyCall} (h : c.valid = true) :
    s.operate c.operation = .done (s.setKeys (c.apply s.machine.keys)) () := by
  obtain ⟨action, key⟩ := c
  have hkey : 0 ≤ key ∧ key < 16 := by simpa [KeyCall.valid] using h
  have hbit : keyBit key = .ok (1 <<< UInt16.ofInt key) := if_pos hkey
  rw [KeyCall.apply, if_pos h]
  cases action with
  | press => simp only [KeyCall.operation, operate, pressKey, hbit]; rfl
  | release => simp only [KeyCall.operation, operate, releaseKey, hbit]; rfl
  | toggle => simp only [KeyCall.operation, operate, toggleKey, hbit]; rfl

theorem operate_noKey (s : Session κ) {c : KeyCall} (h : c.valid = false) :
    s.operate c.operation = ⟨s, .error (.noSuchKey c.key)⟩ := by
  obtain ⟨action, key⟩ := c
  have hkey : ¬ (0 ≤ key ∧ key < 16) := by simpa [KeyCall.valid] using h
  have hbit : keyBit key = .error (.noSuchKey key) := if_neg hkey
  cases action with
  | press => simp only [KeyCall.operation, operate, pressKey, hbit]; rfl
  | release => simp only [KeyCall.operation, operate, releaseKey, hbit]; rfl
  | toggle => simp only [KeyCall.operation, operate, toggleKey, hbit]; rfl

theorem operate_session_key (s : Session κ) (c : KeyCall) :
    (s.operate c.operation).session = s.setKeys (c.apply s.machine.keys) := by
  cases h : c.valid with
  | true => rw [operate_key s h]; rfl
  | false =>
    rw [operate_noKey s h, KeyCall.apply, h]
    rfl

/-- Nothing changes but the mask. -/
theorem after_keys (s : Session κ) (calls : List KeyCall) :
    s.after (calls.map KeyCall.operation) = s.setKeys (keysAfter s.machine.keys calls) := by
  induction calls generalizing s with
  | nil => rfl
  | cons c calls ih =>
    have hrest := ih (s.setKeys (c.apply s.machine.keys))
    rw [List.map_cons, after, List.foldl_cons, operate_session_key]
    exact hrest

/-- What a call does to a session. -/
structure KeyLaw (s : Session κ) (c : KeyCall) : Prop where
  refused_iff : (s.operate c.operation).result = .error (.noSuchKey c.key) ↔
    ¬ (0 ≤ c.key ∧ c.key ≤ 15)
  refused : ¬ (0 ≤ c.key ∧ c.key ≤ 15) → (s.operate c.operation).session = s
  done : 0 ≤ c.key ∧ c.key ≤ 15 → ∃ keys, s.operate c.operation = .done (s.setKeys keys) () ∧
    (keys.toNat : Int) = c.action.changeInteger s.machine.keys.toNat (2 ^ c.key.toNat) % 65536

theorem keyLaw (s : Session κ) (c : KeyCall) : KeyLaw s c := by
  have hvalid : c.valid = true ↔ 0 ≤ c.key ∧ c.key ≤ 15 := by
    rw [KeyCall.valid, Bool.and_eq_true, decide_eq_true_eq, decide_eq_true_eq]
    omega
  cases h : c.valid with
  | true =>
    obtain ⟨h0, h15⟩ := hvalid.1 h
    have hdone := operate_key s h
    refine ⟨?_, fun hnot => absurd ⟨h0, h15⟩ hnot, fun _ => ⟨_, hdone, ?_⟩⟩
    · rw [hdone]
      exact ⟨fun herror => (by cases herror), fun hnot => absurd ⟨h0, h15⟩ hnot⟩
    · have hbit : (((1 : UInt16) <<< UInt16.ofInt c.key).toNat : Int) = 2 ^ c.key.toNat := by
        rw [toNat_bit h0 (by omega)]
        push_cast
        rfl
      rw [KeyCall.apply, if_pos h, toInt_change, hbit]
  | false =>
    have hnot : ¬ (0 ≤ c.key ∧ c.key ≤ 15) := by
      rw [← hvalid, h]
      exact Bool.false_ne_true
    have hrefused := operate_noKey s h
    refine ⟨⟨fun _ => hnot, fun _ => ?_⟩, fun _ => ?_, fun hkey => absurd hkey hnot⟩
    · rw [hrefused]
    · rw [hrefused]

/-! ## What a program sees -/

/-- The word that skips the next one if the key in a register is held. -/
def skipWord (x : Register) : UInt16 := UInt16.ofNat (0xE09E + 256 * x.val)

theorem decodeWord_skipWord (x : Register) :
    Instruction.decodeWord (skipWord x) = .skipKeyPressed x := by
  revert x
  decide

/-- The skip looks at the bit of the key in the register. -/
theorem execute_skipWord (m : Machine) {x k : Register} (hk : (m.register x).toNat = k) :
    ∃ n, m.execute (Instruction.decodeWord (skipWord x)) = .ok (n, .running) ∧
      n.pc.toNat = (m.pc.toNat + if m.keys.toNat.testBit k then 4 else 2) % 4096 := by
  have hskips : m.skips (.skipKeyPressed x) = m.keys.toNat.testBit k := by
    rw [Machine.skips, Machine.holds, hk, decide_eq_true (by omega), Bool.true_and]
  refine ⟨m.complete (.skipKeyPressed x), ?_, ?_⟩
  · rw [decodeWord_skipWord]
    rfl
  · rw [Machine.toNat_complete_pc m rfl, hskips]

/-- **The keypad.** A call is refused exactly if its number is no key's, and then changes nothing.
After any calls, the session is as before but for the mask, and the bit of each key is the fold of
the valid calls on this key. So calls on different keys may change places, be they two or many. And
a program that skips by a key sees what the fold says. -/
theorem calls_fold (s : Session κ) (calls : List KeyCall) :
    let t := s.after (calls.map KeyCall.operation)
    (∀ (u : Session κ) (c : KeyCall), KeyLaw u c) ∧
      (t = s.setKeys t.machine.keys ∧ t.machine.keys.toNat < 65536) ∧
      (∀ k : Register, t.machine.keys.toNat.testBit k =
        heldAfter k (s.machine.keys.toNat.testBit k) calls) ∧
      (∀ a b : KeyCall, a.key ≠ b.key →
        s.after [a.operation, b.operation] = s.after [b.operation, a.operation]) ∧
      (∀ calls' : List KeyCall, (∀ k, calls.filter (·.isOn k) = calls'.filter (·.isOn k)) →
        s.after (calls'.map KeyCall.operation) = t) ∧
      ∀ x k : Register, (t.machine.register x).toNat = k →
        ∃ n, t.machine.execute (Instruction.decodeWord (skipWord x)) = .ok (n, .running) ∧
          n.pc.toNat = (t.machine.pc.toNat +
            if heldAfter k (s.machine.keys.toNat.testBit k) calls then 4 else 2) % 4096 := by
  intro t
  have hafter : t = s.setKeys (keysAfter s.machine.keys calls) := after_keys s calls
  have hkeys : t.machine.keys = keysAfter s.machine.keys calls := by rw [hafter]; rfl
  have hbits (k : Register) : t.machine.keys.toNat.testBit k =
      heldAfter k (s.machine.keys.toNat.testBit k) calls := by
    rw [hkeys]
    exact testBit_keysAfter _ calls k
  have horder {cs cs' : List KeyCall}
      (h : ∀ k, cs.filter (·.isOn k) = cs'.filter (·.isOn k)) :
      s.after (cs.map KeyCall.operation) = s.after (cs'.map KeyCall.operation) := by
    rw [after_keys, after_keys, keysAfter_congr _ h]
  refine ⟨keyLaw, ⟨?_, UInt16.toNat_lt _⟩, hbits, fun a b h => horder (filter_swap h),
    fun calls' h => (horder h).symm, fun x k hk => ?_⟩
  · rw [hkeys]
    exact hafter
  · rw [← hbits k]
    exact execute_skipWord t.machine hk

/-- Keys pressed, toggled twice and released in turn, one of them out of range. -/
theorem calls_fold_mixed :
    let s : Session Number := fresh ⟨none, .integer 700, .integer 60, 5⟩
    let calls : List KeyCall := [⟨.press, 15⟩, ⟨.toggle, 3⟩, ⟨.release, 16⟩, ⟨.toggle, 15⟩,
      ⟨.press, -1⟩, ⟨.release, 0⟩, ⟨.toggle, 15⟩]
    let t := s.after (calls.map KeyCall.operation)
    t.machine.keys.toNat.testBit 15 = true ∧ t.machine.keys.toNat.testBit 3 = true ∧
      s.after [.toggleKey 3, .pressKey 15] = s.after [.pressKey 15, .toggleKey 3] ∧
      (t.machine.register 0).toNat = 0 ∧
      ∃ n, t.machine.execute (Instruction.decodeWord 0xE09E) = .ok (n, .running) ∧
        n.pc.toNat = 0x202 := by
  intro s calls t
  obtain ⟨-, -, hbits, hswap, -, hskip⟩ := calls_fold s calls
  have hzero : (t.machine.register 0).toNat = 0 := by decide +kernel
  obtain ⟨n, hn, hpc⟩ := hskip 0 0 hzero
  refine ⟨(hbits 15).trans (by decide +kernel), (hbits 3).trans (by decide +kernel),
    hswap ⟨.toggle, 3⟩ ⟨.press, 15⟩ (by decide), hzero, n, hn, ?_⟩
  rw [hpc]
  decide +kernel

end Session

end Chip8
