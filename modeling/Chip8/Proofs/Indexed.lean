import Chip8.Proofs.Cells

/-!
# Computations over rows of cells

A computation that reads and writes cells by integer indices, with what an index outside the row
does left open (`Indexed`).

**Two readings.** Under the index rule of byte cells every access succeeds: a read takes the
nearest cell, a write may be dropped (`clamped`). A strict interpreter stops at the first index
that is not of a cell (`strict`).

**Accesses** (`accesses`). The indices of a clamped run, with the lengths of their rows. If all are
in range, the two readings agree (`strict_eq_ok`).

**Composing** (`Gives`). That a computation stays in range and results in a value is shown piece by
piece, along the computation.
-/

namespace Chip8

/-- An access to a row of cells: the length of the row, and the index. -/
structure Access where
  length : Nat
  index : Int

/-- The index is that of a cell, counted from the start of the row. -/
def Access.InRange (a : Access) : Prop := 0 ≤ a.index ∧ a.index < a.length

theorem Access.inRange_natCast {k n : Nat} (h : k < n) : InRange ⟨n, k⟩ :=
  ⟨Int.natCast_nonneg k, Int.ofNat_lt.2 h⟩

/-- A computation that reads and writes rows of cells by integer indices. -/
inductive Indexed (α : Type) where
  | done (a : α)
  | read {n : Nat} (cells : Cells n) (i : Int) (next : UInt8 → Indexed α)
  | write {n : Nat} (cells : Cells n) (i : Int) (b : UInt8) (next : Cells n → Indexed α)

namespace Indexed

variable {α β : Type} {n : Nat}

/-! ## Computations -/

def bind : Indexed α → (α → Indexed β) → Indexed β
  | done a, f => f a
  | read cells i next, f => read cells i fun b => (next b).bind f
  | write cells i b next, f => write cells i b fun c => (next c).bind f

instance : Monad Indexed where
  pure := done
  bind := bind

def get (cells : Cells n) (i : Int) : Indexed UInt8 := read cells i done

def set (cells : Cells n) (i : Int) (b : UInt8) : Indexed (Cells n) := write cells i b done

/-- Replaces the cells from `start` on by a list of bytes. -/
def overwrite (cells : Cells n) (start : Nat) : List UInt8 → Indexed (Cells n)
  | [] => pure cells
  | b :: bytes => do overwrite (← set cells start b) (start + 1) bytes

/-! ## Readings -/

/-- The result under the index rule of byte cells. -/
def clamped : Indexed α → α
  | done a => a
  | read cells i next => (next (cells.read i)).clamped
  | write cells i b next => (next (cells.write i b)).clamped

/-- The accesses in their order. -/
def accesses : Indexed α → List Access
  | done _ => []
  | @read _ n cells i next => ⟨n, i⟩ :: (next (cells.read i)).accesses
  | @write _ n cells i b next => ⟨n, i⟩ :: (next (cells.write i b)).accesses

/-- The result if every index is that of a cell, else the first access that is out of range. -/
def strict : Indexed α → Except Access α
  | done a => .ok a
  | @read _ n cells i next =>
    if h : 0 ≤ i ∧ i < n then (next (cells.get ⟨i.toNat, by omega⟩)).strict else .error ⟨n, i⟩
  | @write _ n cells i b next =>
    if h : 0 ≤ i ∧ i < n then (next (Vector.set cells i.toNat b (by omega))).strict
    else .error ⟨n, i⟩

theorem read_of_inRange (cells : Cells n) {i : Int} (h : 0 ≤ i ∧ i < n) :
    cells.read i = cells.get ⟨i.toNat, by omega⟩ := by
  obtain ⟨k, rfl⟩ := Int.eq_ofNat_of_zero_le h.1
  exact Cells.read_natCast cells (Int.ofNat_lt.1 h.2)

theorem write_of_inRange (cells : Cells n) {i : Int} (h : 0 ≤ i ∧ i < n) (b : UInt8) :
    cells.write i b = Vector.set cells i.toNat b (by omega) := by
  obtain ⟨k, rfl⟩ := Int.eq_ofNat_of_zero_le h.1
  rw [Cells.write_natCast]
  ext j hj
  rw [Vector.getElem_setIfInBounds hj, Vector.getElem_set]
  rfl

/-- **In range, the index rule never shows.** -/
theorem strict_eq_ok {p : Indexed α} (h : ∀ a ∈ p.accesses, a.InRange) :
    p.strict = .ok p.clamped := by
  -- What follows an access depends on the byte it gives, which is the same in both readings.
  induction p with
  | done a => rfl
  | read cells i next ih =>
    simp only [accesses, List.forall_mem_cons] at h
    have hi : 0 ≤ i ∧ i < _ := h.1
    rw [strict, dif_pos hi, ← read_of_inRange cells hi]
    exact ih _ h.2
  | write cells i b next ih =>
    simp only [accesses, List.forall_mem_cons] at h
    have hi : 0 ≤ i ∧ i < _ := h.1
    rw [strict, dif_pos hi, ← write_of_inRange cells hi]
    exact ih _ h.2

theorem clamped_bind (p : Indexed α) (f : α → Indexed β) :
    (p >>= f).clamped = (f p.clamped).clamped := by
  induction p with
  | done a => rfl
  | read cells i next ih => exact ih _
  | write cells i b next ih => exact ih _

theorem accesses_bind (p : Indexed α) (f : α → Indexed β) :
    (p >>= f).accesses = p.accesses ++ (f p.clamped).accesses := by
  induction p with
  | done a => rfl
  | read cells i next ih => exact congrArg _ (ih _)
  | write cells i b next ih => exact congrArg _ (ih _)

/-! ## Composing -/

/-- The computation stays in range, and its result is `a`. -/
structure Gives (p : Indexed α) (a : α) : Prop where
  inRange : ∀ x ∈ p.accesses, x.InRange
  clamped_eq : p.clamped = a

namespace Gives

theorem strict_eq {p : Indexed α} {a : α} (h : p.Gives a) : p.strict = .ok a := by
  rw [strict_eq_ok h.inRange, h.clamped_eq]

theorem pure (a : α) : Gives (Pure.pure a : Indexed α) a :=
  ⟨fun _ h => absurd h List.not_mem_nil, rfl⟩

theorem bind {p : Indexed α} {a : α} {f : α → Indexed β} {b : β} (hp : p.Gives a)
    (hf : (f a).Gives b) : (p >>= f).Gives b := by
  obtain ⟨hrange, rfl⟩ := hp
  refine ⟨?_, (clamped_bind p f).trans hf.clamped_eq⟩
  rw [accesses_bind]
  exact List.forall_mem_append.2 ⟨hrange, hf.inRange⟩

theorem read (cells : Cells n) {i : Int} (h : Access.InRange ⟨n, i⟩) :
    (get cells i).Gives (cells.read i) :=
  ⟨fun _ hx => List.mem_singleton.1 hx ▸ h, rfl⟩

theorem write (cells : Cells n) {i : Int} (h : Access.InRange ⟨n, i⟩) (b : UInt8) :
    (set cells i b).Gives (cells.write i b) :=
  ⟨fun _ hx => List.mem_singleton.1 hx ▸ h, rfl⟩

theorem get (cells : Cells n) {i : Int} {k : Nat} (hi : i = k) (hk : k < n) :
    (get cells i).Gives cells[k] := by
  subst hi
  rw [← Cells.read_natCast cells hk]
  exact .read cells (Access.inRange_natCast hk)

theorem set (cells : Cells n) {i : Int} {k : Nat} (hi : i = k) (hk : k < n) (b : UInt8) :
    (set cells i b).Gives (Vector.set cells k b hk) := by
  subst hi
  have hwrite : cells.write k b = Vector.set cells k b hk :=
    write_of_inRange cells (Access.inRange_natCast hk) b
  rw [← hwrite]
  exact .write cells (Access.inRange_natCast hk) b

theorem overwrite (cells : Cells n) (start : Nat) (bytes : List UInt8)
    (h : start + bytes.length ≤ n) :
    (overwrite cells start bytes).Gives (cells.overwrite start bytes) := by
  induction bytes generalizing cells start with
  | nil => exact .pure cells
  | cons b bytes ih =>
    rw [List.length_cons] at h
    rw [Cells.overwrite, ← Cells.write_natCast]
    exact (write cells (Access.inRange_natCast (by omega)) b).bind (ih _ _ (by omega))

theorem foldlM {l : List α} {f : β → α → Indexed β} {g : β → α → β}
    (h : ∀ b a, (f b a).Gives (g b a)) (b : β) : (l.foldlM f b).Gives (l.foldl g b) := by
  induction l generalizing b with
  | nil => exact .pure b
  | cons a l ih => exact (h b a).bind (ih (g b a))

end Gives

end Indexed

end Chip8
