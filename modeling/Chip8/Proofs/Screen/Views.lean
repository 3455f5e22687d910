import Chip8.Proofs.Screen.Pixel
import Chip8.Screen.Image
import Chip8.Screen.Text

/-!
# The views of a screen

A screen can be read as columns, as lines of text, and as a scaled image. Each of these says of
every pixel what `pixel` says of it (`views_agree`).

**Lines** (`rows_eq`). Every view is made from the lines of pixels, so it is enough to know these: a
line is eight bytes, and a byte has its leftmost pixel in its highest bit (`byteBits_eq`).

**Scaling** (`repeatEach_ofFn`). In a line with every pixel repeated, a position is that of its
quotient by the number of repetitions in the line before.

**Reading a text back** (`textLines_inj`). If the texts of a lit and a dark pixel differ and are
equally long, a line of text can be cut into them, so screens with the same text are equal.
-/

namespace Chip8

/-! ## Blocks -/

/-- Blocks of one length that tell their origins apart can be read back. -/
theorem flatMap_inj {α β : Type} {f : α → List β} {n : Nat} (hf : ∀ a, (f a).length = n)
    (hinj : Function.Injective f) {xs ys : List α} (hlength : xs.length = ys.length)
    (h : xs.flatMap f = ys.flatMap f) : xs = ys := by
  induction xs generalizing ys with
  | nil => exact (List.eq_nil_of_length_eq_zero hlength.symm).symm
  | cons a xs ih =>
    cases ys with
    | nil => cases hlength
    | cons b ys =>
      rw [List.flatMap_cons, List.flatMap_cons] at h
      obtain ⟨hab, hrest⟩ := List.append_inj h ((hf a).trans (hf b).symm)
      rw [hinj hab, ih (Nat.succ_inj.1 hlength) hrest]

theorem repeatEach_ofFn {α : Type} (times n : Nat) (f : Nat → α) :
    repeatEach times (List.ofFn fun i : Fin n => f i) =
      List.ofFn fun i : Fin (n * times) => f (i / times) := by
  rw [List.ofFn_mul, repeatEach, List.flatMap_def, List.map_ofFn]
  refine congrArg List.flatten (congrArg List.ofFn (funext fun i => ?_))
  rw [Function.comp, ← List.ofFn_const]
  refine congrArg List.ofFn (funext fun j => ?_)
  have hquotient : (i * times + j) / times = i.val := by
    rw [Nat.add_comm, Nat.add_mul_div_right _ _ (Nat.zero_lt_of_lt j.isLt),
      Nat.div_eq_of_lt j.isLt, Nat.zero_add]
  exact congrArg f hquotient.symm

namespace Screen

/-! ## Lines -/

theorem byteBits_eq (b : UInt8) :
    byteBits b = List.ofFn fun j : Fin 8 => b.toNat.testBit (7 - j) := by
  have hmasks : ([0x80, 0x40, 0x20, 0x10, 0x08, 0x04, 0x02, 0x01] : List UInt8) =
      List.ofFn fun j : Fin 8 => 0x80 >>> UInt8.ofNat j := by decide
  rw [byteBits, hmasks, List.map_ofFn]
  exact congrArg List.ofFn (funext fun j => and_mask_ne_zero b j.isLt)

/-- The pixels of a byte-column in a line. -/
theorem pixel_columnOf (s : Screen) (py : Fin 32) (column j : Fin 8) :
    s.pixel (column * 8 + j : Nat) py = (Vector.get s (place py column)).toNat.testBit (7 - j) := by
  have hcolumn : columnOf ⟨column * 8 + j, by omega⟩ = column := by
    apply Fin.ext
    simp only [columnOf]
    omega
  have hbit : (column.val * 8 + j) % 8 = j := by omega
  have h := pixel_eq_testBit s ⟨column * 8 + j, by omega⟩ py
  simp only [hbit] at h
  exact h.trans (congrArg (fun c => (Vector.get s (place py c)).toNat.testBit (7 - j)) hcolumn)

/-- **A line of pixels.** -/
theorem row_eq (s : Screen) (py : Fin 32) :
    s.row py = List.ofFn fun px : Fin 64 => s.pixel px py := by
  show _ = List.ofFn fun px : Fin (8 * 8) => s.pixel px py
  rw [List.ofFn_mul, row, List.flatMap_def, ← List.ofFn_eq_map]
  refine congrArg List.flatten (congrArg List.ofFn (funext fun column => ?_))
  rw [byteBits_eq]
  refine congrArg List.ofFn (funext fun j => ?_)
  exact (pixel_columnOf s py column j).symm

theorem rows_eq (s : Screen) :
    s.rows = List.ofFn fun py : Fin 32 => List.ofFn fun px : Fin 64 => s.pixel px py := by
  rw [rows, ← List.ofFn_eq_map]
  exact congrArg List.ofFn (funext s.row_eq)

/-! ## Views -/

theorem columns_eq (s : Screen) :
    s.columns = List.ofFn fun px : Fin 64 => List.ofFn fun py : Fin 32 => s.pixel px py := by
  rw [columns, ← List.ofFn_eq_map, rows_eq]
  refine congrArg List.ofFn (funext fun px => ?_)
  rw [List.map_ofFn]
  refine congrArg List.ofFn (funext fun py => ?_)
  rw [Function.comp, List.getD_eq_getElem _ _ (by simp), List.getElem_ofFn]

theorem textLines_eq (s : Screen) (g : Glyphs) :
    s.textLines g = List.ofFn fun py : Fin 32 =>
      String.join (List.ofFn fun px : Fin 64 => if s.pixel px py then g.lit else g.dark) := by
  rw [textLines, rows_eq, List.map_ofFn]
  refine congrArg List.ofFn (funext fun py => ?_)
  rw [Function.comp, Glyphs.line, List.map_ofFn]
  rfl

theorem image_eq (s : Screen) (scale : Int) (scheme : Scheme) :
    s.image scale scheme = List.ofFn fun r : Fin (32 * blockSide scale) =>
      List.ofFn fun c : Fin (64 * blockSide scale) =>
        scheme.paint (s.pixel (c / blockSide scale : Nat) (r / blockSide scale : Nat)) := by
  have hrow (py : Nat) : repeatEach (blockSide scale)
      ((List.ofFn fun px : Fin 64 => s.pixel px py).map scheme.paint) =
        List.ofFn fun c : Fin (64 * blockSide scale) =>
          scheme.paint (s.pixel (c / blockSide scale : Nat) py) := by
    rw [List.map_ofFn]
    exact repeatEach_ofFn _ 64 fun px => scheme.paint (s.pixel px py)
  rw [image, rows_eq, List.map_ofFn]
  simp only [Function.comp_def, hrow]
  exact repeatEach_ofFn _ 32 fun py => List.ofFn fun c : Fin (64 * blockSide scale) =>
    scheme.paint (s.pixel (c / blockSide scale : Nat) py)

/-! ## Reading a text back -/

theorem Glyphs.line_inj {g : Glyphs} (hne : g.lit ≠ g.dark)
    (hlength : g.lit.length = g.dark.length) {xs ys : List Bool} (hxs : xs.length = ys.length)
    (h : g.line xs = g.line ys) : xs = ys := by
  have hchars : ∀ lit : Bool, (if lit then g.lit else g.dark).toList.length = g.dark.length := by
    intro lit
    rw [String.length_toList]
    cases lit
    · rfl
    · exact hlength
  have hinj : Function.Injective fun lit : Bool => (if lit then g.lit else g.dark).toList := by
    intro a b hab
    have hglyph := String.toList_inj.1 hab
    cases a <;> cases b
    · rfl
    · exact absurd hglyph.symm hne
    · exact absurd hglyph hne
    · rfl
  have htext := congrArg String.toList h
  rw [line, line, String.toList_join, String.toList_join, List.flatMap_map, List.flatMap_map]
    at htext
  exact flatMap_inj hchars hinj hxs htext

theorem textLines_inj {s t : Screen} {g : Glyphs} (hne : g.lit ≠ g.dark)
    (hlength : g.lit.length = g.dark.length) (h : s.textLines g = t.textLines g) : s = t := by
  refine ext_pixel fun px py => ?_
  rw [textLines, textLines, rows_eq, rows_eq, List.map_ofFn, List.map_ofFn] at h
  have hline := congrFun (List.ofFn_injective h) py
  simp only [Function.comp_apply] at hline
  have hrow := Glyphs.line_inj hne hlength (by rw [List.length_ofFn, List.length_ofFn]) hline
  exact congrFun (List.ofFn_injective hrow) px

/-- **All views of a screen agree.** Column `x` and line `y` of the columns, of the text and of the
image, every pixel of which is a block, show the pixel at `x` and `y`. From a text with two
different glyphs of one length the screen can be read back. -/
theorem views_agree (s : Screen) :
    (s.columns = List.ofFn fun x : Fin 64 => List.ofFn fun y : Fin 32 => s.pixel x y) ∧
    (∀ g : Glyphs, s.textLines g = List.ofFn fun y : Fin 32 =>
      String.join (List.ofFn fun x : Fin 64 => if s.pixel x y then g.lit else g.dark)) ∧
    (∀ (scale : Int) (scheme : Scheme),
      let side := (max scale 1).toNat
      s.image scale scheme = List.ofFn fun r : Fin (32 * side) =>
        List.ofFn fun c : Fin (64 * side) =>
          if s.pixel (c / side : Nat) (r / side : Nat) then scheme.lit else scheme.dark) ∧
    ∀ (g : Glyphs) (t : Screen), g.lit ≠ g.dark → g.lit.length = g.dark.length →
      s.textLines g = t.textLines g → s = t :=
  ⟨s.columns_eq, s.textLines_eq, s.image_eq, fun _ _ hne hlength => textLines_inj hne hlength⟩

/-- A row drawn twice over the right edge leaves the text of the dark screen. -/
theorem views_agree_dark :
    let s := ((dark.drawRow 0xB7 61 (-1)).1.drawRow 0xB7 61 (-1)).1
    let g : Glyphs := ⟨"[]", ". "⟩
    g.lit ≠ g.dark ∧ g.lit.length = g.dark.length ∧ s.textLines g = dark.textLines g ∧
      s = dark := by
  intro s g
  have hne : g.lit ≠ g.dark := by decide
  have hlength : g.lit.length = g.dark.length := by decide
  have hrows : s.rows = dark.rows := by
    simp only [s, rows_eq, pixel_drawRow, Bool.xor_assoc, Bool.xor_self, Bool.xor_false]
  have htext : s.textLines g = dark.textLines g := congrArg (List.map g.line) hrows
  exact ⟨hne, hlength, htext, (views_agree s).2.2.2 g dark hne hlength htext⟩

end Screen

end Chip8
