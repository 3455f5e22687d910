import Chip8.Proofs.Machine.Effect
import Chip8.Proofs.Screen.Pixel

/-!
# Sprites pixel by pixel

**Strokes** (`drawStrokes`). A list of rows is drawn one after another, and a collision of any row
is kept. A pixel ends up flipped if an odd number of the rows cover it (`pixel_drawStrokes`). A
row meets a lit pixel exactly if some pixel is covered at least once and, counting its first
state as one if lit, gets to two (`drawStrokes_hit_iff`). Neither depends on the order.

**Sprites** (`execute_draw`). A sprite is the rows that memory holds from the index on, each a line
further down; addresses and coordinates wrap. Its coordinates are read before the flag is
written, so they may be in the flag register.
-/

namespace Chip8

/-- An eight-pixel row and the place of its left end. -/
structure Stroke where
  pixels : Int32
  x : Int32
  y : Int32

def Stroke.covers (t : Stroke) (px : Fin 64) (py : Fin 32) : Bool :=
  Screen.covers (lowByte t.pixels) t.x.toInt t.y.toInt px py

namespace Screen

/-! ## Strokes -/

/-- Draws rows one after another, and keeps whether a lit pixel went out. -/
def drawStrokes (start : Screen × Bool) (strokes : List Stroke) : Screen × Bool :=
  strokes.foldl
    (fun (screen, hit) t =>
      let (screen, strokeHit) := screen.drawRow t.pixels t.x t.y
      (screen, hit || strokeHit))
    start

/-- How many of the rows cover a pixel. -/
def coverage (strokes : List Stroke) (px : Fin 64) (py : Fin 32) : Nat :=
  strokes.countP fun t => t.covers px py

theorem drawStrokes_cons (s : Screen) (hit : Bool) (t : Stroke) (strokes : List Stroke) :
    drawStrokes (s, hit) (t :: strokes) =
      drawStrokes ((s.drawRow t.pixels t.x t.y).1, hit || (s.drawRow t.pixels t.x t.y).2)
        strokes := rfl

theorem coverage_cons (t : Stroke) (strokes : List Stroke) (px : Fin 64) (py : Fin 32) :
    coverage (t :: strokes) px py = coverage strokes px py + (t.covers px py).toNat := by
  rw [coverage, List.countP_cons]
  cases t.covers px py <;> rfl

/-- **A pixel is flipped by an odd number of rows.** -/
theorem pixel_drawStrokes (s : Screen) (hit : Bool) (strokes : List Stroke) (px : Fin 64)
    (py : Fin 32) :
    (drawStrokes (s, hit) strokes).1.pixel px py =
      (s.pixel px py ^^ decide (coverage strokes px py % 2 = 1)) := by
  induction strokes generalizing s hit with
  | nil => simp [drawStrokes, coverage]
  | cons t strokes ih =>
    have hodd : decide ((coverage strokes px py + (t.covers px py).toNat) % 2 = 1) =
        (t.covers px py ^^ decide (coverage strokes px py % 2 = 1)) := by
      cases t.covers px py with
      | true =>
        by_cases h : coverage strokes px py % 2 = 1 <;> simp [h] <;> omega
      | false => simp
    rw [drawStrokes_cons, ih, pixel_drawRow, coverage_cons, hodd, Bool.xor_assoc]
    rfl

/-- The pixel that a row meets lit is covered once more than the rest cover it. -/
theorem meets_iff (lit covered : Bool) (rest : Nat) :
    (covered = true ∧ lit = true ∨ 1 ≤ rest ∧ 2 ≤ (lit ^^ covered).toNat + rest) ↔
      1 ≤ rest + covered.toNat ∧ 2 ≤ lit.toNat + (rest + covered.toNat) := by
  cases lit <;> cases covered <;> simp <;> omega

/-- **Some row meets a lit pixel exactly if some pixel is covered, and gets to two.** -/
theorem drawStrokes_hit_iff (s : Screen) (hit : Bool) (strokes : List Stroke) :
    (drawStrokes (s, hit) strokes).2 = true ↔ hit = true ∨
      ∃ px py, 1 ≤ coverage strokes px py ∧
        2 ≤ (s.pixel px py).toNat + coverage strokes px py := by
  -- The screen is general: the rest meets pixels that the first row has flipped.
  induction strokes generalizing s hit with
  | nil => simp [drawStrokes, coverage]
  | cons t strokes ih =>
    simp only [drawStrokes_cons, ih, pixel_drawRow, coverage_cons, ← meets_iff, Bool.or_eq_true,
      drawRow_hit_iff, or_assoc, exists_or]
    rfl

end Screen

namespace Machine

/-! ## Sprites -/

/-- How many of the first rows of the sprite at the index cover a pixel, its left upper end at the
coordinates in `x` and `y`. -/
def spriteCoverage (m : Machine) (x y : Register) (height : Nat) (px : Fin 64) (py : Fin 32) :
    Nat :=
  (List.range height).countP fun r =>
    Screen.covers (m.memory[Fin.ofNat 4096 (m.index.toNat + r)])
      (m.register x).toNat ((m.register y).toNat + r) px py

/-- The row of the sprite at the index, some lines down. -/
def spriteRow (m : Machine) (x y : Int32) (r : Nat) : Stroke :=
  ⟨widen (m.load (m.indexAddress + Int32.ofNat r)), x, y + Int32.ofNat r⟩

theorem drawSprite_eq (m : Machine) (x y : Int32) (height : Nat) :
    m.drawSprite x y height =
      Screen.drawStrokes (m.screen, false) ((List.range height).map (m.spriteRow x y)) := by
  rw [drawSprite, Screen.drawStrokes, List.foldl_map]
  rfl

/-- Lines wrap at a divisor of a word's range, as addresses do. -/
theorem spriteRow_covers (m : Machine) (x y : Register) (r : Nat) (px : Fin 64) (py : Fin 32) :
    (m.spriteRow (widen (m.register x)) (widen (m.register y)) r).covers px py =
      Screen.covers (m.memory[Fin.ofNat 4096 (m.index.toNat + r)])
        (m.register x).toNat ((m.register y).toNat + r) px py := by
  have hline : (widen (m.register y) + Int32.ofNat r).toInt % 32 =
      ((m.register y).toNat + r : Int) % 32 := by
    have hadd := toInt_add_emod (widen (m.register y)) (Int32.ofNat r) (k := 32) (by decide)
    have hrow := toInt_ofNat_emod r (k := 32) (by decide)
    rw [toInt_widen] at hadd
    omega
  simp only [Stroke.covers, spriteRow, Screen.covers, lowByte_widen, toInt_widen, hline, load,
    masked_indexAddress_add]

theorem coverage_sprite (m : Machine) (x y : Register) (height : Nat) (px : Fin 64) (py : Fin 32) :
    Screen.coverage ((List.range height).map
      (m.spriteRow (widen (m.register x)) (widen (m.register y)))) px py =
      m.spriteCoverage x y height px py := by
  rw [Screen.coverage, List.countP_map, spriteCoverage]
  exact List.countP_congr fun r _ => by rw [Function.comp, spriteRow_covers]

/-- **Drawing a sprite, pixel by pixel.** Every pixel is flipped if an odd number of rows cover it;
the flag says that a row met a lit pixel; the program counter moves on; nothing else changes. -/
theorem execute_draw (m : Machine) (x y : Register) (height : Nat) :
    ∃ n, m.execute (.draw x y height) = .ok (n, .running) ∧
      (∀ (px : Fin 64) (py : Fin 32), n.screen.pixel px py =
        (m.screen.pixel px py ^^ decide (m.spriteCoverage x y height px py % 2 = 1))) ∧
      n.register flagRegister =
        (if ∃ (px : Fin 64) (py : Fin 32), 1 ≤ m.spriteCoverage x y height px py ∧
          2 ≤ (m.screen.pixel px py).toNat + m.spriteCoverage x y height px py then 1 else 0) ∧
      (∀ r, r ≠ flagRegister → n.register r = m.register r) ∧
      n.pc.toNat = (m.pc.toNat + 2) % 4096 ∧
      n = { m with screen := n.screen, registers := n.registers, pc := n.pc } := by
  refine ⟨m.complete (.draw x y height), rfl, ?_, ?_, ?_, ?_, rfl⟩
  · intro px py
    show (m.drawSprite _ _ height).1.pixel px py = _
    rw [drawSprite_eq, Screen.pixel_drawStrokes, coverage_sprite]
  · show (Machine.setRegister _ flagRegister (flag (m.drawSprite _ _ height).2)).register
      flagRegister = _
    rw [register_setRegister, if_pos rfl, drawSprite_eq, flag]
    simp only [Screen.drawStrokes_hit_iff, coverage_sprite, Bool.false_eq_true, false_or]
  · intro r hr
    show (Machine.setRegister { m with screen := _ } flagRegister _).register r = _
    rw [register_setRegister, if_neg hr.symm]
    rfl
  · exact toNat_advance_pc (m.draw x y height)

end Machine

end Chip8
