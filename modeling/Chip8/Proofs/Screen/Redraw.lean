import Chip8.Proofs.Machine.Footprint
import Chip8.Proofs.Screen.Sprite

/-!
# Drawing in another order, and drawing again

Drawing a row flips pixels, and flips commute and cancel. So for a list of rows only the number of
rows that cover each pixel counts (`coverage`), and that is the same in any order.

**Another order** (`drawStrokes_perm`). The last screen is the same, and so is the collision of the
list as a whole: which rows meet a lit pixel depends on the order, whether one does so does not.

**Drawing again** (`drawStrokes_again`). Every pixel is flipped an even number of times in all.

**Sprites** (`drawn_again`). An instruction that draws leaves all it has read as it was, unless a
coordinate is in the flag register. So executed twice it draws the same rows twice.
-/

namespace Chip8

namespace Screen

theorem coverage_perm {a b : List Stroke} (h : a.Perm b) (px : Fin 64) (py : Fin 32) :
    coverage a px py = coverage b px py :=
  h.countP_eq _

/-- **The order of rows does not matter.** -/
theorem drawStrokes_perm {a b : List Stroke} (h : a.Perm b) (s : Screen) (hit : Bool) :
    drawStrokes (s, hit) a = drawStrokes (s, hit) b := by
  refine Prod.ext (ext_pixel fun px py => ?_) (Bool.eq_iff_iff.2 ?_)
  · rw [pixel_drawStrokes, pixel_drawStrokes, coverage_perm h]
  · simp only [drawStrokes_hit_iff, coverage_perm h]

/-- **Rows that are drawn again vanish.** -/
theorem drawStrokes_again (s : Screen) (hit hit' : Bool) (strokes : List Stroke) :
    (drawStrokes ((drawStrokes (s, hit) strokes).1, hit') strokes).1 = s := by
  refine ext_pixel fun px py => ?_
  rw [pixel_drawStrokes, pixel_drawStrokes, Bool.xor_assoc, Bool.xor_self, Bool.xor_false]

end Screen

namespace Machine

/-- The rows of the sprite at the index, its left upper end at the coordinates in `x` and `y`. -/
def spriteRows (m : Machine) (x y : Register) (height : Nat) : List Stroke :=
  (List.range height).map (m.spriteRow (widen (m.register x)) (widen (m.register y)))

theorem complete_draw_screen (m : Machine) (x y : Register) (height : Int) :
    (m.complete (.draw x y height)).screen =
      (Screen.drawStrokes (m.screen, false) (m.spriteRows x y height.toNat)).1 := by
  rw [spriteRows, ← drawSprite_eq]
  rfl

/-- Drawing leaves the sprite alone, and the coordinates if they are not in the flag register. -/
theorem spriteRows_complete_draw (m : Machine) {x y : Register} (hx : x ≠ flagRegister)
    (hy : y ≠ flagRegister) (height : Int) (n : Nat) :
    (m.complete (.draw x y height)).spriteRows x y n = m.spriteRows x y n := by
  have hregister {r : Register} (hr : r ≠ flagRegister) :
      (m.complete (.draw x y height)).register r = m.register r :=
    (complete_kept m (.draw x y height)).registers r hr
  rw [spriteRows, hregister hx, hregister hy]
  rfl

/-- **A sprite that is drawn again vanishes.** -/
theorem drawn_again (m : Machine) {x y : Register} (hx : x ≠ flagRegister) (hy : y ≠ flagRegister)
    (height : Int) :
    ((m.complete (.draw x y height)).complete (.draw x y height)).screen = m.screen := by
  rw [complete_draw_screen, spriteRows_complete_draw m hx hy, complete_draw_screen,
    Screen.drawStrokes_again]

end Machine

namespace Screen

/-- **Rows commute and cancel.** In any order, a list of rows leaves the same screen, and meets a
lit pixel or not: it does if some pixel is covered at least once and, counting its first state as
one if lit, gets to two. Drawn again, the list restores the first screen. So does an instruction
that draws, executed twice, unless a coordinate is in the flag register. -/
theorem drawStrokes_commute_cancel (s : Screen) (strokes : List Stroke) :
    (∀ strokes', strokes.Perm strokes' →
      drawStrokes (s, false) strokes' = drawStrokes (s, false) strokes) ∧
    ((drawStrokes (s, false) strokes).2 = true ↔ ∃ px py, 1 ≤ coverage strokes px py ∧
      2 ≤ (s.pixel px py).toNat + coverage strokes px py) ∧
    (drawStrokes ((drawStrokes (s, false) strokes).1, false) strokes).1 = s ∧
    ∀ (m : Machine) (x y : Register) (height : Int), x ≠ flagRegister → y ≠ flagRegister →
      ∃ n k, m.execute (.draw x y height) = .ok (n, .running) ∧
        n.execute (.draw x y height) = .ok (k, .running) ∧ k.screen = m.screen := by
  refine ⟨fun strokes' h => drawStrokes_perm h.symm s false, ?_, drawStrokes_again s _ _ strokes,
    ?_⟩
  · rw [drawStrokes_hit_iff]
    simp only [Bool.false_eq_true, false_or]
  · intro m x y height hx hy
    exact ⟨_, _, rfl, rfl, m.drawn_again hx hy height⟩

/-- Three rows over the lower right corner, in both orders, and a digit drawn twice. -/
theorem drawStrokes_commute_cancel_corner :
    let strokes : List Stroke := [⟨0xFF, 60, 31⟩, ⟨0x0F, -8, -1⟩, ⟨0x1C3, 124, -33⟩]
    let m := Machine.powerOn ⟨0, 0⟩
    strokes.Perm strokes.reverse ∧
      drawStrokes (dark, false) strokes.reverse = drawStrokes (dark, false) strokes ∧
      (drawStrokes (dark, false) strokes).2 = true ∧
      ∃ n k, m.execute (.draw 0 1 5) = .ok (n, .running) ∧
        n.execute (.draw 0 1 5) = .ok (k, .running) ∧ k.screen = m.screen := by
  intro strokes m
  have hperm : strokes.Perm strokes.reverse := strokes.reverse_perm.symm
  obtain ⟨horder, hhit, -, hagain⟩ := drawStrokes_commute_cancel dark strokes
  exact ⟨hperm, horder _ hperm, hhit.2 ⟨60, 31, by decide +kernel⟩,
    hagain m 0 1 5 (by decide) (by decide)⟩

end Screen

end Chip8
