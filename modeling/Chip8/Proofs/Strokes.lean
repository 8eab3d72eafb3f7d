import Chip8.Proofs.Attempts
import Chip8.Proofs.Drawing

/-!
# Strokes

All that is ever done to a screen is to wipe it or to draw a sprite on it. The
strokes of an operation are read off the instructions that it attempts
(`Machine.strokes`), and they are all that it does to the screen: what it leaves
is the screen that it found with these strokes made, and the note was there
before or there is a stroke (`Machine.painted_perform?`).

Of strokes one after another only those drawings count that no wipe comes after
(`Stroke.lasting`). A pixel that they hit an odd number of times is changed, or
lit if there was a wipe (`Screen.pixel_paint`). So it is known when strokes leave
a screen as it is (`Screen.paint_eq_self_iff`).
-/

namespace Chip8

/-- Something done to a screen. -/
inductive Stroke where
  /-- Turn every pixel off. -/
  | wipe
  /-- Draw a sprite. -/
  | draw (a : Placement)
  deriving DecidableEq

/-- The screen after a stroke. -/
def Stroke.on (s : Screen) : Stroke → Screen
  | wipe => .blank
  | draw a => s.draw a.marks

/-- Make strokes one after another. -/
def Screen.paint (s : Screen) (strokes : List Stroke) : Screen := strokes.foldl Stroke.on s

theorem Screen.paint_append (s : Screen) (strokes more : List Stroke) :
    s.paint (strokes ++ more) = (s.paint strokes).paint more :=
  List.foldl_append

/-! ## What strokes make of a pixel -/

/-- How often some drawings hit a pixel together. -/
def Placement.totalHits : List Placement → Position → Nat
  | [], _ => 0
  | a :: rest, p => a.sprite.hits a.x a.y p + totalHits rest p

/-- A sum is odd if one of its parts is and the other is not. -/
theorem decide_odd_add (a b : Nat) :
    decide ((a + b) % 2 = 1) = (decide (a % 2 = 1) ^^ decide (b % 2 = 1)) := by
  rcases Nat.mod_two_eq_zero_or_one a with even | odd <;>
    rcases Nat.mod_two_eq_zero_or_one b with even' | odd' <;>
    simp [Nat.add_mod, *]

namespace Stroke

/-- The drawings that are not wiped away later. -/
def lasting : List Stroke → List Placement
  | [] => []
  | wipe :: rest => lasting rest
  | draw a :: rest => if wipe ∈ rest then lasting rest else a :: lasting rest

theorem pixel_on_draw (s : Screen) (a : Placement) (p : Position) :
    ((draw a).on s).pixel p = (s.pixel p ^^ decide (a.sprite.hits a.x a.y p % 2 = 1)) := by
  rw [on, Screen.pixel_draw, Placement.marks, Sprite.count_marks]

end Stroke

namespace Screen

open Placement (totalHits)
open Stroke (lasting)

/-- After a wipe nothing is left of the screen before. -/
theorem pixel_paint (s : Screen) (strokes : List Stroke) (p : Position) :
    (s.paint strokes).pixel p =
      ((s.pixel p && decide (.wipe ∉ strokes)) ^^
        decide (totalHits (lasting strokes) p % 2 = 1)) := by
  induction strokes generalizing s with
  | nil => simp [paint, lasting, totalHits]
  | cons stroke rest ih =>
      have first : s.paint (stroke :: rest) = (stroke.on s).paint rest := rfl
      rw [first, ih]
      cases stroke with
      | wipe =>
          have gone : Stroke.wipe ∈ .wipe :: rest := List.mem_cons_self
          have same : lasting (.wipe :: rest) = lasting rest := rfl
          rw [Stroke.on, pixel_blank, same]
          simp only [gone, not_true, decide_false, Bool.false_and, Bool.and_false]
      | draw a =>
          have later : Stroke.wipe ∈ .draw a :: rest ↔ .wipe ∈ rest := by simp
          by_cases wiped : .wipe ∈ rest
          · -- the wipe to come makes the drawing count for nothing
            simp only [lasting, later, wiped, if_true, not_true, decide_false, Bool.and_false]
          · simp only [lasting, later, wiped, if_false, not_false_eq_true, decide_true,
              Bool.and_true, totalHits, decide_odd_add, Stroke.pixel_on_draw, Bool.xor_assoc]

/-- Strokes leave a screen as it is if what lasts of them hits every pixel an even
number of times, or, after a wipe, lights just the pixels that were lit. -/
theorem paint_eq_self_iff {s : Screen} {strokes : List Stroke} :
    s.paint strokes = s ↔
      ∀ p, totalHits (lasting strokes) p % 2 =
        if .wipe ∈ strokes then (s.pixel p).toNat else 0 := by
  have one (p : Position) : (s.paint strokes).pixel p = s.pixel p ↔
      totalHits (lasting strokes) p % 2 = if .wipe ∈ strokes then (s.pixel p).toNat else 0 := by
    -- the pixel was lit or not, and is toggled or not, with a wipe before or without
    rw [pixel_paint]
    by_cases wiped : .wipe ∈ strokes <;> cases s.pixel p <;>
      rcases Nat.mod_two_eq_zero_or_one (totalHits (lasting strokes) p) with even | odd <;>
      simp [*]
  constructor
  · intro same p
    rw [← one, same]
  · intro same
    exact ext_pixel fun p => (one p).2 (same p)

theorem paint_wipe_eq_self_iff {s : Screen} : s.paint [.wipe] = s ↔ s = blank :=
  eq_comm

/-- A single sprite that does not meet itself leaves the screen as it is only if
it has nothing to draw. -/
theorem paint_draw_eq_self_iff {s : Screen} {a : Placement} (short : a.sprite.length ≤ 32) :
    s.paint [.draw a] = s ↔ ∀ row ∈ a.sprite, row = 0 := by
  have lasts : lasting [.draw a] = [a] := rfl
  have unwiped : .wipe ∉ [Stroke.draw a] := by simp
  have parity (p : Position) : totalHits [a] p % 2 = 0 ↔ ¬ 1 ≤ a.sprite.hits a.x a.y p := by
    have alone : totalHits [a] p = a.sprite.hits a.x a.y p := rfl
    have once : a.sprite.hits a.x a.y p ≤ 1 := Sprite.hits_le_one short
    rw [alone]
    omega
  -- an even number of hits is none at all, so nothing of the sprite lands anywhere
  simp only [paint_eq_self_iff, lasts, if_neg unwiped, parity]
  rw [← not_exists, Sprite.exists_hit_iff]
  push Not
  rfl

end Screen

/-! ## The strokes of an operation -/

/-- The strokes of an instruction. -/
def Attempt.strokes (a : Attempt) : List Stroke :=
  match a.instruction with
  | .clearScreen => [.wipe]
  | .draw x y n =>
    [.draw ⟨(a.before.reg x).toNat, (a.before.reg y).toNat,
      a.before.memory.slice a.before.index.toNat n.val⟩]
  | _ => []

/-- The strokes of an operation, in the order in which they are made. -/
def Machine.strokes (m : Machine) : Operation → List Stroke
  | .reset | .coldReset | .wipe => [.wipe]
  | .draw x y sprite => [.draw ⟨x, y, sprite⟩]
  | op => (m.attempts op).flatMap Attempt.strokes

/-- The first display becomes the second one by some strokes: its screen has them
made, and it bears the note only if it did so before or there is a stroke. -/
structure Display.Painted (d : Display) (strokes : List Stroke) (e : Display) : Prop where
  screen : e.screen = d.screen.paint strokes
  noted : e.dirty = true → d.dirty = true ∨ strokes ≠ []

namespace Display

variable {d e c : Display} {strokes more : List Stroke}

theorem Painted.refl (d : Display) : d.Painted [] d := ⟨rfl, .inl⟩

/-- Taking the note off is no stroke. -/
theorem painted_shown (d : Display) : d.Painted [] d.shown := by
  refine ⟨rfl, ?_⟩
  intro dirty
  cases dirty

theorem painted_wiped (d : Display) : d.Painted [.wipe] wiped :=
  ⟨rfl, fun _ => .inr (List.cons_ne_nil _ _)⟩

theorem painted_draw (d : Display) (x y : Nat) (sprite : Sprite) :
    d.Painted [.draw ⟨x, y, sprite⟩] (d.draw x y sprite) :=
  ⟨rfl, fun _ => .inr (List.cons_ne_nil _ _)⟩

theorem Painted.trans (first : d.Painted strokes e) (second : e.Painted more c) :
    d.Painted (strokes ++ more) c := by
  constructor
  · rw [second.screen, first.screen, Screen.paint_append]
  · intro dirty
    rcases second.noted dirty with dirty | stroke
    · rcases first.noted dirty with dirty | stroke
      · exact .inl dirty
      · exact .inr (List.append_ne_nil_of_left_ne_nil stroke more)
    · exact .inr (List.append_ne_nil_of_right_ne_nil strokes stroke)

end Display

theorem Attempt.painted (a : Attempt) :
    a.before.display.Painted a.strokes a.after.display := by
  obtain ⟨m, i⟩ := a
  rw [Attempt.after, Machine.display_execute, Attempt.strokes]
  cases i with
  | clearScreen => exact m.display.painted_wiped
  | draw x y n => exact m.display.painted_draw _ _ _
  | _ => exact .refl m.display

namespace Machine

variable {m n : Machine} {op : Operation} {attempts : List Attempt} {e : Effect Machine Answer}

theorem Elapsed.display (elapsed : m.Elapsed n) : n.display = m.display := by
  rw [Elapsed] at elapsed
  rw [elapsed]

/-- Time leaves the screen alone, so what happens to it is what the attempts do. -/
theorem Leads.painted (leads : Leads m attempts n) :
    m.display.Painted (attempts.flatMap Attempt.strokes) n.display := by
  induction leads with
  | nil elapsed =>
      rw [elapsed.display]
      exact .refl _
  | @cons m n a rest elapsed later ih =>
      rw [List.flatMap_cons, ← elapsed.display]
      exact a.painted.trans ih

theorem strokes_of_instructs (m : Machine) (instructs : op.instructs = true) :
    m.strokes op = (m.attempts op).flatMap Attempt.strokes := by
  cases op with
  | step | execute | executeWord | executeAll => rfl
  | _ => cases instructs

/-- The strokes of an operation are all that it does to the screen. -/
theorem painted_perform? (does : m.perform? op = some e) :
    m.display.Painted (m.strokes op) e.state.display := by
  cases instructs : op.instructs with
  | true =>
      rw [m.strokes_of_instructs instructs]
      exact (leads_perform? instructs does).painted
  | false =>
      cases op with
      | step | execute | executeWord | executeAll => cases instructs
      | reset | coldReset | wipe =>
          cases does
          exact m.display.painted_wiped
      | draw x y sprite =>
          cases does
          exact m.display.painted_draw x y sprite
      | load program =>
          obtain ⟨_, _, _, effect⟩ := m.perform?_load program
          rw [effect] at does
          cases does
          exact .refl m.display
      | setKey key isDown =>
          rw [perform?_setKey] at does
          cases does
          exact .refl m.display
      | releaseKeys =>
          cases does
          exact .refl m.display
      | markShown =>
          cases does
          exact m.display.painted_shown

end Machine

end Chip8
