import Chip8.Proofs.History
import Chip8.Proofs.Unseen
import Mathlib.Data.List.Forall2

/-!
# Differences that nobody sees

Programs are not alone with a machine. It is loaded and reset, its keys move,
and its screen is drawn on and shown. A relation is `Hidden` if nothing of this
sees or disturbs it either. Every operation then has the same outcome and
writes the same log on machines that are related, and leaves machines that are
related (`Hidden.perform?`), and so does one operation after another
(`Hidden.history?`).
-/

namespace Chip8

/-- Two moments in which the same is done to related machines, and the same
comes of it. -/
structure Moment.Rel (r : Machine → Machine → Prop) (x y : Moment) : Prop where
  before : r x.before y.before
  operation : x.operation = y.operation
  effect : x.effect.Rel r y.effect

namespace Machine

/-- A relation between machines that differ in nothing that a program sees and
nothing that anybody else sees. Whatever is put into both machines goes into
them unhindered. -/
structure Hidden (r : Machine → Machine → Prop) : Prop extends Unseen r where
  screen {m n : Machine} : r m n → n.display.screen = m.display.screen
  withMemory {m n : Machine} (memory : Memory) : r m n → r { m with memory } { n with memory }
  withKeypad {m n : Machine} (keypad : Keypad) : r m n → r { m with keypad } { n with keypad }
  withDisplay {m n : Machine} (display : Display) : r m n →
    r { m with display } { n with display }
  reset {m n : Machine} : r m n → r m.reset n.reset

variable {r : Machine → Machine → Prop} {m n : Machine}

theorem Hidden.load (hidden : Hidden r) (related : r m n) (program : List UInt8) :
    (m.load program).Rel r (n.load program) := by
  simp only [Machine.load, hidden.memory related]
  cases m.memory.install program with
  | ok memory => exact ⟨rfl, rfl, hidden.withMemory memory related⟩
  | error fault => exact ⟨rfl, rfl, related⟩

theorem Hidden.executeWord (hidden : Hidden r) (related : r m n) (word : Word) :
    (m.executeWord word).Rel r (n.executeWord word) := by
  simp only [Machine.executeWord]
  cases Instruction.decode? word with
  | none => exact ⟨rfl, rfl, related⟩
  | some i => exact hidden.execute i related

theorem Hidden.perform? (hidden : Hidden r) (related : r m n) (op : Operation) :
    Option.Rel (Effect.Rel r) (m.perform? op) (n.perform? op) := by
  have screen := hidden.screen related
  cases op with
  | load program => exact .some ((hidden.load related program).map _)
  | reset => exact .some ⟨rfl, rfl, hidden.reset related⟩
  | coldReset => exact .some ⟨rfl, rfl, hidden.reset (hidden.withMemory .fresh related)⟩
  | step => exact .some ((hidden.step related).map _)
  | execute i =>
      have written := hidden.executeWritten? related i
      simp only [Machine.perform?]
      generalize m.executeWritten? i = x, n.executeWritten? i = y at written
      cases written with
      | none => exact .none
      | some same => exact .some (same.map _)
  | executeWord word => exact .some ((hidden.executeWord related word).map _)
  | executeAll is =>
      have written := hidden.executeAll? related is
      simp only [Machine.perform?]
      generalize m.executeAll? is = x, n.executeAll? is = y at written
      cases written with
      | none => exact .none
      | some same => exact .some (same.map _)
  | setKey key isDown =>
      simp only [Machine.perform?, hidden.keypad related]
      cases m.keypad.setPressed key isDown with
      | ok keypad => exact .some ⟨rfl, rfl, hidden.withKeypad keypad related⟩
      | error fault => exact .some ⟨rfl, rfl, related⟩
  | releaseKeys => exact .some ⟨rfl, rfl, hidden.withKeypad .released related⟩
  | draw x y sprite =>
      -- what a sprite does depends on the screen, and the note is set anyway
      simp only [Machine.perform?, Display.draw, Display.collides, screen]
      exact .some ⟨rfl, rfl, hidden.withDisplay _ related⟩
  | wipe => exact .some ⟨rfl, rfl, hidden.withDisplay .wiped related⟩
  | markShown =>
      simp only [Machine.perform?, Display.shown, screen]
      exact .some ⟨rfl, rfl, hidden.withDisplay ⟨m.display.screen, false⟩ related⟩

theorem atEnd_rel {h k : List Moment} (related : r m n)
    (moments : List.Forall₂ (Moment.Rel r) h k) : r (m.atEnd h) (n.atEnd k) := by
  induction moments generalizing m n with
  | nil => exact related
  | cons same rest ih => exact ih same.effect.state

/-- Related machines have the same histories, up to what is hidden, or both
have none. -/
theorem Hidden.history? (hidden : Hidden r) (related : r m n) (ops : List Operation) :
    Option.Rel (List.Forall₂ (Moment.Rel r)) (m.history? ops) (n.history? ops) := by
  induction ops generalizing m n with
  | nil => exact .some .nil
  | cons op ops ih =>
      have first := hidden.perform? related op
      simp only [Machine.history?]
      generalize m.perform? op = x, n.perform? op = y at first
      cases first with
      | none => exact .none
      | @some e f same =>
          have others := ih same.state
          simp only [Option.bind_some]
          generalize e.state.history? ops = x, f.state.history? ops = y at others
          cases others with
          | none => exact .none
          | some later => exact .some (.cons ⟨related, rfl, same⟩ later)

end Machine

end Chip8
