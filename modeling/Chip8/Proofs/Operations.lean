import Chip8.Machine.Operation

/-!
# What operations leave alone

A load concerns memory only, and a key that moves concerns the keypad only,
whether they succeed or not (`perform?_load`, `perform?_setKey`). Instructions
written by hand one after another keep what each of them keeps
(`keeps_executeAll?`), and there is no other operation that can be beyond a
machine (`exists_perform?_unless_written`).
-/

namespace Chip8

/-- Whether an operation is written by hand, and so may name something that a
machine lacks. -/
def Operation.isWritten : Operation → Bool
  | .execute _ | .executeAll _ => true
  | _ => false

/-- Whether an operation is a step. -/
def Operation.isStep : Operation → Bool
  | .step => true
  | _ => false

/-- The keypad once the key that a byte names was moved. A byte that names none
moves none. -/
def Keypad.moved (k : Keypad) (b : UInt8) (isDown : Bool) : Keypad :=
  match k.setPressed b isDown with
  | .ok keypad => keypad
  | .error _ => k

theorem Keypad.holds_moved (k : Keypad) (b : UInt8) (isDown : Bool) (key : Nibble) :
    (k.moved b isDown).holds key = if b = key.toByte then isDown else k.holds key := by
  simp only [← Nibble.ofByte?_eq_some_iff]
  cases named : Nibble.ofByte? b with
  | none => simp [moved, setPressed, named]
  | some n => simp [moved, setPressed, named]

namespace Machine

variable {op : Operation}

/-- A load that is refused leaves memory alone as well. -/
theorem perform?_load (m : Machine) (program : List UInt8) :
    ∃ outcome memory log,
      m.perform? (.load program) = some ⟨outcome, { m with memory }, log⟩ := by
  simp only [perform?, load]
  cases m.memory.install program with
  | ok memory => exact ⟨_, memory, _, rfl⟩
  | error fault => exact ⟨_, m.memory, _, rfl⟩

/-- A key that there is not leaves the keypad alone as well. -/
theorem perform?_setKey (m : Machine) (key : UInt8) (isDown : Bool) :
    m.perform? (.setKey key isDown) =
      some ⟨(m.keypad.setPressed key isDown).map fun _ => .done,
        { m with keypad := m.keypad.moved key isDown }, []⟩ := by
  simp only [perform?, Keypad.moved]
  cases m.keypad.setPressed key isDown <;> rfl

theorem exists_perform?_unless_written (m : Machine) (known : op.isWritten = false) :
    ∃ e, m.perform? op = some e := by
  cases op with
  | setKey key isDown =>
      exact ⟨_, m.perform?_setKey key isDown⟩
  | execute | executeAll => cases known
  | _ => exact ⟨_, rfl⟩

/-- What every allowed instruction keeps, some of them one after another keep
too, also if a fault cuts them short. -/
theorem keeps_executeAll? {Allowed : Instruction UInt8 → Prop} {P : Machine → Prop}
    (kept : ∀ m i e, Allowed i → P m → m.executeWritten? i = some e → P e.state)
    {m : Machine} {all : List (Instruction UInt8)} {e : Effect Machine Unit} (start : P m)
    (allowed : ∀ i ∈ all, Allowed i) (does : m.executeAll? all = some e) : P e.state := by
  induction all generalizing m e with
  | nil => cases does; exact start
  | cons written rest ih =>
      simp only [executeAll?, Option.bind_eq_some_iff] at does
      obtain ⟨first, did, does⟩ := does
      have now := kept m written first (allowed written (by simp)) start did
      cases outcome : first.outcome with
      | error fault =>
          rw [outcome] at does
          cases does
          exact now
      | ok progress =>
          rw [outcome] at does
          simp only [Option.map_eq_some_iff] at does
          obtain ⟨r, later, rfl⟩ := does
          have last : P r.state := ih now (fun i hi => allowed i (by simp [hi])) later
          exact last

end Machine

end Chip8
