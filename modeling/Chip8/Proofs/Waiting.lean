import Chip8.Proofs.Atomicity
import Chip8.Proofs.Encoding
import Chip8.Proofs.Latest
import Chip8.Proofs.Outside

/-!
# Waiting for a key

No instruction moves a key, so what was done to a key last decides whether it is
down (`holds_atEnd`). A machine that stands before a word that waits for a key
stays there as long as none is down when it is stepped, while its timers run and
keys come and go (`waited_atEnd`); the first step that finds a key down takes the
lowest one and goes on (`step_of_awaitKey_of_some`).
-/

namespace Chip8

/-- Where an operation puts a key, if it concerns that key. -/
def Operation.moves? (key : Nibble) : Operation → Option Bool
  | .setKey b isDown => if b = key.toByte then some isDown else none
  | .releaseKeys | .reset | .coldReset => some false
  | _ => none

/-- Whether a key is down after some operations: as the last of them that concerned
it left it, or else as it was before. -/
def Keypad.heldAfter (k : Keypad) (ops : List Operation) (key : Nibble) : Bool :=
  (ops.reverse.findSome? (·.moves? key)).getD (k.holds key)

namespace Machine

variable {m n l : Machine} {op : Operation} {ops : List Operation} {e : Effect Machine Answer}
  {h : List Moment} {x key : Nibble}

/-! ## Which keys are down -/

theorem Leads.keypad {attempts : List Attempt} (leads : Leads m attempts n) :
    n.keypad = m.keypad := by
  induction leads with
  | nil elapsed => rw [elapsed]
  | cons elapsed later ih =>
      rw [ih]
      refine (keypad_execute _ _).trans ?_
      rw [elapsed]

theorem holds_perform? (does : m.perform? op = some e) (key : Nibble) :
    e.state.keypad.holds key = (op.moves? key).getD (m.keypad.holds key) := by
  cases op with
  | setKey b isDown =>
      rw [perform?_setKey] at does
      cases does
      show (m.keypad.moved b isDown).holds key = _
      rw [Keypad.holds_moved, Operation.moves?]
      split <;> rfl
  | releaseKeys | reset | coldReset =>
      cases does
      exact Keypad.holds_released key
  | step | execute | executeWord | executeAll =>
      rw [(leads_perform? rfl does).keypad]
      rfl
  | load program =>
      obtain ⟨_, _, _, effect⟩ := m.perform?_load program
      rw [effect] at does
      cases does
      rfl
  | draw | wipe | markShown => cases does; rfl

theorem heldAfter_cons (does : m.perform? op = some e) (ops : List Operation) (key : Nibble) :
    m.keypad.heldAfter (op :: ops) key = e.state.keypad.heldAfter ops key := by
  rw [Keypad.heldAfter, getD_findSome?_reverse_cons, ← holds_perform? does]
  rfl

theorem holds_atEnd (run : m.history? ops = some h) (key : Nibble) :
    (m.atEnd h).keypad.holds key = m.keypad.heldAfter ops key := by
  induction ops generalizing m h with
  | nil => cases run; rfl
  | cons op ops ih =>
      obtain ⟨e, rest, does, later, rfl⟩ := history?_cons_iff.1 run
      rw [heldAfter_cons does]
      exact ih later

/-- A number that is no key is turned away. -/
theorem perform?_setKey_of_large {b : UInt8} (large : 15 < b.toNat) (isDown : Bool) :
    m.perform? (.setKey b isDown) = some ⟨.error (.invalidKey b), m, []⟩ := by
  simp only [perform?, Keypad.setPressed, (Nibble.ofByte?_eq_none_iff b).2 large]

/-! ## One step -/

theorem step_of_awaitKey_of_none (current : m.current? = some (.awaitKey x))
    (nobody : m.keypad.first? = none) :
    m.step.outcome = .ok ⟨.awaitingKey, m.endsTone⟩ ∧ m.step.state = m.tickTimers := by
  have stays := execute_advance_awaitKey (x := x) (current?_eq_some_iff.1 current).1 nobody
  rw [step_of_executed current (congrArg Effect.outcome stays), stays]
  exact ⟨rfl, rfl⟩

theorem step_of_awaitKey_of_some (current : m.current? = some (.awaitKey x))
    (first : m.keypad.first? = some key) :
    m.step.outcome = .ok ⟨.executed, m.endsTone⟩ ∧
      m.step.state = (m.advance.setReg x key.toByte).tickTimers := by
  have takes : m.advance.execute (.awaitKey x) = executed (m.advance.setReg x key.toByte) := by
    have first : m.advance.keypad.first? = some key := first
    simp only [execute, first]
  rw [step_of_executed current (congrArg Effect.outcome takes), takes]
  exact ⟨rfl, rfl⟩

/-! ## Many steps -/

/-- The second machine is the first one some steps later: its timers ran, other
keys may be down, and nothing else has changed. -/
structure Waited (m : Machine) (steps : Nat) (n : Machine) : Prop where
  delay : n.delay.toNat = m.delay.toNat - steps
  sound : n.sound.toNat = m.sound.toNat - steps
  rest : n = { m with delay := n.delay, sound := n.sound, keypad := n.keypad }

theorem CountedDown.waited (counted : m.CountedDown n) : m.Waited 1 n where
  delay := counted.delay
  sound := counted.sound
  rest := by rw [counted.rest]

theorem waited_withKeys (m : Machine) (keypad : Keypad) : m.Waited 0 { m with keypad } :=
  ⟨rfl, rfl, rfl⟩

theorem Waited.trans {steps more : Nat} (first : m.Waited steps n) (second : n.Waited more l) :
    m.Waited (steps + more) l where
  delay := by rw [second.delay, first.delay]; omega
  sound := by rw [second.sound, first.sound]; omega
  rest := by
    calc l = { n with delay := l.delay, sound := l.sound, keypad := l.keypad } := second.rest
      _ = { m with delay := l.delay, sound := l.sound, keypad := l.keypad } := by rw [first.rest]

theorem Waited.current? {steps : Nat} (waited : m.Waited steps n) : n.current? = m.current? := by
  rw [waited.rest]
  rfl

theorem waited_perform? (current : m.current? = some (.awaitKey x))
    (calm : op = .step ∨ op.movesKeys = true)
    (nobody : op = .step → m.keypad.first? = none) (does : m.perform? op = some e) :
    m.Waited (if op.isStep then 1 else 0) e.state := by
  cases op with
  | step =>
      cases does
      obtain ⟨_, state⟩ := step_of_awaitKey_of_none current (nobody rfl)
      show m.Waited 1 m.step.state
      rw [state]
      exact (countedDown_tickTimers m).waited
  | setKey b isDown =>
      rw [perform?_setKey] at does
      cases does
      exact m.waited_withKeys _
  | releaseKeys =>
      cases does
      exact m.waited_withKeys _
  | _ => simp [Operation.movesKeys] at calm

theorem waited_atEnd (current : m.current? = some (.awaitKey x))
    (calm : ∀ op ∈ ops, op = .step ∨ op.movesKeys = true)
    (released : ∀ k (inside : k < ops.length), ops[k].isStep = true →
      ∀ key, m.keypad.heldAfter (ops.take k) key = false)
    (run : m.history? ops = some h) :
    m.Waited (ops.countP Operation.isStep) (m.atEnd h) ∧
      ∀ z ∈ h, z.operation = .step →
        z.before.current? = some (.awaitKey x) ∧ z.before.keypad.first? = none := by
  induction ops generalizing m h with
  | nil =>
      cases run
      exact ⟨m.waited_withKeys m.keypad, by simp⟩
  | cons op ops ih =>
      obtain ⟨e, rest, does, later, rfl⟩ := history?_cons_iff.1 run
      have nobody : op = .step → m.keypad.first? = none := by
        rintro rfl
        exact m.keypad.first?_eq_none_iff.2 (released 0 (Nat.succ_pos _) rfl)
      have now := waited_perform? current (calm op List.mem_cons_self) nobody does
      have stillReleased : ∀ k (inside : k < ops.length), ops[k].isStep = true →
          ∀ key, e.state.keypad.heldAfter (ops.take k) key = false := by
        intro k inside step key
        rw [← heldAfter_cons does]
        exact released (k + 1) (Nat.succ_lt_succ inside) step key
      obtain ⟨afterwards, moments⟩ := ih (now.current?.trans current)
        (fun op among => calm op (List.mem_cons_of_mem _ among)) stillReleased later
      constructor
      · rw [List.countP_cons, Nat.add_comm]
        exact now.trans afterwards
      · intro z among step
        rcases List.mem_cons.1 among with rfl | among
        · exact ⟨current, nobody step⟩
        · exact moments z among step

end Machine

/-- **Waiting ends with the lowest key.** A machine stands before a word `Fx0A`, of
which the second byte may be at the beginning of memory. It is stepped any number
of times while keys move, of which none is down at a step, each being as it was
left last. Each of these steps waits and changes nothing but the timers, so that
the machine is still where it was, with each timer less by the number of steps, or
at zero. A number that is no key moves none. The next step waits as well if no key
is down; if one is, it puts the lowest into Vx and goes on after the word. -/
theorem waiting_ends_with_lowest_key (m : Machine) (x : Nibble) (inside : m.pc.toNat ≤ 0xFFF)
    (waits : Word.ofBytes (m.memory.byteAt (.wrap m.pc.toNat))
      (m.memory.byteAt (.wrap (m.pc.toNat + 1))) = .ofConstant 0xF x 0x0A)
    (ops : List Operation) (calm : ∀ op ∈ ops, op = .step ∨ op.movesKeys = true)
    (released : ∀ k (inside : k < ops.length), ops[k].isStep = true →
      ∀ key, m.keypad.heldAfter (ops.take k) key = false) :
    ∃ h, m.history? ops = some h ∧
      let n := m.atEnd h
      m.Waited (ops.countP Operation.isStep) n ∧
      (∀ key, n.keypad.holds key = m.keypad.heldAfter ops key) ∧
      (∀ z ∈ h, z.operation = .step →
        z.effect.outcome = .ok (.step ⟨.awaitingKey, z.before.endsTone⟩) ∧
          z.before.CountedDown z.after) ∧
      (∀ z ∈ h, ∀ b isDown, z.operation = .setKey b isDown → 15 < b.toNat →
        z.effect.outcome = .error (.invalidKey b) ∧ z.after = z.before) ∧
      ((∀ key, m.keypad.heldAfter ops key = false) →
        n.step.outcome = .ok ⟨.awaitingKey, n.endsTone⟩ ∧ n.CountedDown n.step.state) ∧
      (∀ key, m.keypad.heldAfter ops key = true → ∃ lowest,
        m.keypad.heldAfter ops lowest = true ∧
        (∀ lower < lowest, m.keypad.heldAfter ops lower = false) ∧
        n.step.outcome = .ok ⟨.executed, n.endsTone⟩ ∧
        Machine.CountedDown
          ({ n with pc := UInt16.ofNat ((m.pc.toNat + 2) % 4096) }.setReg x lowest.toByte)
          n.step.state) := by
  have current : m.current? = some (.awaitKey x) :=
    Machine.current?_of_encode inside trivial nofun nofun waits
  have does : ∀ m op, op = .step ∨ op.movesKeys = true → ∃ e, Machine.perform? m op = some e := by
    intro m op calm
    refine m.exists_perform?_unless_written ?_
    cases op <;> simp [Operation.movesKeys] at calm <;> rfl
  obtain ⟨h, run⟩ := Machine.exists_history? does m calm
  obtain ⟨waited, steps⟩ := Machine.waited_atEnd current calm released run
  have holds := Machine.holds_atEnd run
  have still : (m.atEnd h).current? = some (.awaitKey x) := waited.current?.trans current
  refine ⟨h, run, waited, holds, ?each, ?turnedAway, ?next, ?ends⟩
  case each =>
    intro z among step
    obtain ⟨before, nobody⟩ := steps z among step
    obtain ⟨outcome, state⟩ := Machine.step_of_awaitKey_of_none before nobody
    have effect := Machine.perform?_of_mem_history? run among
    rw [step] at effect
    rw [Moment.after, ← Option.some.inj effect]
    constructor
    · simp only [Effect.map, outcome, Except.map]
    · show z.before.CountedDown z.before.step.state
      rw [state]
      exact z.before.countedDown_tickTimers
  case turnedAway =>
    intro z among b isDown setKey large
    have effect := Machine.perform?_of_mem_history? run among
    rw [setKey, Machine.perform?_setKey_of_large large] at effect
    rw [Moment.after, ← Option.some.inj effect]
    exact ⟨rfl, rfl⟩
  case next =>
    intro up
    have nobody : (m.atEnd h).keypad.first? = none := by
      rw [Keypad.first?_eq_none_iff]
      intro key
      rw [holds, up]
    obtain ⟨outcome, state⟩ := Machine.step_of_awaitKey_of_none still nobody
    rw [state]
    exact ⟨outcome, Machine.countedDown_tickTimers _⟩
  case ends =>
    intro key down
    cases first : (m.atEnd h).keypad.first? with
    | none =>
        rw [← holds, (Keypad.first?_eq_none_iff _).1 first key] at down
        cases down
    | some lowest =>
        obtain ⟨lowestDown, others⟩ := (Keypad.first?_eq_some_iff _ lowest).1 first
        simp only [holds] at lowestDown others
        obtain ⟨outcome, state⟩ := Machine.step_of_awaitKey_of_some still first
        have place : (m.atEnd h).pc = m.pc := by rw [waited.rest]
        refine ⟨lowest, lowestDown, others, outcome, ?_⟩
        rw [state, ← place]
        exact Machine.countedDown_tickTimers _

/-- Three steps before a word that begins in the last byte of memory and ends in
the first. Of the keys that go down, one goes up again and one there is not. -/
theorem waiting_ends_with_lowest_key_four :
    let memory := (Memory.blank.put 0xFFF 0xF5).put 0x000 0x0A
    let m := { Machine.ofSeed 8 with
      memory, pc := 0xFFF, delay := 2, sound := 7, keypad := Keypad.released.move 0x1 true }
    let ops : List Operation := [.releaseKeys, .step, .setKey 0x42 true, .step, .step,
      .setKey 0x9 true, .setKey 0x4 true, .setKey 0x2 true, .setKey 0x2 false]
    ∃ h, m.history? ops = some h ∧
      let n := m.atEnd h
      n.pc = 0xFFF ∧ n.delay.toNat = 0 ∧ n.sound.toNat = 4 ∧
        n.step.outcome = .ok ⟨.executed, n.endsTone⟩ ∧ n.step.state.reg 0x5 = 0x4 ∧
        n.step.state.pc = 0x001 ∧ n.step.state.sound.toNat = 3 := by
  intro memory m ops
  have calm : ∀ op ∈ ops, op = .step ∨ op.movesKeys = true := by simp [ops, Operation.movesKeys]
  have released : ∀ k (inside : k < ops.length), ops[k].isStep = true →
      ∀ key, m.keypad.heldAfter (ops.take k) key = false := by decide +kernel
  obtain ⟨h, run, waited, _, _, _, _, ends⟩ :=
    waiting_ends_with_lowest_key m 0x5 (by decide) (by decide +kernel) ops calm released
  obtain ⟨lowest, down, others, outcome, counted⟩ := ends 0x4 (by decide +kernel)
  have four : lowest = 0x4 := by
    have only : ∀ key, m.keypad.heldAfter ops key = true →
        (∀ lower < key, m.keypad.heldAfter ops lower = false) → key = 0x4 := by decide +kernel
    exact only lowest down others
  subst four
  refine ⟨h, run, ?_, waited.delay, waited.sound, outcome, ?_, ?_, ?_⟩
  · rw [waited.rest]
  · rw [counted.rest]
    exact (Machine.reg_setReg _ _ _ _).trans (if_pos rfl)
  · have wrapped : UInt16.ofNat ((m.pc.toNat + 2) % 4096) = 0x001 := by decide
    rw [counted.rest]
    exact wrapped
  · rw [counted.sound]
    show (m.atEnd h).sound.toNat - 1 = 3
    rw [waited.sound]
    rfl

end Chip8
