import Chip8.Proofs.Attempts
import Chip8.Proofs.Slots
import Mathlib.Control.Monad.Basic

/-!
# Calls and returns

To programs the stack is a list of at most sixteen return addresses. What any
operation does to that list follows from the instructions that it attempts
(`stack_perform?`): only calls, returns and resets change it.

What was in use at a call stays in use under whatever is called in turn, with
the address after the call on top of it, until a return brings the depth back
(`prefix_or_returns`). So that return finds its own address
(`returns_of_call`), however long it takes and whatever else is going on.
-/

namespace Chip8

/-- What may happen to a machine between two of its steps, and the steps:
memory, keys and screen may be changed from outside, but nothing is carried
out or started over. -/
inductive Operation.InPlay : Operation → Prop
  | step : InPlay .step
  | load (program : List UInt8) : InPlay (.load program)
  | setKey (key : UInt8) (isDown : Bool) : InPlay (.setKey key isDown)
  | releaseKeys : InPlay .releaseKeys
  | draw (x y : Nat) (sprite : Sprite) : InPlay (.draw x y sprite)
  | wipe : InPlay .wipe
  | markShown : InPlay .markShown

/-- Where an attempt is made, and at what: all that the stack has to do with
it. -/
def Attempt.site (a : Attempt) : UInt16 × Instruction Nibble := (a.before.pc, a.instruction)

/-- Whether an operation is refused. -/
def Effect.Fails {σ α : Type} (e : Effect σ α) : Prop := ∃ fault, e.outcome = .error fault

namespace Machine

variable {m : Machine} {i : Instruction Nibble} {op : Operation} {e : Effect Machine Answer}
  {fault : Fault} {frame : List UInt16}

/-! ## The stack as a list -/

/-- The instructions that an operation attempts, each with the program counter
that it finds. In a step, that one is past the instruction already. -/
def attempted (m : Machine) (op : Operation) : List (UInt16 × Instruction Nibble) :=
  (m.attempts op).map Attempt.site

theorem attempted_step_of_some (current : m.current? = some i) :
    m.attempted .step = [(addressAfter m.pc, i)] := by
  rw [attempted, attempts_step_of_some current]
  rfl

theorem attempted_step_of_none (current : m.current? = none) : m.attempted .step = [] := by
  rw [attempted, attempts_step_of_none current]
  rfl

/-- The return addresses in use after some instructions. -/
def callsAfterAll (calls : List UInt16) (attempts : List (UInt16 × Instruction Nibble)) :
    List UInt16 :=
  attempts.foldl (fun calls attempt => attempt.2.callsAfter attempt.1 calls) calls

/-- Time leaves the stack alone, so only the attempted instructions change
it. -/
theorem Leads.stack {n : Machine} {attempts : List Attempt} (leads : Leads m attempts n) :
    n.stack.toList = callsAfterAll m.stack.toList (attempts.map Attempt.site) := by
  induction leads with
  | nil elapsed => rw [elapsed]; rfl
  | @cons m n a rest elapsed later ih =>
      have same : a.before.stack = m.stack := by rw [elapsed]
      have now : a.after.stack.toList = a.instruction.callsAfter a.before.pc m.stack.toList := by
        rw [← same]
        exact stack_execute a.before a.instruction
      rw [ih, now]
      rfl

theorem stack_step (m : Machine) :
    m.step.state.stack.toList = callsAfterAll m.stack.toList (m.attempted .step) :=
  m.leads_step.stack

/-- An operation does to the return addresses in use what the instructions
that it attempts do, one after another; a reset has none in use. -/
theorem stack_perform? (does : m.perform? op = some e) :
    e.state.stack.toList =
      callsAfterAll (if op.isReset then [] else m.stack.toList) (m.attempted op) := by
  cases instructs : op.instructs with
  | true =>
      rw [Operation.isReset_of_instructs instructs]
      exact (leads_perform? instructs does).stack
  | false =>
      have rest := perform?_of_not_instructs instructs does
      rw [attempted, attempts_of_not_instructs m instructs]
      split at rest
      · next reset =>
          obtain ⟨memory, state⟩ := rest
          rw [state, if_pos reset]
          rfl
      · next reset =>
          obtain ⟨memory, display, keypad, state⟩ := rest
          rw [state, if_neg reset]
          rfl

/-! ## Refused calls and returns -/

theorem exists_refusal_call_iff {target : UInt16} :
    (∃ fault, Refusal m (.call target) fault) ↔ m.stack.toList.length = 16 := by
  constructor
  · rintro ⟨fault, refusal⟩
    cases refusal with
    | call target full => exact full
  · intro full
    exact ⟨_, .call target full⟩

theorem exists_refusal_ret_iff : (∃ fault, Refusal m .ret fault) ↔ m.stack.toList = [] := by
  constructor
  · rintro ⟨fault, refusal⟩
    cases refusal with
    | ret empty => exact empty
  · intro empty
    exact ⟨_, .ret empty⟩

theorem fails_execute_iff : (m.execute i).Fails ↔ ∃ fault, Refusal m i fault :=
  exists_congr fun _ => outcome_execute_error_iff

theorem fails_step_iff (current : m.current? = some i) :
    m.step.Fails ↔ ∃ fault, Refusal m i fault :=
  exists_congr fun _ => outcome_step_error_iff current

/-! ## Frames -/

theorem prefix_dropLast {calls : List UInt16} (below : frame <+: calls) (more : calls ≠ frame) :
    frame <+: calls.dropLast := by
  obtain ⟨above, rfl⟩ := below
  have used : above ≠ [] := by
    intro none
    exact more (by rw [none, List.append_nil])
  rw [List.dropLast_append_of_ne_nil used]
  exact List.prefix_append _ _

/-- Return addresses that are in use stay in use, below those that come on
top, until a return takes one of them. -/
theorem prefix_callsAfter {calls : List UInt16} (below : frame <+: calls) (pc : UInt16)
    (i : Instruction Nibble) :
    frame <+: i.callsAfter pc calls ∨ i = .ret ∧ calls = frame := by
  cases i with
  | ret =>
      by_cases top : calls = frame
      · exact .inr ⟨rfl, top⟩
      · exact .inl (prefix_dropLast below top)
  | call target =>
      left
      show frame <+: if _ then calls else calls ++ [pc]
      split
      · exact below
      · exact below.trans (List.prefix_append _ _)
  | _ => exact .inl below

theorem prefix_or_returns (below : frame <+: m.stack.toList) (play : op.InPlay)
    (does : m.perform? op = some e) :
    frame <+: e.state.stack.toList ∨
      op = .step ∧ m.current? = some .ret ∧ m.stack.toList = frame := by
  have stack := stack_perform? does
  cases play with
  | step =>
      cases current : m.current? with
      | none =>
          left
          rw [stack, attempted_step_of_none current]
          exact below
      | some i =>
          have after : e.state.stack.toList =
              i.callsAfter (addressAfter m.pc) m.stack.toList := by
            rw [stack, attempted_step_of_some current]
            rfl
          rw [after]
          rcases prefix_callsAfter below (addressAfter m.pc) i with stays | ⟨rfl, top⟩
          · exact .inl stays
          · exact .inr ⟨rfl, rfl, top⟩
  | load | setKey | releaseKeys | draw | wipe | markShown =>
      left
      rw [stack]
      exact below

/-- A return that finds an address goes there and takes it off. -/
theorem step_of_ret {calls : List UInt16} {target : UInt16} (current : m.current? = some .ret)
    (used : m.stack.toList = calls ++ [target]) :
    (∃ s, m.step.outcome = .ok s) ∧ m.step.state.stack.toList = calls ∧
      m.step.state.pc = target := by
  cases outcome : (m.advance.execute .ret).outcome with
  | error fault =>
      cases refusal_advance.1 (refusal_of_outcome outcome) with
      | ret empty => rw [used] at empty; simp at empty
  | ok progress =>
      have stack : m.step.state.stack.toList = calls := by
        rw [stack_step, used, attempted_step_of_some current]
        exact List.dropLast_concat
      refine ⟨?_, stack, ?_⟩
      · rw [step_of_executed current outcome]
        exact ⟨_, rfl⟩
      · rw [step_of_executed current outcome]
        show (m.advance.execute .ret).state.pc = target
        rw [pc_execute]
        show m.stack.toList.getLast?.getD _ = target
        rw [used, List.getLast?_concat]
        rfl

/-- A call that is not refused puts the address after it on top. -/
theorem step_of_call {target : UInt16} {s : Step} (current : m.current? = some (.call target))
    (succeeded : m.step.outcome = .ok s) :
    m.step.state.stack.toList = m.stack.toList ++ [addressAfter m.pc] := by
  have room : ¬ m.stack.toList.length = 16 := by
    intro full
    rw [(outcome_step_error_iff current).2 (.call target full)] at succeeded
    cases succeeded
  rw [stack_step, attempted_step_of_some current]
  exact if_neg room

end Machine

/-! ## Calls in a history -/

namespace Moment

/-- The return addresses in use after a moment, from those before. -/
def callsAfter (x : Moment) (calls : List UInt16) : List UInt16 :=
  Machine.callsAfterAll (if x.operation.isReset then [] else calls)
    (x.before.attempted x.operation)

/-- A step that carries out a call. -/
structure IsCall (x : Moment) : Prop where
  operation : x.operation = .step
  current : ∃ target, x.before.current? = some (.call target)
  succeeds : ∃ s, x.effect.outcome = .ok (.step s)

/-- A step that carries out a return. -/
structure IsReturn (x : Moment) : Prop where
  operation : x.operation = .step
  current : x.before.current? = some .ret
  succeeds : ∃ s, x.effect.outcome = .ok (.step s)

end Moment

namespace Machine

variable {m : Machine} {ops : List Operation} {history inner : List Moment} {c r : Moment}

/-- The stack at the end of a history is the list that its moments make of the
one at its beginning. -/
theorem stack_atEnd (run : m.history? ops = some history) :
    (m.atEnd history).stack.toList =
      history.foldl (fun calls x => x.callsAfter calls) m.stack.toList := by
  induction ops generalizing m history with
  | nil => cases run; rfl
  | cons op ops ih =>
      obtain ⟨e, rest, does, later, rfl⟩ := history?_cons_iff.1 run
      have now : e.state.stack.toList = Moment.callsAfter ⟨m, op, e⟩ m.stack.toList :=
        stack_perform? does
      rw [List.foldl_cons, ← now]
      exact ih later

/-- While no moment leaves the stack as deep as it was before a call, what was
in use then stays in use, with the return address on top. -/
theorem prefix_atEnd {calls : List UInt16} {back : UInt16} (run : m.history? ops = some inner)
    (play : ∀ x ∈ inner, x.operation.InPlay)
    (deep : ∀ x ∈ inner, x.after.stack.depth ≠ calls.length)
    (below : calls ++ [back] <+: m.stack.toList) :
    calls ++ [back] <+: (m.atEnd inner).stack.toList := by
  induction inner generalizing m ops with
  | nil => exact below
  | cons x rest ih =>
      cases ops with
      | nil => cases run
      | cons op ops =>
          obtain ⟨e, later, does, run, eq⟩ := history?_cons_iff.1 run
          cases eq
          have next : calls ++ [back] <+: e.state.stack.toList := by
            rcases prefix_or_returns below (play _ List.mem_cons_self) does with
              stays | ⟨rfl, current, top⟩
            · exact stays
            · -- a return from the call itself would leave the stack as deep as before
              cases does
              obtain ⟨_, stack, _⟩ := step_of_ret current top
              refine absurd ?_ (deep _ List.mem_cons_self)
              show m.step.state.stack.depth = _
              rw [← CallStack.length_toList, stack]
          exact ih run (fun x hx => play x (List.mem_cons_of_mem _ hx))
            (fun x hx => deep x (List.mem_cons_of_mem _ hx)) next

theorem outcome_map_step_iff {s : Step} :
    (m.step.map Answer.step).outcome = .ok (.step s) ↔ m.step.outcome = .ok s := by
  cases outcome : m.step.outcome <;> simp [Effect.map, outcome, Except.map]

/-- The first moment that leaves the stack as deep as it was before a call is
the return from it. -/
theorem returns_of_call {later : List Moment}
    (run : m.history? ops = some (c :: (inner ++ r :: later))) (call : c.IsCall)
    (play : ∀ x ∈ inner, x.operation.InPlay) (last : r.operation.InPlay)
    (deep : ∀ x ∈ inner, x.after.stack.depth ≠ c.before.stack.depth)
    (back : r.after.stack.depth = c.before.stack.depth) :
    r.IsReturn ∧ r.after.pc = addressAfter c.before.pc ∧
      r.after.stack.toList = c.before.stack.toList := by
  cases ops with
  | nil => cases run
  | cons op ops =>
      obtain ⟨e, rest, does, afterwards, eq⟩ := history?_cons_iff.1 run
      cases eq
      obtain ⟨rfl, ⟨target, current⟩, ⟨s, succeeds⟩⟩ := call
      cases does
      have pushed : m.step.state.stack.toList = m.stack.toList ++ [addressAfter m.pc] :=
        step_of_call current (outcome_map_step_iff.1 succeeds)
      obtain ⟨done, todo, rfl, first, second⟩ := history?_append afterwards
      have deeper : ∀ x ∈ inner, x.after.stack.depth ≠ m.stack.toList.length := by
        simpa using deep
      -- the return address is on top after the call and still in use at `r`
      have below := prefix_atEnd first play deeper (by rw [← pushed]; exact List.prefix_rfl)
      cases todo with
      | nil => cases second
      | cons op todo =>
          obtain ⟨e, rest, does, run, eq⟩ := history?_cons_iff.1 second
          cases eq
          rcases prefix_or_returns below last does with stays | ⟨rfl, returns, top⟩
          · have deeper := stays.length_le
            rw [List.length_append, CallStack.length_toList, CallStack.length_toList] at deeper
            have same : e.state.stack.depth = m.stack.depth := back
            simp only [List.length_singleton] at deeper
            omega
          · cases does
            obtain ⟨⟨s', outcome⟩, stack, pc⟩ := step_of_ret returns top
            exact ⟨⟨rfl, returns, s', outcome_map_step_iff.2 outcome⟩, pc, stack⟩

end Machine

/-- **Calls and returns are bracketed.** Whatever is in play after a call, the
first moment that leaves the stack as deep as it was before is a return, which
goes to the address after the call and leaves the older addresses as they
were. To programs the stack is a list of at most sixteen addresses, which only
calls, returns and resets change; a call is refused just if there are sixteen,
and a return just if there is none. Machines that differ in slots that are not
in use behave alike for ever. -/
theorem calls_are_bracketed (m : Machine) :
    (∀ ops earlier c inner r later,
      m.history? ops = some (earlier ++ c :: (inner ++ r :: later)) → c.IsCall →
      (∀ x ∈ inner, x.operation.InPlay) → r.operation.InPlay →
      (∀ x ∈ inner, x.after.stack.depth ≠ c.before.stack.depth) →
      r.after.stack.depth = c.before.stack.depth →
      r.IsReturn ∧ r.after.pc.toNat = (c.before.pc.toNat + 2) % 4096 ∧
        r.after.stack.toList = c.before.stack.toList) ∧
    (∀ ops history, m.history? ops = some history →
      (m.atEnd history).stack.toList.length ≤ 16 ∧
      (m.atEnd history).stack.toList =
        history.foldl (fun calls x => x.callsAfter calls) m.stack.toList) ∧
    (∀ target, (m.execute (.call target)).Fails ↔ m.stack.toList.length = 16) ∧
    ((m.execute .ret).Fails ↔ m.stack.toList = []) ∧
    (∀ target, m.current? = some (.call target) →
      (m.step.Fails ↔ m.stack.toList.length = 16)) ∧
    (m.current? = some .ret → (m.step.Fails ↔ m.stack.toList = [])) ∧
    (∀ n, m.Alike n → ∀ ops,
      Option.Rel (List.Forall₂ (Moment.Rel Machine.Alike)) (m.history? ops) (n.history? ops)) := by
  refine ⟨?_, ?_, ?_, ?_, ?_, ?_, ?_⟩
  · intro ops earlier c inner r later run call play last deep back
    obtain ⟨_, todo, _, _, rest⟩ := Machine.history?_append run
    obtain ⟨returns, pc, stack⟩ := Machine.returns_of_call rest call play last deep back
    refine ⟨returns, ?_, stack⟩
    rw [pc, Machine.toNat_addressAfter]
  · intro ops history run
    refine ⟨?_, Machine.stack_atEnd run⟩
    rw [CallStack.length_toList]
    exact (m.atEnd history).stack.depth_le
  · intro target
    rw [Machine.fails_execute_iff, Machine.exists_refusal_call_iff]
  · rw [Machine.fails_execute_iff, Machine.exists_refusal_ret_iff]
  · intro target current
    rw [Machine.fails_step_iff current, Machine.exists_refusal_call_iff]
  · intro current
    rw [Machine.fails_step_iff current, Machine.exists_refusal_ret_iff]
  · intro n alike ops
    exact Machine.hidden_alike.history? alike ops

/-- A program that calls, at 0x200, what calls in turn at 0x206, in a machine
with one call behind it and the given address left over in the other slots. -/
def nestedCalls (stale : UInt16) : Machine :=
  { ((Machine.ofSeed 8).load
      [0x22, 0x06, 0x12, 0x02, 0x00, 0x00, 0x22, 0x0A, 0x00, 0xEE, 0x00, 0xEE]).state with
    stack := ⟨(Vector.replicate 16 stale).set 0 0x300, 1, by decide⟩ }

/-- A step as a moment. -/
def Moment.ofStep (m : Machine) : Moment := ⟨m, .step, m.step.map .step⟩

/-- A key that goes down as a moment. -/
def Moment.ofKey (m : Machine) (key : Nibble) : Moment :=
  ⟨m, .setKey key.toByte true, ⟨.ok .done, { m with keypad := m.keypad.move key true }, []⟩⟩

/-- Two calls, one inside the other, and a key that goes down in between. The
second return is the first to leave the stack as deep as it was, and what is
in the other slots makes no difference. -/
theorem calls_are_bracketed_nested :
    let ops : List Operation := [.step, .step, .setKey 5 true, .step, .step]
    let c := Moment.ofStep (nestedCalls 0)
    let first := Moment.ofStep c.after
    let key := Moment.ofKey first.after 5
    let second := Moment.ofStep key.after
    let r := Moment.ofStep second.after
    (nestedCalls 0).history? ops = some [c, first, key, second, r] ∧ c.before.pc = 0x200 ∧
      r.IsReturn ∧ r.after.pc.toNat = 0x202 ∧ r.after.stack.toList = [0x300] ∧
      Option.Rel (List.Forall₂ (Moment.Rel Machine.Alike)) ((nestedCalls 0).history? ops)
        ((nestedCalls 0xFFF).history? ops) := by
  intro ops c first key second r
  have moments (m : Machine) :
      let c := Moment.ofStep m
      let first := Moment.ofStep c.after
      let key := Moment.ofKey first.after 5
      let second := Moment.ofStep key.after
      m.history? ops =
        some ([] ++ c :: ([first, key, second] ++ [Moment.ofStep second.after])) := rfl
  have run := moments (nestedCalls 0)
  have call : c.IsCall := by
    refine ⟨rfl, ⟨0x206, by decide +kernel⟩, ⟨.executed, false⟩, ?_⟩
    exact Machine.outcome_map_step_iff.2 (by decide +kernel)
  have play : ∀ x ∈ [first, key, second], x.operation.InPlay := by
    intro x hx
    simp only [List.mem_cons, List.not_mem_nil, or_false] at hx
    rcases hx with rfl | rfl | rfl
    · exact .step
    · exact .setKey 5 true
    · exact .step
  have deep : ∀ x ∈ [first, key, second], x.after.stack.depth ≠ c.before.stack.depth := by
    decide +kernel
  have back : r.after.stack.depth = c.before.stack.depth := by decide +kernel
  obtain ⟨returns, pc, stack⟩ :=
    (calls_are_bracketed (nestedCalls 0)).1 ops [] c _ r [] run call play .step deep back
  have begins : c.before.pc = 0x200 ∧ c.before.stack.toList = [0x300] := by decide +kernel
  rw [begins.1] at pc
  rw [begins.2] at stack
  have alike : (nestedCalls 0).Alike (nestedCalls 0xFFF) := ⟨by decide +kernel, rfl⟩
  exact ⟨run, begins.1, returns, pc, stack,
    (calls_are_bracketed (nestedCalls 0)).2.2.2.2.2.2 _ alike ops⟩

end Chip8
