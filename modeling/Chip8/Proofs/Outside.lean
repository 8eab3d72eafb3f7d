import Chip8.Proofs.Attempts
import Chip8.Proofs.Hidden

/-!
# Keys and chance

What comes to a program from outside are its keys and its random numbers. Three
instructions ask for a key and one for a random number; nothing else looks at
either (`SameInside.execute`), and a random number under an empty mask tells
nothing. So machines that are the `SameInside` stay so, whatever keys move on
one or the other and whatever both are made to do, for as long as one of them
attempts nothing that asks (`SameInside.histories`).
-/

namespace Chip8

/-- Whether an attempted instruction asks for something from outside: a random
number under a mask that lets some of it through, or a key. A number that is no
key is refused without a look at the keys. -/
def Attempt.asksOutside (a : Attempt) : Bool :=
  match a.instruction with
  | .random _ mask => mask ≠ 0
  | .skipKey x | .skipNoKey x => (a.before.reg x).toNat ≤ 15
  | .awaitKey _ => true
  | _ => false

/-- Whether an operation moves keys and nothing else. -/
def Operation.movesKeys : Operation → Bool
  | .setKey _ _ | .releaseKeys => true
  | _ => false

/-- Something that is done to two machines. -/
inductive Beat where
  /-- Keys move on the first machine only. -/
  | first (op : Operation) (keys : op.movesKeys = true)
  /-- Keys move on the second machine only. -/
  | second (op : Operation) (keys : op.movesKeys = true)
  /-- The same is done to both. -/
  | both (op : Operation)

/-- What is done to the first machine. -/
def Beat.first? : Beat → Option Operation
  | first op _ | both op => some op
  | second _ _ => none

/-- What is done to the second machine. -/
def Beat.second? : Beat → Option Operation
  | second op _ | both op => some op
  | first _ _ => none

/-- A history without what only moves keys. -/
def withoutKeys (h : List Moment) : List Moment := h.filter (!·.operation.movesKeys)

namespace Machine

variable {m n : Machine} {op : Operation} {e : Effect Machine Answer} {i : Instruction Nibble}

/-- The second machine is the first one, possibly with other random numbers and
other keys down. -/
def SameInside (m n : Machine) : Prop := ∃ random keypad, n = { m with random, keypad }

/-! ## Instructions -/

theorem SameInside.execute (same : m.SameInside n)
    (inside : Attempt.asksOutside ⟨m, i⟩ = false) :
    (m.execute i).Rel SameInside (n.execute i) := by
  obtain ⟨random, keypad, rfl⟩ := same
  cases i with
  | random x mask =>
      -- under an empty mask, any two words are the same
      have empty : mask = 0 := by simpa [Attempt.asksOutside] using inside
      simp only [Machine.execute, executed, empty, UInt8.and_zero]
      exact ⟨rfl, rfl, _, _, rfl⟩
  | skipKey x =>
      have large : 15 < (m.reg x).toNat := by simpa [Attempt.asksOutside] using inside
      rw [execute_of_refusal (.skipKey x large),
        execute_of_refusal (m := { m with random, keypad }) (.skipKey x large)]
      exact ⟨rfl, rfl, random, keypad, rfl⟩
  | skipNoKey x =>
      have large : 15 < (m.reg x).toNat := by simpa [Attempt.asksOutside] using inside
      rw [execute_of_refusal (.skipNoKey x large),
        execute_of_refusal (m := { m with random, keypad }) (.skipNoKey x large)]
      exact ⟨rfl, rfl, random, keypad, rfl⟩
  | awaitKey => cases inside
  | draw =>
      simp only [Machine.execute, spriteAt_eq, executed, setFlag, setReg]
      exact ⟨rfl, rfl, random, keypad, rfl⟩
  | ret =>
      simp only [Machine.execute]
      cases m.stack.pop? <;> exact ⟨rfl, rfl, random, keypad, rfl⟩
  | call target =>
      simp only [Machine.execute]
      cases m.stack.push? m.pc <;> exact ⟨rfl, rfl, random, keypad, rfl⟩
  | skipEq | skipNe | skipSame | skipDiffer =>
      simp only [Machine.execute, skipIf_eq]
      exact ⟨rfl, rfl, random, keypad, rfl⟩
  | storeDecimal | storeRegs | loadRegs =>
      simp only [Machine.execute, store_eq, loadEach_eq, executed]
      exact ⟨rfl, rfl, random, keypad, rfl⟩
  | _ => exact ⟨rfl, rfl, random, keypad, rfl⟩

theorem unseenAround_sameInside : UnseenAround SameInside where
  memory same := by obtain ⟨random, keypad, rfl⟩ := same; rfl
  pc same := by obtain ⟨random, keypad, rfl⟩ := same; rfl
  sound same := by obtain ⟨random, keypad, rfl⟩ := same; rfl
  moved pc same := by obtain ⟨random, keypad, rfl⟩ := same; exact ⟨random, keypad, rfl⟩
  tickTimers same := by obtain ⟨random, keypad, rfl⟩ := same; exact ⟨random, keypad, rfl⟩

theorem SameInside.step (same : m.SameInside n)
    (inside : ∀ a ∈ m.attempts .step, a.asksOutside = false) :
    m.step.Rel SameInside n.step := by
  apply unseenAround_sameInside.step same
  intro i current
  apply SameInside.execute (unseenAround_sameInside.advance same)
  apply inside
  rw [attempts_step_of_some current]
  exact List.mem_singleton_self _

/-! ## Instructions written by hand -/

/-- Which instruction is carried out for one written by hand depends on the
machine only if it waits for a key. -/
theorem resolve?_of_inside {written : Instruction UInt8}
    (resolved : m.resolve? written = some i) (inside : Attempt.asksOutside ⟨m, i⟩ = false)
    (n : Machine) : n.resolve? written = some i := by
  cases written with
  | awaitKey x =>
      have waits : ∃ y, i = .awaitKey y := by
        simp only [Machine.resolve?, Instruction.narrow?, Instruction.map] at resolved
        split at resolved
        · exact ⟨_, (Option.some.inj resolved).symm⟩
        · rw [Option.ite_none_right_eq_some] at resolved
          exact ⟨_, (Option.some.inj resolved.2).symm⟩
      obtain ⟨y, rfl⟩ := waits
      cases inside
  | _ => exact resolved

theorem executeWritten?_of_inside {written : Instruction UInt8}
    (resolved : m.resolve? written = some i) (inside : Attempt.asksOutside ⟨m, i⟩ = false)
    (n : Machine) : n.executeWritten? written = some (n.execute i) := by
  rw [executeWritten?, resolve?_of_inside resolved inside, Option.map_some]

theorem SameInside.executeAll? (same : m.SameInside n) {all : List (Instruction UInt8)}
    {e : Effect Machine Unit} (does : m.executeAll? all = some e)
    (inside : ∀ a ∈ m.attemptsAll all, a.asksOutside = false) :
    ∃ f, n.executeAll? all = some f ∧ e.Rel SameInside f := by
  induction all generalizing m n e with
  | nil =>
      cases does
      exact ⟨_, rfl, rfl, rfl, same⟩
  | cons written rest ih =>
      cases resolved : m.resolve? written with
      | none =>
          simp only [Machine.executeAll?, Machine.executeWritten?, resolved, Option.map_none,
            Option.bind_none, reduceCtorEq] at does
      | some i =>
          have now : Attempt.asksOutside ⟨m, i⟩ = false := by
            apply inside
            simp only [attemptsAll, resolved]
            split <;> simp
          have here := executeWritten?_of_inside resolved now m
          have there := executeWritten?_of_inside resolved now n
          obtain ⟨outcome, log, state⟩ := same.execute now
          simp only [Machine.executeAll?, here, Option.bind_some] at does
          simp only [Machine.executeAll?, there, Option.bind_some, ← outcome, ← log]
          cases ending : (m.execute i).outcome with
          | error fault =>
              rw [ending] at does
              cases does
              exact ⟨_, rfl, rfl, rfl, state⟩
          | ok progress =>
              rw [ending] at does
              simp only [Option.map_eq_some_iff] at does
              obtain ⟨r, later, rfl⟩ := does
              have next : ∀ a ∈ (m.execute i).state.attemptsAll rest,
                  a.asksOutside = false := by
                intro a among
                apply inside
                simp only [attemptsAll, resolved, ending]
                exact List.mem_cons_of_mem _ among
              obtain ⟨f, did, outcome, log, state⟩ := ih state later next
              refine ⟨{ f with log := (m.execute i).log ++ f.log }, ?_, outcome, ?_, state⟩
              · simp only [did, Option.map_some]
              · exact congrArg ((m.execute i).log ++ ·) log

/-! ## Operations -/

/-- What is done to both machines has the same results on both, unless one of
them asks. -/
theorem SameInside.perform? (same : m.SameInside n) (does : m.perform? op = some e)
    (inside : ∀ a ∈ m.attempts op, a.asksOutside = false) :
    ∃ f, n.perform? op = some f ∧ e.Rel SameInside f := by
  cases op with
  | step =>
      cases does
      exact ⟨_, rfl, (same.step inside).map _⟩
  | execute written =>
      simp only [Machine.perform?, Option.map_eq_some_iff] at does
      obtain ⟨first, did, rfl⟩ := does
      obtain ⟨i, resolved, rfl⟩ := Option.map_eq_some_iff.1 did
      have now : Attempt.asksOutside ⟨m, i⟩ = false := by
        apply inside
        simp [attempts, resolved]
      have there := executeWritten?_of_inside resolved now n
      refine ⟨(n.execute i).map .progress, ?_, (same.execute now).map _⟩
      simp only [Machine.perform?, there, Option.map_some]
  | executeWord word =>
      cases does
      simp only [Machine.perform?, executeWord]
      cases decoded : Instruction.decode? word with
      | none => exact ⟨_, rfl, rfl, rfl, same⟩
      | some i =>
          have now : Attempt.asksOutside ⟨m, i⟩ = false := by
            apply inside
            simp [attempts, decoded]
          exact ⟨_, rfl, (same.execute now).map _⟩
  | executeAll all =>
      simp only [Machine.perform?, Option.map_eq_some_iff] at does
      obtain ⟨first, did, rfl⟩ := does
      obtain ⟨f, there, related⟩ := same.executeAll? did inside
      refine ⟨f.map fun _ => .done, ?_, related.map _⟩
      simp only [Machine.perform?, there, Option.map_some]
  | load program =>
      obtain ⟨random, keypad, rfl⟩ := same
      cases does
      simp only [Machine.perform?, load]
      cases m.memory.install program with
      | ok memory => exact ⟨_, rfl, rfl, rfl, random, keypad, rfl⟩
      | error fault => exact ⟨_, rfl, rfl, rfl, random, keypad, rfl⟩
  | setKey key isDown =>
      obtain ⟨random, keypad, rfl⟩ := same
      simp only [Machine.perform?, Keypad.setPressed] at does ⊢
      cases named : Nibble.ofByte? key with
      | some pad =>
          simp only [named] at does ⊢
          cases does
          exact ⟨_, rfl, rfl, rfl, random, keypad.move pad isDown, rfl⟩
      | none =>
          simp only [named] at does ⊢
          cases does
          exact ⟨_, rfl, rfl, rfl, random, keypad, rfl⟩
  | reset | coldReset | releaseKeys =>
      obtain ⟨random, keypad, rfl⟩ := same
      cases does
      exact ⟨_, rfl, rfl, rfl, random, .released, rfl⟩
  | draw | wipe | markShown =>
      obtain ⟨random, keypad, rfl⟩ := same
      cases does
      exact ⟨_, rfl, rfl, rfl, random, keypad, rfl⟩

/-! ## Histories -/

/-- What only moves keys can be done to any machine, and leaves it the same
inside. -/
theorem sameInside_of_movesKeys (m : Machine) (keys : op.movesKeys = true) :
    ∃ e, m.perform? op = some e ∧ m.SameInside e.state := by
  cases op with
  | setKey key isDown =>
      exact ⟨_, m.perform?_setKey key isDown, m.random, _, rfl⟩
  | releaseKeys => exact ⟨_, rfl, m.random, .released, rfl⟩
  | _ => cases keys

theorem SameInside.symm (same : m.SameInside n) : n.SameInside m := by
  obtain ⟨random, keypad, rfl⟩ := same
  exact ⟨m.random, m.keypad, rfl⟩

theorem SameInside.trans {l : Machine} (first : l.SameInside m) (second : m.SameInside n) :
    l.SameInside n := by
  obtain ⟨_, _, rfl⟩ := first
  obtain ⟨random, keypad, rfl⟩ := second
  exact ⟨random, keypad, rfl⟩

theorem withoutKeys_of_movesKeys {x : Moment} {rest : List Moment}
    (keys : x.operation.movesKeys = true) : withoutKeys (x :: rest) = withoutKeys rest := by
  simp [withoutKeys, keys]

/-- Two histories, of machines that are the same inside, in which the same was
done but for the keys that moved, with the same results. -/
structure Together (m n : Machine) (h k : List Moment) : Prop where
  moments : List.Forall₂ (Moment.Rel SameInside) (withoutKeys h) (withoutKeys k)
  ends : (m.atEnd h).SameInside (n.atEnd k)

theorem Together.both {x y : Moment} {h k : List Moment} (same : x.Rel SameInside y)
    (later : Together x.after y.after h k) : Together m n (x :: h) (y :: k) := by
  refine ⟨?_, later.ends⟩
  have keys : y.operation.movesKeys = x.operation.movesKeys := by rw [same.operation]
  cases moves : x.operation.movesKeys with
  | true =>
      rw [withoutKeys_of_movesKeys moves, withoutKeys_of_movesKeys (keys.trans moves)]
      exact later.moments
  | false =>
      simp only [withoutKeys, List.filter_cons, keys, moves, Bool.not_false, if_true]
      exact .cons same later.moments

/-- Keys may move on the first machine alone. -/
theorem Together.first {x : Moment} {h k : List Moment} (keys : x.operation.movesKeys = true)
    (later : Together x.after n h k) : Together m n (x :: h) k := by
  refine ⟨?_, later.ends⟩
  rw [withoutKeys_of_movesKeys keys]
  exact later.moments

/-- Keys may move on the second machine alone. -/
theorem Together.second {y : Moment} {h k : List Moment} (keys : y.operation.movesKeys = true)
    (later : Together m y.after h k) : Together m n h (y :: k) := by
  refine ⟨?_, later.ends⟩
  rw [withoutKeys_of_movesKeys keys]
  exact later.moments

theorem SameInside.histories (same : m.SameInside n) (beats : List Beat) {h : List Moment}
    (run : m.history? (beats.filterMap Beat.first?) = some h)
    (inside : ∀ x ∈ h, ∀ a ∈ x.attempts, a.asksOutside = false) :
    ∃ k, n.history? (beats.filterMap Beat.second?) = some k ∧ Together m n h k := by
  induction beats generalizing m n h with
  | nil =>
      cases run
      exact ⟨[], rfl, .nil, same⟩
  | cons beat rest ih =>
      cases beat with
      | both op =>
          obtain ⟨e, later, does, ahead, rfl⟩ := history?_cons_iff.1 run
          obtain ⟨now, next⟩ := List.forall_mem_cons.1 inside
          obtain ⟨f, did, related⟩ := same.perform? does now
          obtain ⟨k, ran, together⟩ := ih related.state ahead next
          refine ⟨⟨n, op, f⟩ :: k, history?_cons_iff.2 ⟨f, k, did, ran, rfl⟩, ?_⟩
          exact .both ⟨same, rfl, related⟩ together
      | first op keys =>
          obtain ⟨e, later, does, ahead, rfl⟩ := history?_cons_iff.1 run
          obtain ⟨_, next⟩ := List.forall_mem_cons.1 inside
          obtain ⟨f, moves, moved⟩ := m.sameInside_of_movesKeys keys
          rw [does, Option.some.injEq] at moves
          subst moves
          obtain ⟨k, ran, together⟩ := ih (moved.symm.trans same) ahead next
          exact ⟨k, ran, .first keys together⟩
      | second op keys =>
          obtain ⟨f, moves, moved⟩ := n.sameInside_of_movesKeys keys
          obtain ⟨k, ran, together⟩ := ih (same.trans moved) run inside
          refine ⟨⟨n, op, f⟩ :: k, history?_cons_iff.2 ⟨f, k, moves, ran, rfl⟩, ?_⟩
          exact .second keys together

end Machine

/-- **Keys and chance matter only where a program asks.** Take two machines that
are the same but for their random numbers and the keys that are down, and do
the same to both, in any number and order, while keys move on either of them
by itself. As long as the first one attempts no instruction that asks for a
key, and none for a random number under a mask other than zero, everything
done to both has the same results on both, and they stay the same but for
random numbers and keys. There is a first history to begin with wherever
nothing is written by hand. -/
theorem keys_and_chance_stay_outside {m n : Machine} (same : m.SameInside n)
    (beats : List Beat) :
    (∀ h, m.history? (beats.filterMap Beat.first?) = some h →
      (∀ x ∈ h, ∀ a ∈ x.attempts, a.asksOutside = false) →
      ∃ k, n.history? (beats.filterMap Beat.second?) = some k ∧
        List.Forall₂ (Moment.Rel Machine.SameInside) (withoutKeys h) (withoutKeys k) ∧
        (m.atEnd h).SameInside (n.atEnd k)) ∧
    ((∀ op ∈ beats.filterMap Beat.first?, op.isWritten = false) →
      ∃ h, m.history? (beats.filterMap Beat.first?) = some h) := by
  constructor
  · intro h run inside
    obtain ⟨k, ran, together⟩ := same.histories beats run inside
    exact ⟨k, ran, together.moments, together.ends⟩
  · exact Machine.exists_history? (fun m _ known => m.exists_perform?_unless_written known) m

/-- A machine that nobody types at, and the same one with other random numbers
and key seven down. -/
def twins : Machine × Machine :=
  (.ofSeed 1,
    { Machine.ofSeed 1 with random := .ofSeed 2, keypad := Keypad.released.move 0x7 true })

/-- A program draws a random number under an empty mask, asks for key sixteen
and returns without having been called, and the machine starts over. Meanwhile
a key goes down on one machine and all are let go of on the other. -/
def sharedBeats : List Beat :=
  [.both (.load [0xC3, 0x00, 0x61, 0x10, 0xE1, 0x9E, 0x00, 0xEE]), .both .step,
    .first (.setKey 0x2 true) rfl, .both .step, .second .releaseKeys rfl, .both .step,
    .both .step, .both .reset]

/-- The machines draw different words and have different keys down, and nothing
that is done to both of them shows it. -/
theorem keys_and_chance_stay_outside_twins :
    ∃ h k, twins.1.history? (sharedBeats.filterMap Beat.first?) = some h ∧
      twins.2.history? (sharedBeats.filterMap Beat.second?) = some k ∧
      List.Forall₂ (Moment.Rel Machine.SameInside) (withoutKeys h) (withoutKeys k) ∧
      (withoutKeys h).length = 6 ∧ twins.1.random ≠ twins.2.random ∧
      twins.1.keypad ≠ twins.2.keypad := by
  have same : twins.1.SameInside twins.2 := ⟨_, _, rfl⟩
  have facts : (twins.1.history? (sharedBeats.filterMap Beat.first?)).map
      (fun h => (h.all fun x => x.attempts.all fun a => !a.asksOutside,
        (withoutKeys h).length)) = some (true, 6) := by
    decide +kernel
  obtain ⟨h, run, known⟩ := Option.map_eq_some_iff.1 facts
  obtain ⟨silent, length⟩ := Prod.mk.inj known
  have inside : ∀ x ∈ h, ∀ a ∈ x.attempts, a.asksOutside = false := by
    simpa [List.all_eq_true] using silent
  obtain ⟨k, ran, moments, _⟩ := (keys_and_chance_stay_outside same sharedBeats).1 h run inside
  refine ⟨h, k, run, ran, moments, length, ?_, ?_⟩
  · decide +kernel
  · decide +kernel

end Chip8
