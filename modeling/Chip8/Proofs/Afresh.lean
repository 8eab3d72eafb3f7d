import Chip8.Proofs.Halt
import Chip8.Proofs.Placing

/-!
# Starting afresh

A load leaves nothing of what a host has done before but its devices and its
place in the stream of random numbers. Two hosts that agree in these, whatever
they have been through and whatever else their devices are, are `Matched` from
the load on: what is done to both has the same answers, writes the same log,
asks the same of the outputs and leaves the same machine (`turns?_load`).

What a load makes of memory is said by `Memory.Holds`.
-/

namespace Chip8

/-! ## What memory holds -/

namespace Memory

/-- Memory holds the font, a program where programs go, and zero everywhere
else. -/
structure Holds (m : Memory) (program : List UInt8) : Prop where
  font : m.slice 0 80 = Font.bytes
  loaded : m.slice 0x200 program.length = program
  rest (a : Address) (afterFont : 80 ≤ a.val)
    (apart : a.val < 0x200 ∨ 0x200 + program.length ≤ a.val) : m.byteAt a = 0

theorem holds_fresh : fresh.Holds [] where
  font := slice_place blank Font.start (by decide)
  loaded := rfl
  rest a afterFont _ := by
    have past : a.past Font.start = a.val := Address.past_of_le (Nat.zero_le a.val)
    have alone : fresh.byteAt a = blank.byteAt a := by
      apply byteAt_place_of_le blank (by decide)
      rw [past]
      exact afterFont
    rw [alone, byteAt_blank]

/-- A program of at most 3584 bytes does not reach round to the font. -/
theorem holds_place {program : List UInt8} (fits : program.length ≤ 3584) :
    (fresh.place 0x200 program).Holds program := by
  have short : program.length ≤ 4096 := by omega
  have apart {a : Address} (outside : a.val < 0x200 ∨ 0x200 + program.length ≤ a.val) :
      (fresh.place 0x200 program).byteAt a = fresh.byteAt a := by
    apply byteAt_place_of_le fresh short
    rcases outside with before | after
    · rw [Address.past_of_lt before (by decide)]
      omega
    · rw [Address.past_of_le (by omega)]
      omega
  refine ⟨?_, slice_place fresh 0x200 short, ?_⟩
  · rw [← holds_fresh.font]
    apply List.map_congr_left
    intro k inside
    have bound : k < 80 := List.mem_range.1 inside
    apply apart
    left
    show (0 + k) % 4096 < 0x200
    omega
  · intro a afterFont outside
    rw [apart outside]
    exact holds_fresh.rest a afterFont (Nat.lt_or_ge _ _)

end Memory

/-! ## Inputs that deliver the same -/

namespace InputDevice

variable {ι κ : Type} [InputDevice ι] [InputDevice κ] {i : ι} {j : κ}

/-- What an input makes of the keypads that it is given on successive polls. -/
def answers {ι : Type} [InputDevice ι] (i : ι) : List Keypad → List Keypad
  | [] => []
  | keypad :: rest => (poll i keypad).2 :: answers (poll i keypad).1 rest

/-- Two inputs, of one kind or two, that deliver the same from now on. -/
def Agree (i : ι) (j : κ) : Prop := ∀ keypads, answers i keypads = answers j keypads

theorem Agree.poll (agree : Agree i j) (keypad : Keypad) :
    (poll i keypad).2 = (poll j keypad).2 ∧ Agree (poll i keypad).1 (poll j keypad).1 := by
  constructor
  · exact (List.cons.inj (agree [keypad])).1
  · intro keypads
    exact (List.cons.inj (agree (keypad :: keypads))).2

/-- Inputs agree if they are related in a way that polls keep and that makes
them answer alike. -/
theorem agree_of_kept {r : ι → κ → Prop}
    (kept : ∀ i j keypad, r i j →
      (poll i keypad).2 = (poll j keypad).2 ∧ r (poll i keypad).1 (poll j keypad).1)
    (start : r i j) : Agree i j := by
  intro keypads
  induction keypads generalizing i j with
  | nil => rfl
  | cons keypad rest ih =>
      obtain ⟨now, next⟩ := kept i j keypad start
      rw [answers, answers, now, ih next]

end InputDevice

/-- A script whose moves have all been made is no input. -/
theorem Script.agree_of_ended {s : Script} (ended : ∀ move ∈ s.moves, move.poll < s.polls) :
    InputDevice.Agree NoInput.mk s := by
  refine InputDevice.agree_of_kept
    (r := fun (_ : NoInput) (s : Script) => ∀ move ∈ s.moves, move.poll < s.polls) ?_ ended
  intro _ s keypad ended
  have nothing : s.moves.filter (·.poll = s.polls) = [] := by
    rw [List.filter_eq_nil_iff]
    intro move among
    simpa using Nat.ne_of_lt (ended move among)
  constructor
  · show keypad = (s.moves.filter (·.poll = s.polls)).foldl Script.apply keypad
    rw [nothing]
    rfl
  · intro move among
    exact Nat.lt_succ_of_lt (ended move among)

namespace Host

/-! ## What is seen of a host -/

section Seen

variable {ι ω : Type} [InputDevice ι] [OutputDevice ω] {h k : Host ι ω} {a : Action}
  {actions : List Action}

/-- What an action asks of the output. -/
def asked (h : Host ι ω) : Action → List Request
  | .tick => h.tickRequests
  | .run n => h.requests (h.run n).ticks
  | .load _ | .operate _ => []

/-- All that can be seen of an action: its answer, its log, what it asks of
the output, and the machine and the halt that it leaves. -/
structure Turn where
  outcome : Except Fault Answer
  log : List Event
  requests : List Request
  machine : Machine
  halted : Option Fault

/-- The turns of some actions. There are none where an action has no answer. -/
def turns? (h : Host ι ω) : List Action → Option (List Turn)
  | [] => some []
  | a :: rest =>
    (h.perform? a).bind fun e =>
      (e.state.turns? rest).map
        (⟨e.outcome, e.log, h.asked a, e.state.machine, e.state.halted⟩ :: ·)

theorem output_perform? {e : Effect (Host ι ω) Answer} (does : h.perform? a = some e) :
    e.state.output = (h.asked a).foldl Request.on h.output := by
  cases a with
  | tick => cases does; exact output_tick h
  | run n =>
      cases does
      show (h.run n).host.output = _
      rw [host_run]
      exact output_ticks h _
  | load program =>
      cases does
      show (h.load program).state.output = h.output
      obtain ⟨_, _, state⟩ := h.state_load program
      rw [state]
  | operate op =>
      obtain ⟨x, _, rfl⟩ := operate?_eq_some_iff.1 does
      rfl

/-- Turns lead somewhere, and by then the output is in the state that their
requests bring it to. -/
theorem after?_of_turns? {turns : List Turn} (taken : h.turns? actions = some turns) :
    ∃ k, h.after? actions = some k ∧
      k.output = (turns.flatMap Turn.requests).foldl Request.on h.output := by
  induction actions generalizing h turns with
  | nil => cases taken; exact ⟨h, rfl, rfl⟩
  | cons a actions ih =>
      simp only [turns?, Option.bind_eq_some_iff, Option.map_eq_some_iff] at taken
      obtain ⟨e, does, rest, later, rfl⟩ := taken
      obtain ⟨k, leads, output⟩ := ih later
      refine ⟨k, after?_cons_iff.2 ⟨e, does, leads⟩, ?_⟩
      rw [output, output_perform? does, List.flatMap_cons, List.foldl_append]

end Seen

/-! ## Hosts that cannot be told apart -/

section Matching

variable {ι κ ω ψ : Type} [InputDevice ι] [InputDevice κ] {h : Host ι ω} {k : Host κ ψ}
  {α β : Type}

/-- Hosts, perhaps with devices of different kinds, whose machines and halts
are the same and whose inputs deliver the same. -/
structure Matched (h : Host ι ω) (k : Host κ ψ) : Prop where
  machine : h.machine = k.machine
  halted : h.halted = k.halted
  input : InputDevice.Agree h.input k.input

/-- The same comes of something done to each of two hosts, and they match
afterwards. -/
structure SameEffect (e : Effect (Host ι ω) α) (f : Effect (Host κ ψ) α) : Prop where
  outcome : e.outcome = f.outcome
  log : e.log = f.log
  state : e.state.Matched f.state

theorem SameEffect.map {e : Effect (Host ι ω) α} {f : Effect (Host κ ψ) α}
    (same : SameEffect e f) (g : α → β) : SameEffect (e.map g) (f.map g) := by
  refine ⟨?_, same.log, same.state⟩
  show e.outcome.map g = f.outcome.map g
  rw [same.outcome]

theorem Matched.polled (matched : h.Matched k) : h.polled = k.polled := by
  have keypad := (matched.input.poll h.machine.keypad).1
  rw [Host.polled, Host.polled, keypad, matched.machine]

/-- All that a load keeps of a machine are its random numbers. -/
theorem sameEffect_load (random : h.machine.random = k.machine.random)
    (inputs : InputDevice.Agree h.input k.input) (program : List UInt8) :
    SameEffect (h.load program) (k.load program) := by
  have reset (m : Machine) : m.coldReset =
      { Machine.withMemory .fresh m.random with display := .wiped } := rfl
  have machine : h.machine.coldReset = k.machine.coldReset := by
    rw [reset, reset, random]
  rcases Nat.lt_or_ge 3584 program.length with large | fits
  · rw [load_of_too_large h large, load_of_too_large k large, machine]
    exact ⟨rfl, rfl, rfl, rfl, inputs⟩
  · rw [load_of_fits h fits, load_of_fits k fits, machine]
    exact ⟨rfl, rfl, rfl, rfl, inputs⟩

theorem Matched.operate? (matched : h.Matched k) (op : Operation) :
    Option.Rel SameEffect (h.operate? op) (k.operate? op) := by
  simp only [Host.operate?, ← matched.machine]
  cases h.machine.perform? op with
  | none => exact .none
  | some x => exact .some ⟨rfl, rfl, rfl, matched.halted, matched.input⟩

theorem Matched.tickRequests (matched : h.Matched k) : h.tickRequests = k.tickRequests := by
  cases halted : h.halted with
  | some fault =>
      rw [tickRequests_of_halted halted, tickRequests_of_halted (matched.halted.symm.trans halted)]
  | none =>
      have awake : k.halted = none := matched.halted.symm.trans halted
      rw [tickRequests_of_awake halted, tickRequests_of_awake awake, matched.polled]

variable [OutputDevice ω] [OutputDevice ψ]

theorem Matched.tick (matched : h.Matched k) : SameEffect h.tick k.tick := by
  cases halted : h.halted with
  | some fault =>
      rw [tick_of_halted halted, tick_of_halted (matched.halted.symm.trans halted)]
      exact ⟨rfl, rfl, matched⟩
  | none =>
      have awake : k.halted = none := matched.halted.symm.trans halted
      have polled := matched.polled
      refine ⟨?_, ?_, ?_, ?_, ?_⟩
      · rw [outcome_tick halted, outcome_tick awake, polled]
      · rw [log_tick halted, log_tick awake, polled]
      · rw [machine_tick halted, machine_tick awake, polled]
      · rw [halted_tick halted, halted_tick awake, polled]
      · rw [input_tick halted, input_tick awake, ← matched.machine]
        exact (matched.input.poll h.machine.keypad).2

theorem Matched.requests (matched : h.Matched k) (n : Nat) : h.requests n = k.requests n := by
  induction n generalizing h k with
  | zero => rfl
  | succ n ih => rw [Host.requests, Host.requests, matched.tickRequests, ih matched.tick.state]

/-- Sessions in which the same has happened to hosts that match. -/
structure Session.Matched (s : Session ι ω) (t : Session κ ψ) : Prop where
  host : s.host.Matched t.host
  ticks : s.ticks = t.ticks
  outcome : s.outcome = t.outcome
  log : s.log = t.log

theorem Session.Matched.advance {s : Session ι ω} {t : Session κ ψ} (matched : s.Matched t) :
    s.advance.Matched t.advance := by
  have ticked := matched.host.tick
  refine ⟨ticked.state, ?_, ?_, ?_⟩
  · exact congrArg (· + 1) matched.ticks
  · exact congrArg judge ticked.outcome
  · show s.log ++ s.host.tick.log = t.log ++ t.host.tick.log
    rw [matched.log, ticked.log]

theorem Session.Matched.go {s : Session ι ω} {t : Session κ ψ} (matched : s.Matched t)
    (n : Nat) : (s.go n).Matched (t.go n) := by
  induction n generalizing s t with
  | zero => exact matched
  | succ n ih =>
      cases outcome : s.outcome with
      | error fault =>
          rw [go_of_ended outcome, go_of_ended (matched.outcome.symm.trans outcome)]
          exact matched
      | ok =>
          rw [go_succ_of_going outcome, go_succ_of_going (matched.outcome.symm.trans outcome)]
          exact ih matched.advance

theorem Matched.run (matched : h.Matched k) (n : Nat) : (h.run n).Matched (k.run n) :=
  Session.Matched.go (s := .start h) (t := .start k) ⟨matched, rfl, rfl, rfl⟩ n

theorem Matched.perform? (matched : h.Matched k) (a : Action) :
    Option.Rel SameEffect (h.perform? a) (k.perform? a) ∧ h.asked a = k.asked a := by
  cases a with
  | tick => exact ⟨.some (matched.tick.map _), matched.tickRequests⟩
  | run n =>
      have run := matched.run n
      constructor
      · refine .some ⟨?_, ?_, run.host⟩
        · show (h.run n).outcome.map _ = (k.run n).outcome.map _
          rw [run.outcome]
        · show (h.run n).log.toList = (k.run n).log.toList
          rw [run.log]
      · show h.requests (h.run n).ticks = k.requests (k.run n).ticks
        rw [run.ticks, matched.requests]
  | load program =>
      have random : h.machine.random = k.machine.random := by rw [matched.machine]
      exact ⟨.some ((sameEffect_load random matched.input program).map _), rfl⟩
  | operate op => exact ⟨matched.operate? op, rfl⟩

theorem turns?_cons {a : Action} (actions : List Action)
    (effects : Option.Rel SameEffect (h.perform? a) (k.perform? a))
    (asked : h.asked a = k.asked a)
    (later : ∀ (h' : Host ι ω) (k' : Host κ ψ), h'.Matched k' →
      h'.turns? actions = k'.turns? actions) :
    h.turns? (a :: actions) = k.turns? (a :: actions) := by
  simp only [turns?, asked]
  generalize h.perform? a = x, k.perform? a = y at effects
  cases effects with
  | none => rfl
  | @some e f same =>
      simp only [Option.bind_some, same.outcome, same.log, same.state.machine, same.state.halted]
      rw [later e.state f.state same.state]

theorem Matched.turns? (matched : h.Matched k) (actions : List Action) :
    h.turns? actions = k.turns? actions := by
  induction actions generalizing h k with
  | nil => rfl
  | cons a actions ih =>
      obtain ⟨effects, asked⟩ := matched.perform? a
      exact turns?_cons actions effects asked fun _ _ => ih

/-- From a load on, nothing but the random numbers and the inputs matters. -/
theorem turns?_load (random : h.machine.random = k.machine.random)
    (inputs : InputDevice.Agree h.input k.input) (program : List UInt8)
    (actions : List Action) :
    h.turns? (.load program :: actions) = k.turns? (.load program :: actions) := by
  have loaded := (sameEffect_load random inputs program).map fun _ => Answer.done
  exact turns?_cons actions (.some loaded) rfl fun _ _ matched => matched.turns? actions

end Matching

theorem holds_load {ι ω : Type} (h : Host ι ω) (program : List UInt8) :
    (h.load program).state.machine.memory.Holds
      (if program.length ≤ 3584 then program else []) := by
  split
  · next fits => rw [load_of_fits h fits]; exact Memory.holds_place fits
  · next large => rw [load_of_too_large h (Nat.not_le.1 large)]; exact Memory.holds_fresh

end Host

/-- **Nothing survives a load** but the devices and the place in the stream of
random numbers. Take any two hosts that agree in this place and whose inputs
deliver the same from now on, and load a program on both. Whatever is done to
them from then on is the same turn for turn, the load included: answers, log,
frames and tones, machine and halt; and frames and tones are all that the
outputs get. If the program has room, memory holds it and the font and nothing
else, and the host is not halted; otherwise memory holds the font alone, and
the host is halted. -/
theorem nothing_survives_a_load {ι κ ω ψ : Type} [InputDevice ι] [InputDevice κ]
    [OutputDevice ω] [OutputDevice ψ] (h : Host ι ω) (k : Host κ ψ)
    (random : h.machine.random = k.machine.random)
    (inputs : InputDevice.Agree h.input k.input) (program : List UInt8) :
    (∀ actions, h.turns? (.load program :: actions) = k.turns? (.load program :: actions)) ∧
    (∀ actions turns, h.turns? (.load program :: actions) = some turns →
      ∃ h' k', h.after? (.load program :: actions) = some h' ∧
        k.after? (.load program :: actions) = some k' ∧
        h'.output = (turns.flatMap (·.requests)).foldl Request.on h.output ∧
        k'.output = (turns.flatMap (·.requests)).foldl Request.on k.output) ∧
    (if program.length ≤ 3584 then
      (h.load program).outcome = .ok () ∧ (h.load program).state.halted = none ∧
        (h.load program).state.machine.memory.Holds program
    else
      (h.load program).outcome = .error (.programTooLarge program.length 3584) ∧
        (h.load program).state.halted = some (.programTooLarge program.length 3584) ∧
        (h.load program).state.machine.memory.Holds []) := by
  have same := Host.turns?_load random inputs program
  refine ⟨same, ?_, ?_⟩
  · intro actions turns taken
    obtain ⟨h', leads, output⟩ := Host.after?_of_turns? taken
    rw [same] at taken
    obtain ⟨k', leads', output'⟩ := Host.after?_of_turns? taken
    exact ⟨h', k', leads, leads', output, output'⟩
  · have ending := h.halted_load program
    have holds := h.holds_load program
    split
    · next fits =>
        rw [if_pos fits] at ending holds
        exact ⟨ending.1, ending.2, holds⟩
    · next large =>
        rw [if_neg large] at ending holds
        exact ⟨ending.1, ending.2, holds⟩

/-- A host whose program draws a random number and then returns without having
been called. -/
def lostAfterDraw : Host NoInput Recorder :=
  ((Host.new (.ofSeed 1) ⟨⟩ .empty .usual).load [0xC3, 0xFF, 0x00, 0xEE]).state

/-- A host with a program that waits for a key, which goes down at once. -/
def typedAt : Host Script Journal :=
  ((Host.new (.ofSeed 1) (.start [⟨0, 0x7, true⟩]) ⟨[]⟩ ⟨0⟩).load [0xF4, 0x0A]).state

/-- One host is halted. The machine of the other is past the end of memory, has
a call to return from and a key held down. Both have drawn one random number,
and after a load there is no telling them apart. -/
theorem nothing_survives_a_load_used :
    ∃ h k, lostAfterDraw.after? [.run 9] = some h ∧
      typedAt.after? [.tick, .operate (.execute (.random 2 0x0F)),
        .operate (.draw 60 30 [0xFF]), .operate (.execute (.call 0x300)),
        .operate (.execute (.jump 0x1000))] = some k ∧
      h.halted = some .stackUnderflow ∧ k.machine.keypad.holds 0x7 = true ∧
      k.machine.pc = 0x1000 ∧
      ∀ actions, h.turns? (.load [0xD0, 0x05] :: actions) =
        k.turns? (.load [0xD0, 0x05] :: actions) := by
  have lost : (lostAfterDraw.after? [.run 9]).map (fun h => (h.halted, h.machine.random)) =
      some (some .stackUnderflow, (Generator.ofSeed 1).next) := by decide +kernel
  have typed : (typedAt.after? [.tick, .operate (.execute (.random 2 0x0F)),
      .operate (.draw 60 30 [0xFF]), .operate (.execute (.call 0x300)),
      .operate (.execute (.jump 0x1000))]).map
        (fun k => (k.machine.keypad.holds 0x7, k.machine.pc, k.machine.random, k.input)) =
      some (true, 0x1000, (Generator.ofSeed 1).next, ⟨[⟨0, 0x7, true⟩], 1⟩) := by
    decide +kernel
  obtain ⟨h, leads, facts⟩ := Option.map_eq_some_iff.1 lost
  obtain ⟨k, leads', facts'⟩ := Option.map_eq_some_iff.1 typed
  simp only [Prod.mk.injEq] at facts facts'
  obtain ⟨halted, random⟩ := facts
  obtain ⟨held, past, random', script⟩ := facts'
  have inputs : InputDevice.Agree h.input k.input := by
    apply Script.agree_of_ended
    rw [script]
    decide
  exact ⟨h, k, leads, leads', halted, held, past,
    (nothing_survives_a_load h k (random.trans random'.symm) inputs [0xD0, 0x05]).1⟩

end Chip8
