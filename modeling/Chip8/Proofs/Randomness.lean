import Chip8.Proofs.Actions
import Chip8.Proofs.Attempts
import Chip8.Proofs.History

/-!
# Random numbers

Only `Cxnn` draws from the random numbers, and it takes one word each time
(`random_execute`). Instructions that are attempted are carried out: they lead
from the machine that an operation finds to the one that it leaves
(`Machine.CarriesOut`), and so it is with the ticks and actions of a host
(`Host.CarriesAll`). Wherever a machine is led, its generator is past as many
words as were drawn on the way, and each of them was stored, masked, in the
order of the stream (`Generator.Yields`). So the random numbers of a machine
are one stream from its seed on. Faults, waiting, loads and resets neither
leave a word out nor start the stream again.
-/

namespace Chip8

/-- A random number: the register it went to, its mask, and what the register
holds then. -/
structure Draw where
  register : Nibble
  mask : UInt8
  value : UInt8
  deriving DecidableEq

/-- The random number that an attempted instruction draws, if it does. -/
def Attempt.draw? (a : Attempt) : Option Draw :=
  match a.instruction with
  | .random x k => some ⟨x, k, a.after.reg x⟩
  | _ => none

/-- The random numbers that attempted instructions draw, in order. -/
def drawn (attempts : List Attempt) : List Draw := attempts.filterMap Attempt.draw?

theorem drawn_cons (a : Attempt) (rest : List Attempt) :
    drawn (a :: rest) = a.draw?.toList ++ drawn rest := by
  unfold drawn
  rw [List.filterMap_cons]
  cases a.draw? <;> rfl

theorem drawn_append (first second : List Attempt) :
    drawn (first ++ second) = drawn first ++ drawn second :=
  List.filterMap_append

/-! ## From one place in a stream to another -/

namespace Generator

variable {g g' g'' : Generator} {first second : List Draw}

/-- The draws that lead from one place in a stream to another: every word in
between is drawn once, in order, and its low byte is stored under the mask. -/
structure Yields (g : Generator) (draws : List Draw) (g' : Generator) : Prop where
  place : g' = ⟨g.key, g.position + draws.length⟩
  value (k : Nat) (hk : k < draws.length) :
    draws[k].value = (ChaCha.word g.key (g.position + k)).toUInt8 &&& draws[k].mask

theorem Yields.nil (g : Generator) : g.Yields [] g := by
  refine ⟨rfl, ?_⟩
  intro k hk
  exact absurd hk (Nat.not_lt_zero k)

theorem Yields.one (g : Generator) (x : Nibble) (mask : UInt8) :
    g.Yields [⟨x, mask, g.word.toUInt8 &&& mask⟩] g.next := by
  refine ⟨rfl, ?_⟩
  intro k hk
  have zero : k = 0 := Nat.lt_one_iff.1 hk
  subst zero
  rfl

theorem Yields.append (before : g.Yields first g') (after : g'.Yields second g'') :
    g.Yields (first ++ second) g'' := by
  obtain ⟨rfl, stored⟩ := before
  obtain ⟨rfl, storedLater⟩ := after
  constructor
  · rw [List.length_append, Nat.add_assoc]
  · intro k hk
    by_cases early : k < first.length
    · rw [List.getElem_append_left early]
      exact stored k early
    · have rest : k - first.length < second.length := by
        rw [List.length_append] at hk
        omega
      have position : g.position + first.length + (k - first.length) = g.position + k := by omega
      rw [List.getElem_append_right (Nat.not_lt.1 early), storedLater _ rest, position]

end Generator

/-! ## What draws on it -/

namespace Machine

variable {m n : Machine} {op : Operation} {e : Effect Machine Answer} {ops : List Operation}
  {history : List Moment} {attempts : List Attempt}

theorem yields_attempt (a : Attempt) :
    a.before.random.Yields a.draw?.toList a.after.random := by
  obtain ⟨m, i⟩ := a
  have random : (m.execute i).state.random = _ := m.random_execute i
  cases i with
  | random x mask =>
      have value : (m.execute (.random x mask)).state.reg x = m.random.word.toUInt8 &&& mask :=
        (reg_setReg _ x x _).trans (if_pos rfl)
      have draw : Attempt.draw? ⟨m, .random x mask⟩ =
          some ⟨x, mask, m.random.word.toUInt8 &&& mask⟩ := by
        rw [← value]
        rfl
      rw [draw, Attempt.after, random]
      exact .one m.random x mask
  | _ =>
      rw [Attempt.after, random]
      exact .nil m.random

/-- Time takes nothing from the stream, so only the attempted instructions
do. -/
theorem Leads.yields (leads : Leads m attempts n) : m.random.Yields (drawn attempts) n.random := by
  induction leads with
  | nil elapsed =>
      rw [elapsed]
      exact .nil _
  | @cons m n a rest elapsed later ih =>
      have same : a.before.random = m.random := by rw [elapsed]
      have now := yields_attempt a
      rw [same] at now
      rw [drawn_cons]
      exact now.append ih

/-- Starting over does not start the random numbers over. -/
theorem random_of_not_instructs (instructs : op.instructs = false)
    (does : m.perform? op = some e) : e.state.random = m.random := by
  have rest := perform?_of_not_instructs instructs does
  split at rest
  · obtain ⟨memory, state⟩ := rest
    rw [state]
    rfl
  · obtain ⟨memory, display, keypad, state⟩ := rest
    rw [state]

/-- An operation carries out what it attempts: the attempts lead from the
machine that it finds to the one that it leaves. Where it is none that carries
out instructions, the random numbers stay where they are. -/
structure CarriesOut (m : Machine) (op : Operation) (n : Machine) : Prop where
  leads (instructs : op.instructs = true) : m.Leads (m.attempts op) n
  rests (instructs : op.instructs = false) : n.random = m.random

theorem carriesOut_perform? (does : m.perform? op = some e) : m.CarriesOut op e.state where
  leads instructs := leads_perform? instructs does
  rests instructs := random_of_not_instructs instructs does

theorem CarriesOut.yields (carried : m.CarriesOut op n) :
    m.random.Yields (drawn (m.attempts op)) n.random := by
  cases instructs : op.instructs with
  | true => exact (carried.leads instructs).yields
  | false =>
      rw [attempts_of_not_instructs m instructs, carried.rests instructs]
      exact .nil m.random

theorem yields_history? (run : m.history? ops = some history) :
    m.random.Yields (drawn (history.flatMap Moment.attempts)) (m.atEnd history).random := by
  induction ops generalizing m history with
  | nil =>
      cases run
      exact .nil m.random
  | cons op ops ih =>
      obtain ⟨e, rest, does, later, rfl⟩ := history?_cons_iff.1 run
      have now : m.random.Yields (drawn (m.attempts op)) e.state.random :=
        (carriesOut_perform? does).yields
      rw [List.flatMap_cons, drawn_append]
      exact now.append (ih later)

end Machine

namespace Host

theorem random_load {ι ω : Type} (h : Host ι ω) (program : List UInt8) :
    (h.load program).state.machine.random = h.machine.random := by
  obtain ⟨_, _, state⟩ := h.state_load program
  rw [state]
  rfl

variable {ι ω : Type} [InputDevice ι] [OutputDevice ω] {h k : Host ι ω} {a : Action}
  {actions : List Action}

/-- The instruction that a tick attempts, if it gets that far. -/
def attemptsOfTick (h : Host ι ω) : List Attempt :=
  match h.halted with
  | some _ => []
  | none => h.polled.attempts .step

/-- The instructions that some ticks attempt. -/
def attemptsOfTicks (h : Host ι ω) : Nat → List Attempt
  | 0 => []
  | n + 1 => h.attemptsOfTick ++ h.tick.state.attemptsOfTicks n

/-- The instructions that an action attempts. -/
def attempts (h : Host ι ω) : Action → List Attempt
  | .tick => h.attemptsOfTick
  | .run n => h.attemptsOfTicks (h.run n).ticks
  | .load _ => []
  | .operate op => h.machine.attempts op

/-- The instructions that some actions attempt. -/
def attemptsIn (h : Host ι ω) : List Action → List Attempt
  | [] => []
  | a :: rest =>
    h.attempts a ++
      match h.perform? a with
      | some e => e.state.attemptsIn rest
      | none => []

/-- From the one host to the other a step is carried out on the machine with
its keys polled, and its display is noted as shown. A halted host stays as it
is. -/
def CarriesTick (h k : Host ι ω) : Prop :=
  match h.halted with
  | some _ => k = h
  | none => ∃ m, h.polled.CarriesOut .step m ∧
      k.machine = { m with display := m.display.shown }

/-- From the one host to the other so many ticks are carried out. -/
def CarriesTicks (h : Host ι ω) : Nat → Host ι ω → Prop
  | 0, k => k = h
  | n + 1, k => h.CarriesTick h.tick.state ∧ h.tick.state.CarriesTicks n k

/-- From the one host to the other an action is carried out. -/
def Carries (h : Host ι ω) : Action → Host ι ω → Prop
  | .tick, k => h.CarriesTick k
  | .run n, k => h.CarriesTicks (h.run n).ticks k
  | .load _, k => k.machine.random = h.machine.random
  | .operate op, k => h.machine.CarriesOut op k.machine

/-- From the one host to the other, actions are carried out one after
another. -/
def CarriesAll (h : Host ι ω) : List Action → Host ι ω → Prop
  | [], k => k = h
  | a :: rest, k => ∃ e, h.perform? a = some e ∧ h.Carries a e.state ∧ e.state.CarriesAll rest k

theorem carriesTick (h : Host ι ω) : h.CarriesTick h.tick.state := by
  unfold CarriesTick
  cases halted : h.halted with
  | some fault => rw [tick_of_halted halted]
  | none =>
      have does : h.polled.perform? .step = some (h.polled.step.map .step) := rfl
      exact ⟨h.polled.step.state, Machine.carriesOut_perform? does, machine_tick halted⟩

theorem carriesTicks (h : Host ι ω) (n : Nat) : h.CarriesTicks n (h.ticks n) := by
  induction n generalizing h with
  | zero => rfl
  | succ n ih => exact ⟨h.carriesTick, ih h.tick.state⟩

theorem carries_perform? {e : Effect (Host ι ω) Answer} (does : h.perform? a = some e) :
    h.Carries a e.state := by
  cases a with
  | tick =>
      cases does
      exact h.carriesTick
  | run n =>
      cases does
      show h.CarriesTicks _ (h.run n).host
      rw [host_run]
      exact h.carriesTicks _
  | load program =>
      cases does
      exact h.random_load program
  | operate op =>
      obtain ⟨x, did, rfl⟩ := operate?_eq_some_iff.1 does
      exact Machine.carriesOut_perform? did

theorem carriesAll_after? (does : h.after? actions = some k) : h.CarriesAll actions k := by
  induction actions generalizing h with
  | nil =>
      cases does
      rfl
  | cons a actions ih =>
      obtain ⟨e, did, later⟩ := after?_cons_iff.1 does
      exact ⟨e, did, carries_perform? did, ih later⟩

omit [OutputDevice ω] in
theorem CarriesTick.yields (carried : h.CarriesTick k) :
    h.machine.random.Yields (drawn h.attemptsOfTick) k.machine.random := by
  unfold CarriesTick at carried
  unfold attemptsOfTick
  cases halted : h.halted with
  | some fault =>
      simp only [halted] at carried
      rw [carried]
      exact .nil _
  | none =>
      simp only [halted] at carried
      obtain ⟨m, stepped, machine⟩ := carried
      rw [machine]
      exact stepped.yields

theorem CarriesTicks.yields {n : Nat} (carried : h.CarriesTicks n k) :
    h.machine.random.Yields (drawn (h.attemptsOfTicks n)) k.machine.random := by
  induction n generalizing h with
  | zero =>
      obtain rfl := carried
      exact .nil _
  | succ n ih =>
      obtain ⟨now, later⟩ := carried
      rw [attemptsOfTicks, drawn_append]
      exact now.yields.append (ih later)

theorem Carries.yields (carried : h.Carries a k) :
    h.machine.random.Yields (drawn (h.attempts a)) k.machine.random := by
  cases a with
  | tick => exact CarriesTick.yields carried
  | run n => exact CarriesTicks.yields carried
  | load program =>
      have same : k.machine.random = h.machine.random := carried
      rw [same]
      exact .nil _
  | operate op => exact Machine.CarriesOut.yields carried

theorem CarriesAll.yields (carried : h.CarriesAll actions k) :
    h.machine.random.Yields (drawn (h.attemptsIn actions)) k.machine.random := by
  induction actions generalizing h with
  | nil =>
      obtain rfl := carried
      exact .nil _
  | cons a actions ih =>
      obtain ⟨e, did, now, later⟩ := carried
      simp only [attemptsIn, did, drawn_append]
      exact now.yields.append (ih later)

end Host

/-- The draws are the stream of a seed from its beginning, and lead to a place
in it: the draw with number `k` stores, under its mask, the low byte of word
`k`, which is word `k mod 16` of block `k div 16`, and the place is after as
many words as there are draws. -/
structure StreamOf (seed : UInt64) (draws : List Draw) (place : Generator) : Prop where
  value (k : Nat) (hk : k < draws.length) :
    draws[k].value =
      (ChaCha.block (.ofSeed seed) (k / 16))[k % 16].toUInt8 &&& draws[k].mask
  place : place = ⟨.ofSeed seed, draws.length⟩

theorem streamOf_of_yields {seed : UInt64} {draws : List Draw} {place : Generator}
    (yields : (Generator.ofSeed seed).Yields draws place) : StreamOf seed draws place := by
  obtain ⟨rfl, value⟩ := yields
  have beginning (k : Nat) : (Generator.ofSeed seed).position + k = k := Nat.zero_add k
  constructor
  · intro k hk
    rw [value k hk, beginning]
    rfl
  · rw [beginning]
    rfl

/-- **Random numbers are one stream.** Let anything be done to a machine that
was made from a seed, on its own or by a host: the random numbers that its
instructions draw are the stream of that seed, one word each and none left out
or repeated, and the generator is past these words and no others. These
instructions are what really happens: from one machine to the next, at every
operation and every tick, they are carried out and only time passes besides. -/
theorem random_numbers_are_one_stream (seed : UInt64) :
    (∀ ops history, (Machine.ofSeed seed).history? ops = some history →
      StreamOf seed (drawn (history.flatMap Moment.attempts))
        ((Machine.ofSeed seed).atEnd history).random ∧
      ∀ x ∈ history, x.before.CarriesOut x.operation x.after) ∧
    ∀ {ι ω : Type} [InputDevice ι] [OutputDevice ω] (input : ι) (output : ω) (pacing : Pacing)
      (actions : List Host.Action) (h : Host ι ω),
      (Host.new (.ofSeed seed) input output pacing).after? actions = some h →
      StreamOf seed (drawn ((Host.new (.ofSeed seed) input output pacing).attemptsIn actions))
        h.machine.random ∧
      (Host.new (.ofSeed seed) input output pacing).CarriesAll actions h := by
  constructor
  · intro ops history run
    refine ⟨streamOf_of_yields (Machine.yields_history? run), ?_⟩
    intro x among
    exact Machine.carriesOut_perform? (Machine.perform?_of_mem_history? run among)
  · intro ι ω _ _ input output pacing actions h does
    have carried := Host.carriesAll_after? does
    exact ⟨streamOf_of_yields carried.yields, carried⟩

/-- A program draws and waits for a key, the machine starts over, and four
instructions are carried out by hand: a draw under an empty mask, a fault over
a key that there is not, and a draw that the fault keeps from its turn. The
last draw comes after another load. -/
def drawingActions : List Host.Action :=
  [.load [0xC0, 0xFF, 0xF3, 0x0A], .run 3, .operate .reset,
    .operate (.executeAll [.random 1 0x00, .setConst 4 0x10, .skipKey 4, .random 6 0xFF]),
    .load [0xC0, 0xFF], .operate (.execute (.random 5 0x0F))]

/-- A host with a machine made from seed eight and nobody to type. -/
def seededHost : Host NoInput Recorder := .new (.ofSeed 8) ⟨⟩ .empty .usual

/-- Three words are drawn in all this, the second one for nothing, and the last
one ends in `D`. The machine has the first one in `V0` after the first run, and
the last one in `V5` at the end. -/
theorem random_numbers_are_one_stream_eight :
    ∃ h, seededHost.after? drawingActions = some h ∧
      StreamOf 8 (drawn (seededHost.attemptsIn drawingActions)) h.machine.random ∧
      seededHost.CarriesAll drawingActions h ∧
      h.machine.random.position = 3 ∧
      (drawn (seededHost.attemptsIn drawingActions)).map (fun d => (d.register, d.mask)) =
        [(0, 0xFF), (1, 0x00), (5, 0x0F)] ∧
      (seededHost.after? (drawingActions.take 2)).map (fun k => k.machine.reg 0) =
        (drawn (seededHost.attemptsIn drawingActions))[0]?.map Draw.value ∧
      (drawn (seededHost.attemptsIn drawingActions))[2]?.map Draw.value = some 0x0D ∧
      h.machine.reg 5 = 0x0D := by
  have reached : (seededHost.after? drawingActions).map (fun h => h.machine.reg 5) =
      some 0x0D := by decide +kernel
  obtain ⟨h, does, register⟩ := Option.map_eq_some_iff.1 reached
  have places : (drawn (seededHost.attemptsIn drawingActions)).map
      (fun d => (d.register, d.mask)) = [(0, 0xFF), (1, 0x00), (5, 0x0F)] := by
    decide +kernel
  have first : (seededHost.after? (drawingActions.take 2)).map (fun k => k.machine.reg 0) =
      (drawn (seededHost.attemptsIn drawingActions))[0]?.map Draw.value := by decide +kernel
  have last : (drawn (seededHost.attemptsIn drawingActions))[2]?.map Draw.value =
      some 0x0D := by decide +kernel
  have count := congrArg List.length places
  rw [List.length_map] at count
  obtain ⟨stream, carried⟩ := (random_numbers_are_one_stream 8).2 _ _ _ _ h does
  have place := stream.place
  change h.machine.random = ⟨_, (drawn (seededHost.attemptsIn drawingActions)).length⟩ at place
  rw [count] at place
  exact ⟨h, does, stream, carried, congrArg Generator.position place, places, first, last,
    register⟩

end Chip8
