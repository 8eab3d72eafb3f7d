import Chip8.Host.Session
import Chip8.Proofs.Ticks

/-!
# Actions one after another

A run is so many ticks (`host_run`): the first fatal fault makes it fewer than
it was asked for. So the actions of a host come down to ticks, loads and
operations on the machine, and a property that these keep holds wherever a
list of actions leads (`invariant_after?`).

A halted host does nothing but repeat its fault (`ticks_of_halted`,
`run_of_halted`). A load has two ways to end, each with its whole effect
(`load_of_fits`, `load_of_too_large`), and what they have in common is said once
(`state_load`).
-/

namespace Chip8.Host

section Alone

variable {ι ω : Type} {h : Host ι ω}

theorem load_of_fits (h : Host ι ω) {program : List UInt8} (fits : program.length ≤ 3584) :
    h.load program =
      ⟨.ok (),
        { h with
          machine := { h.machine.coldReset with memory := Memory.fresh.place 0x200 program }
          halted := none },
        [.wasReset, .loaded program.length]⟩ := by
  have room : Memory.fresh.install program = .ok (Memory.fresh.place 0x200 program) :=
    if_pos fits
  have memory : h.machine.coldReset.memory = .fresh := rfl
  simp only [load, Machine.load, memory, room]

theorem load_of_too_large (h : Host ι ω) {program : List UInt8} (large : 3584 < program.length) :
    h.load program =
      ⟨.error (.programTooLarge program.length 3584),
        { h with
          machine := h.machine.coldReset
          halted := some (.programTooLarge program.length 3584) },
        [.wasReset, .loadFailed (.programTooLarge program.length 3584)]⟩ := by
  have refused : Memory.fresh.install program =
      .error (.programTooLarge program.length 3584) := if_neg (Nat.not_le.2 large)
  have memory : h.machine.coldReset.memory = .fresh := rfl
  simp only [load, Machine.load, memory, refused]
  rfl

/-- Whether it fits or not, all that a load leaves of a host are its devices and,
of the machine, what a cold reset leaves. -/
theorem state_load (h : Host ι ω) (program : List UInt8) :
    ∃ memory halted, (h.load program).state =
      { h with machine := { h.machine.coldReset with memory }, halted } := by
  rcases Nat.lt_or_ge 3584 program.length with large | fits
  · rw [load_of_too_large h large]
    exact ⟨_, _, rfl⟩
  · rw [load_of_fits h fits]
    exact ⟨_, _, rfl⟩

theorem operate?_eq_some_iff {op : Operation} {e : Effect (Host ι ω) Answer} :
    h.operate? op = some e ↔
      ∃ x, h.machine.perform? op = some x ∧
        e = ⟨x.outcome, { h with machine := x.state }, x.log⟩ := by
  rw [operate?, Option.map_eq_some_iff]
  constructor
  · rintro ⟨x, does, rfl⟩
    exact ⟨x, does, rfl⟩
  · rintro ⟨x, does, rfl⟩
    exact ⟨x, does, rfl⟩

end Alone

variable {ι ω : Type} [InputDevice ι] [OutputDevice ω] {h k : Host ι ω} {fault : Fault}

/-! ## Runs are ticks -/

/-- What ends a session is the fault that a tick halts a host over. -/
theorem Session.judge_eq (outcome : Except Fault Step) :
    judge outcome = match fatalOf outcome with
      | none => .ok ()
      | some fault => .error fault := by
  cases outcome with
  | ok s => rfl
  | error fault => cases fault <;> rfl

theorem Session.go_of_ended {s : Session ι ω} (ended : s.outcome = .error fault) (n : Nat) :
    s.go n = s := by
  cases n with
  | zero => rfl
  | succ n => simp only [go, ended]

theorem Session.go_succ_of_going {s : Session ι ω} (going : s.outcome = .ok ()) (n : Nat) :
    s.go (n + 1) = s.advance.go n := by
  simp only [go, going]

/-- A session ticks its host as often as it counts, and not more often than it
may. -/
theorem Session.host_go (s : Session ι ω) (n : Nat) :
    ∃ k ≤ n, (s.go n).host = s.host.ticks k ∧ (s.go n).ticks = s.ticks + k := by
  induction n generalizing s with
  | zero => exact ⟨0, Nat.le_refl 0, rfl, rfl⟩
  | succ n ih =>
      cases outcome : s.outcome with
      | error fault =>
          rw [go_of_ended outcome]
          exact ⟨0, Nat.zero_le _, rfl, rfl⟩
      | ok =>
          rw [go_succ_of_going outcome]
          obtain ⟨k, bound, host, count⟩ := ih s.advance
          refine ⟨k + 1, Nat.succ_le_succ bound, ?_, ?_⟩
          · rw [host]
            rfl
          · rw [count]
            show s.ticks + 1 + k = s.ticks + (k + 1)
            omega

theorem host_run (h : Host ι ω) (n : Nat) : (h.run n).host = h.ticks (h.run n).ticks := by
  obtain ⟨k, _, host, count⟩ := (Session.start h).host_go n
  rw [run, host, count]
  show h.ticks k = h.ticks (0 + k)
  rw [Nat.zero_add]

theorem ticks_of_halted (halted : h.halted = some fault) (n : Nat) : h.ticks n = h := by
  induction n with
  | zero => rfl
  | succ n ih => rw [ticks, tick_of_halted halted, ih]

/-- A run of a halted host makes one attempt at most, and nothing comes of
it. -/
theorem run_of_halted (halted : h.halted = some fault) (fatal : fault.isFatal = true) (n : Nat) :
    (h.run n).host = h ∧ (h.run n).log = #[] ∧
      (h.run n).outcome = if n = 0 then .ok () else .error fault := by
  cases n with
  | zero => exact ⟨rfl, rfl, rfl⟩
  | succ n =>
      have judged : Session.judge (.error fault) = .error fault := if_pos fatal
      have first : (Session.start h).advance = ⟨h, 1, .error fault, #[]⟩ := by
        rw [Session.advance, Session.start, tick_of_halted halted, judged]
        rfl
      have ended : h.run (n + 1) = ⟨h, 1, .error fault, #[]⟩ := by
        show (Session.start h).advance.go n = _
        rw [first]
        cases n <;> rfl
      rw [ended]
      exact ⟨rfl, rfl, rfl⟩

/-! ## Invariants -/

/-- The host after some actions. There is none where an action has no
answer. -/
def after? (h : Host ι ω) : List Action → Option (Host ι ω)
  | [] => some h
  | a :: rest => (h.perform? a).bind fun e => e.state.after? rest

variable {a : Action} {actions : List Action} {P : Host ι ω → Prop}

@[simp] theorem after?_nil (h : Host ι ω) : h.after? [] = some h := rfl

@[simp] theorem after?_tick (h : Host ι ω) (rest : List Action) :
    h.after? (.tick :: rest) = h.tick.state.after? rest := rfl

@[simp] theorem after?_run (h : Host ι ω) (n : Nat) (rest : List Action) :
    h.after? (.run n :: rest) = (h.run n).host.after? rest := rfl

@[simp] theorem after?_load (h : Host ι ω) (program : List UInt8) (rest : List Action) :
    h.after? (.load program :: rest) = (h.load program).state.after? rest := rfl

theorem after?_cons_iff :
    h.after? (a :: actions) = some k ↔
      ∃ e, h.perform? a = some e ∧ e.state.after? actions = some k := by
  rw [after?, Option.bind_eq_some_iff]

theorem ticks_keeps (tick : ∀ h, P h → P h.tick.state) (start : P h) (n : Nat) :
    P (h.ticks n) := by
  induction n generalizing h with
  | zero => exact start
  | succ n ih => exact ih (tick h start)

/-- What holds of a host and is kept by every tick, every load and every
operation on the machine, as far as these are allowed, holds after any allowed
actions. Runs need no mention: they are ticks. -/
theorem invariant_after? {Allowed : Action → Prop}
    (tick : ∀ h, P h → P h.tick.state)
    (load : ∀ h program, Allowed (.load program) → P h → P (h.load program).state)
    (operate : ∀ h op x, Allowed (.operate op) → P h → h.machine.perform? op = some x →
      P { h with machine := x.state })
    (start : P h) (allowed : ∀ a ∈ actions, Allowed a) (does : h.after? actions = some k) :
    P k := by
  induction actions generalizing h with
  | nil => cases does; exact start
  | cons a actions ih =>
      obtain ⟨e, did, later⟩ := after?_cons_iff.1 does
      have now : Allowed a := allowed a (by simp)
      refine ih ?_ (fun b hb => allowed b (by simp [hb])) later
      cases a with
      | tick => cases did; exact tick h start
      | run n =>
          cases did
          show P (h.run n).host
          rw [host_run]
          exact ticks_keeps tick start _
      | load program => cases did; exact load h program now start
      | operate op =>
          obtain ⟨x, does, rfl⟩ := operate?_eq_some_iff.1 did
          exact operate h op x now start does

end Chip8.Host
