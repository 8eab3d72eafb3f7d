import Chip8.Proofs.Atomicity
import Chip8.Proofs.Ticks

/-!
# Tones

The sound timer is counted down after the instruction of a step, and a tone is
due when it was at one (`finishesTone`). A tick that succeeds asks the output
for that tone. A tick whose instruction is refused over a number that is no
key counts the timers down as well, but what it answers is the fault, which has
no room for a tone: one that is due on such a tick is never heard
(`losesTone`).
-/

namespace Chip8

namespace Machine

variable {m : Machine} {i : Instruction Nibble} {fault : Fault}

/-- The sound timer as a step that counts it down finds it, after the
instruction. A step that finds no instruction or is undone counts nothing. -/
def soundCounted? (m : Machine) : Option UInt8 :=
  match m.current? with
  | none => none
  | some i =>
    match (m.advance.execute i).outcome with
    | .ok _ => some (m.advance.execute i).state.sound
    | .error fault =>
      if fault.isFatal then none else some (m.advance.execute i).state.sound

/-- Whether the current instruction asks for a key by a number that is none. -/
def asksForNoKey (m : Machine) : Bool :=
  match m.current? with
  | some (.skipKey x) | some (.skipNoKey x) => 15 < (m.reg x).toNat
  | _ => false

theorem soundCounted?_of_current_none (nothing : m.current? = none) : m.soundCounted? = none := by
  simp only [soundCounted?, nothing]

theorem soundCounted?_of_refusal (current : m.current? = some i) (refusal : Refusal m i fault) :
    m.soundCounted? = if fault.isFatal then none else some m.sound := by
  have stays := execute_of_refusal (refusal_advance.2 refusal)
  simp only [soundCounted?, current, stays, refused]
  rfl

theorem soundCounted?_of_ok {progress : Progress} (current : m.current? = some i)
    (ok : (m.advance.execute i).outcome = .ok progress) :
    m.soundCounted? = some (m.advance.execute i).state.sound := by
  simp only [soundCounted?, current, ok]

theorem asksForNoKey_of_current_none (nothing : m.current? = none) : m.asksForNoKey = false := by
  simp only [asksForNoKey, nothing]

/-- Asking for a key that there is not is the one refusal that is not fatal. -/
theorem asksForNoKey_of_refusal (current : m.current? = some i) (refusal : Refusal m i fault) :
    m.asksForNoKey = !fault.isFatal := by
  cases refusal with
  | ret | call => simp only [asksForNoKey, current]; rfl
  | skipKey x large | skipNoKey x large =>
      simp only [asksForNoKey, current, large, decide_true]
      rfl

theorem refusal_of_asksForNoKey (asks : m.asksForNoKey = true) :
    ∃ i fault, m.current? = some i ∧ Refusal m i fault ∧ fault.isFatal = false := by
  unfold asksForNoKey at asks
  split at asks
  · next x current => exact ⟨_, _, current, .skipKey x (of_decide_eq_true asks), rfl⟩
  · next x current => exact ⟨_, _, current, .skipNoKey x (of_decide_eq_true asks), rfl⟩
  · cases asks

theorem soundCounted?_of_asksForNoKey (asks : m.asksForNoKey = true) :
    m.soundCounted? = some m.sound := by
  obtain ⟨i, fault, current, refusal, mild⟩ := refusal_of_asksForNoKey asks
  rw [soundCounted?_of_refusal current refusal, mild]
  rfl

theorem asksForNoKey_of_ok {progress : Progress} (current : m.current? = some i)
    (ok : (m.advance.execute i).outcome = .ok progress) : m.asksForNoKey = false := by
  by_contra asks
  obtain ⟨j, fault, current', refusal, _⟩ := refusal_of_asksForNoKey (by simpa using asks)
  rw [current, Option.some.injEq] at current'
  subst current'
  rw [execute_of_refusal (refusal_advance.2 refusal)] at ok
  cases ok

/-- What `soundCounted?` finds is what the step counts down. -/
theorem sound_step_of_counted {v : UInt8} (counted : m.soundCounted? = some v) :
    m.step.state.sound.toNat = v.toNat - 1 := by
  cases m.step_cases with
  | nowhere past eq =>
      rw [soundCounted?_of_current_none (current?_of_le past)] at counted
      cases counted
  | unknown inside undecoded eq =>
      rw [soundCounted?_of_current_none (current?_of_undecoded undecoded)] at counted
      cases counted
  | undone i fault current refusal fatal eq =>
      rw [soundCounted?_of_refusal current refusal, fatal] at counted
      cases counted
  | passed i fault current refusal mild eq =>
      rw [soundCounted?_of_refusal current refusal, mild] at counted
      cases counted
      rw [eq]
      exact sound_tickTimers m.advance
  | carried i progress current ok eq =>
      rw [soundCounted?_of_ok current ok] at counted
      cases counted
      rw [eq]
      exact sound_tickTimers _

/-- A tone is due when the timer is at one. It is reported by a step that
succeeds, and otherwise the instruction asked for a key that there is not. -/
theorem count_toneOf_step (m : Machine) :
    (Host.toneOf m.step.outcome).count .beep +
        (m.asksForNoKey && decide (m.sound = 1)).toNat =
      (decide (m.soundCounted? = some 1)).toNat := by
  cases m.step_cases with
  | nowhere past eq =>
      have nothing := current?_of_le past
      rw [asksForNoKey_of_current_none nothing, soundCounted?_of_current_none nothing, eq]
      rfl
  | unknown inside undecoded eq =>
      have nothing := current?_of_undecoded undecoded
      rw [asksForNoKey_of_current_none nothing, soundCounted?_of_current_none nothing, eq]
      rfl
  | undone i fault current refusal fatal eq =>
      rw [asksForNoKey_of_refusal current refusal, soundCounted?_of_refusal current refusal,
        fatal, eq]
      rfl
  | passed i fault current refusal mild eq =>
      -- the one case in which a tone that is due has nowhere to be reported
      rw [asksForNoKey_of_refusal current refusal, soundCounted?_of_refusal current refusal,
        mild, eq]
      simp [Host.toneOf]
  | carried i progress current ok eq =>
      rw [asksForNoKey_of_ok current ok, soundCounted?_of_ok current ok, eq]
      by_cases one : (m.advance.execute i).state.sound = 1 <;>
        simp [Host.toneOf, endsTone, one]

end Machine

namespace Host

section Counting

variable {ι ω : Type} [InputDevice ι]

/-- Whether a tick counts the sound timer down from one. -/
def finishesTone (h : Host ι ω) : Bool :=
  h.halted.isNone && decide (h.polled.soundCounted? = some 1)

/-- Whether a tick is refused over a number that is no key while the sound
timer is at one. -/
def losesTone (h : Host ι ω) : Bool :=
  h.halted.isNone && (h.polled.asksForNoKey && decide (h.machine.sound = 1))

theorem count_beep_tickRequests (h : Host ι ω) :
    h.tickRequests.count .beep + h.losesTone.toNat = h.finishesTone.toNat := by
  cases halted : h.halted with
  | some fault => simp [tickRequests_of_halted halted, losesTone, finishesTone, halted]
  | none =>
      have silent : (frameOf h.polled.step.state).count .beep = 0 := by
        unfold frameOf
        split <;> simp
      rw [tickRequests_of_awake halted, List.count_append, silent, Nat.zero_add, losesTone,
        finishesTone, halted]
      exact h.polled.count_toneOf_step

end Counting

variable {ι ω : Type} [InputDevice ι] [OutputDevice ω]

/-- Over any number of ticks, every tone that is due is asked for or lost. -/
theorem count_beep_requests (h : Host ι ω) (n : Nat) :
    (h.requests n).count .beep + (List.range n).countP (fun k => (h.ticks k).losesTone) =
      (List.range n).countP fun k => (h.ticks k).finishesTone := by
  induction n generalizing h with
  | zero => rfl
  | succ n ih =>
      have now := h.count_beep_tickRequests
      have later := ih h.tick.state
      rw [requests, List.count_append, countP_range_succ, countP_range_succ]
      show _ + (h.losesTone.toNat + _) = h.finishesTone.toNat + _
      simp only [ticks]
      omega

end Host

/-- **Tones that are heard and tones that are lost.** A tick of a host that is
not halted asks its output for a tone once if the sound timer is at one when
the step counts it down, unless the instruction asks for a key by a number
that is none; otherwise it asks for none. Either way the timer is counted
down. Over any number of ticks the tones asked for are those due, less those
lost that way, and any output is in the state that the requests bring it to. -/
theorem tones_heard_or_lost {ι ω : Type} [InputDevice ι] [OutputDevice ω] (h : Host ι ω) :
    (h.halted = none →
      h.tickRequests.count .beep =
        if h.polled.soundCounted? = some 1 ∧ ¬ h.polled.asksForNoKey then 1 else 0) ∧
    (h.halted = none → ∀ v, h.polled.soundCounted? = some v →
      h.tick.state.machine.sound.toNat = v.toNat - 1) ∧
    (∀ n, (h.requests n).count .beep + (List.range n).countP (fun k => (h.ticks k).losesTone) =
      (List.range n).countP fun k => (h.ticks k).finishesTone) ∧
    (∀ n, (h.ticks n).output = (h.requests n).foldl Request.on h.output) := by
  refine ⟨?_, ?_, h.count_beep_requests, h.output_ticks⟩
  · intro awake
    have tones := h.count_beep_tickRequests
    rw [Host.losesTone, Host.finishesTone, awake] at tones
    cases asks : h.polled.asksForNoKey with
    | false =>
        rw [asks] at tones
        by_cases due : h.polled.soundCounted? = some 1 <;> simpa [due] using tones
    | true =>
        -- an instruction that asks for a key has left the timer as it was
        have same : h.polled.soundCounted? = some h.machine.sound :=
          Machine.soundCounted?_of_asksForNoKey asks
        rw [asks, same] at tones
        by_cases one : h.machine.sound = 1 <;> simpa [one] using tones
  · intro awake v counted
    rw [Host.sound_tick awake]
    exact Machine.sound_step_of_counted counted

/-- A program with two tones. The first one ends in a step that sets a
register, the second one in a step that asks for key sixteen. -/
def twoTones : Host NoInput Recorder :=
  ((Host.new (.ofSeed 1) ⟨⟩ .empty .usual).load
    [0x60, 0x02, 0xF0, 0x18, 0x61, 0x10, 0xF0, 0x18, 0xE1, 0x9E]).state

/-- The first tone is heard and the second one is lost. -/
theorem tones_heard_or_lost_two :
    (twoTones.ticks 2).halted = none ∧ (twoTones.ticks 2).tickRequests.count .beep = 1 ∧
      (twoTones.requests 5).count .beep + 1 = 2 := by
  have awake : (twoTones.ticks 2).halted = none := by decide +kernel
  have heard := (tones_heard_or_lost (twoTones.ticks 2)).1 awake
  have due : (twoTones.ticks 2).polled.soundCounted? = some 1 ∧
      ¬ (twoTones.ticks 2).polled.asksForNoKey := by decide +kernel
  rw [if_pos due] at heard
  have total := (tones_heard_or_lost twoTones).2.2.1 5
  have lost : ((List.range 5).countP fun k => (twoTones.ticks k).losesTone) = 1 := by
    decide +kernel
  have finished : ((List.range 5).countP fun k => (twoTones.ticks k).finishesTone) = 2 := by
    decide +kernel
  rw [lost, finished] at total
  exact ⟨awake, heard, total⟩

/-- The tick that loses the second tone: it steps, its fault is not fatal, the
sound timer goes from one to zero, and the output is asked for no tone. -/
theorem second_tone_is_lost :
    let h := twoTones.ticks 4
    h.halted = none ∧ h.tick.outcome = .error (.invalidKey 0x10) ∧
      (Fault.invalidKey 0x10).isFatal = false ∧ h.polled.soundCounted? = some 1 ∧
      h.tick.state.machine.sound = 0 ∧ h.tickRequests.count .beep = 0 ∧
      h.tick.state.output.beeps = h.output.beeps := by
  decide +kernel

end Chip8
