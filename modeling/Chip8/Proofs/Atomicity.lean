import Chip8.Proofs.Safety
import Mathlib.Control.Monad.Basic

/-!
# Failed steps

A step that fails for good leaves no trace, so that every later one fails the
same way. A step that fails otherwise, and one that waits for a key, change
nothing but what time changes: both timers count down, and the failed one
leaves its instruction behind.
-/

namespace Chip8

namespace Machine

variable {m n : Machine} {i : Instruction Nibble} {fault : Fault}

/-- The machine after some steps, whatever came of them. -/
def steps (m : Machine) : Nat → Machine
  | 0 => m
  | count + 1 => m.step.state.steps count

/-- The second machine is the first one with both timers counted down: each is
one less, unless it was zero already. -/
structure CountedDown (m n : Machine) : Prop where
  delay : n.delay.toNat = m.delay.toNat - 1
  sound : n.sound.toNat = m.sound.toNat - 1
  rest : n = { m with delay := n.delay, sound := n.sound }

theorem countedDown_tickTimers (m : Machine) : m.CountedDown m.tickTimers :=
  ⟨delay_tickTimers m, sound_tickTimers m, rfl⟩

/-- A machine that a step leaves alone stays as it is. -/
theorem steps_of_fixed (fixed : m.step.state = m) (count : Nat) : m.steps count = m := by
  induction count with
  | zero => rfl
  | succ count ih =>
      rw [steps, fixed]
      exact ih

/-- The only refusal that is not fatal is that of a skip over a number that is
no key. -/
theorem Refusal.of_mild (refusal : Refusal m i fault) (mild : fault.isFatal = false) :
    ∃ x, (i = .skipKey x ∨ i = .skipNoKey x) ∧ 15 < (m.reg x).toNat ∧
      fault = .invalidKey (m.reg x) := by
  cases refusal with
  | ret => cases mild
  | call target => cases mild
  | skipKey x large => exact ⟨x, .inl rfl, large, rfl⟩
  | skipNoKey x large => exact ⟨x, .inr rfl, large, rfl⟩

end Machine

/-- **A failed step is atomic.** With the program counter in memory: a fatal
fault leaves the machine as it was, however often it is stepped again. Any
other fault is over a number that is no key, at a word `Ex9E` or `ExA1`, and
then, as in a step that waits for a key, only the timers count down; the
program counter is past the faulty word, and still on the waiting one. -/
theorem failed_step_is_atomic (m : Machine) (inside : m.pc.toNat ≤ 0xFFF) :
    (∀ fault, m.step.outcome = .error fault → fault.isFatal = true →
      m.step.state = m ∧
      ∀ count, m.steps count = m ∧ (m.steps count).step.outcome = .error fault) ∧
    (∀ fault, m.step.outcome = .error fault → fault.isFatal = false →
      ∃ word, m.fetch = .ok word ∧ word.family = 0xE ∧ (word.low = 0x9E ∨ word.low = 0xA1) ∧
        15 < (m.reg word.x).toNat ∧ fault = .invalidKey (m.reg word.x) ∧
        Machine.CountedDown { m with pc := UInt16.ofNat ((m.pc.toNat + 2) % 4096) }
          m.step.state) ∧
    (∀ s, m.step.outcome = .ok s → s.progress = .awaitingKey →
      m.CountedDown m.step.state) := by
  refine ⟨?_, ?_, ?_⟩
  · intro fault failed fatal
    have fixed := Machine.state_step_of_fatal failed fatal
    refine ⟨fixed, ?_⟩
    intro count
    have same := Machine.steps_of_fixed fixed count
    rw [same]
    exact ⟨rfl, failed⟩
  · intro fault failed mild
    rcases Machine.step_of_mild failed mild with ⟨past, _⟩ | ⟨i, current, refusal, eq⟩
    · -- past the end of memory, which `inside` rules out
      omega
    obtain ⟨below, decoded⟩ := Machine.current?_eq_some_iff.1 current
    obtain ⟨x, hi, large, hf⟩ := refusal.of_mild mild
    have fields := Instruction.of_decode?_skip decoded hi
    obtain ⟨family, low, rfl⟩ := fields
    refine ⟨m.nextWord, Machine.fetch_of_lt below, family, low, large, hf, ?_⟩
    rw [eq]
    exact Machine.countedDown_tickTimers m.advance
  · intro s succeeded waiting
    obtain ⟨i, current, ok, _, eq⟩ := Machine.step_of_ok succeeded
    obtain ⟨below, _⟩ := Machine.current?_eq_some_iff.1 current
    rw [waiting] at ok
    obtain ⟨⟨x, rfl⟩, nobody⟩ := Machine.outcome_execute_awaiting_iff.1 ok
    rw [eq, Machine.execute_advance_awaitKey below nobody]
    exact Machine.countedDown_tickTimers m

/-- A number that is no key, at a word that begins in the last byte of memory
and ends in the first, while a tone is sounding. -/
theorem failed_step_is_atomic_across_end :
    let memory := (Memory.blank.put 0xFFF 0xE1).put 0x000 0x9E
    let m := { Machine.ofSeed 8 with
      memory, pc := 0xFFF, sound := 2, registers := (Vector.replicate 16 0).set 1 0x10 }
    m.pc.toNat ≤ 0xFFF ∧ m.step.outcome = .error (.invalidKey 0x10) ∧
      Machine.CountedDown { m with pc := 0x001 } m.step.state := by
  intro memory m
  have inside : m.pc.toNat ≤ 0xFFF := by decide
  have failed : m.step.outcome = .error (.invalidKey 0x10) := by decide +kernel
  obtain ⟨_, _, _, _, _, _, left⟩ :=
    (failed_step_is_atomic m inside).2.1 (.invalidKey 0x10) failed rfl
  have wrapped : UInt16.ofNat ((m.pc.toNat + 2) % 4096) = 0x001 := by decide
  rw [wrapped] at left
  exact ⟨inside, failed, left⟩

end Chip8
