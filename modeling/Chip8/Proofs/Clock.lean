import Chip8.Proofs.Calls
import Chip8.Proofs.Encoding
import Chip8.Proofs.Safety

/-!
# The delay timer counts steps

An instruction is carried out before the timers run. So what is put into the delay
timer is one less once the step is over, and what is read from it is not yet one
less. In between it loses one in every step that is survived, whatever comes of the
step (`delay_step_of_unset`), and nothing at any other time, so that it tells how
many steps there were (`delay_atEnd`).
-/

namespace Chip8

theorem Operation.InPlay.lands {op : Operation} (play : op.InPlay) : op.Lands := by
  cases play <;> trivial

/-- If this is a step, then it is survived and does not set the delay timer. -/
def Moment.LetsDelayRun (z : Moment) : Prop :=
  z.operation.isStep = true →
    z.effect.Survives ∧ ∀ x, z.before.nextWord ≠ .ofConstant 0xF x 0x15

instance (z : Moment) : Decidable z.LetsDelayRun :=
  inferInstanceAs (Decidable (_ → _ ∧ _))

namespace Machine

variable {m : Machine} {x y : Nibble} {op : Operation} {ops : List Operation}
  {e : Effect Machine Answer} {h : List Moment}

/-! ## One step -/

theorem delay_step_of_setDelay (current : m.current? = some (.setDelay x)) :
    m.step.state.delay.toNat = (m.reg x).toNat - 1 := by
  have ok : (m.advance.execute (.setDelay x)).outcome = .ok .executed := rfl
  rw [step_of_executed current ok]
  exact delay_tickTimers { m.advance with delay := m.reg x }

theorem step_of_readDelay (current : m.current? = some (.readDelay y)) :
    m.step.outcome = .ok ⟨.executed, m.endsTone⟩ ∧ m.step.state.reg y = m.delay := by
  have ok : (m.advance.execute (.readDelay y)).outcome = .ok .executed := rfl
  rw [step_of_executed current ok]
  exact ⟨rfl, (m.advance.reg_setReg y y m.delay).trans (if_pos rfl)⟩

theorem delay_step_of_unset (inside : m.pc.toNat < 4096) (survives : m.step.Survives)
    (unset : ∀ x, m.nextWord ≠ .ofConstant 0xF x 0x15) :
    m.step.state.delay.toNat = m.delay.toNat - 1 := by
  obtain ⟨i, current, state⟩ := step_of_survives inside survives
  have kept : (m.advance.execute i).state.delay = m.delay := by
    rw [delay_execute]
    cases i with
    | setDelay x =>
        have encoded := Instruction.encode_of_decode? (current?_eq_some_iff.1 current).2
        exact absurd encoded.symm (unset x)
    | _ => rfl
  rw [state, delay_tickTimers, kept]

/-! ## Many steps -/

theorem delay_perform? (bounds : m.InBounds) (play : op.InPlay) (does : m.perform? op = some e)
    (runs : Moment.LetsDelayRun ⟨m, op, e⟩) :
    e.state.delay.toNat = m.delay.toNat - if op.isStep then 1 else 0 := by
  cases play with
  | step =>
      cases does
      obtain ⟨survives, unset⟩ := runs rfl
      -- past the end of memory a step would be survived as well, and no time would pass
      have inside : m.pc.toNat < 4096 := Nat.lt_succ_of_le bounds.pc_le
      exact delay_step_of_unset inside (Effect.survives_map.1 survives) unset
  | load | setKey | releaseKeys | draw | wipe | markShown =>
      obtain ⟨memory, display, keypad, state⟩ := perform?_of_not_instructs rfl does
      rw [state]
      rfl

theorem delay_atEnd (bounds : m.InBounds) (play : ∀ op ∈ ops, op.InPlay)
    (run : m.history? ops = some h) (runs : ∀ z ∈ h, z.LetsDelayRun) :
    (m.atEnd h).delay.toNat = m.delay.toNat - ops.countP Operation.isStep := by
  induction ops generalizing m h with
  | nil => cases run; rfl
  | cons op ops ih =>
      obtain ⟨e, rest, does, later, rfl⟩ := history?_cons_iff.1 run
      have playNow := play op List.mem_cons_self
      have now := delay_perform? bounds playNow does (runs _ List.mem_cons_self)
      have afterwards := ih (bounds.perform_of_lands playNow.lands does)
        (fun op among => play op (List.mem_cons_of_mem _ among)) later
        (fun z among => runs z (List.mem_cons_of_mem _ among))
      rw [List.countP_cons]
      show (e.state.atEnd rest).delay.toNat = _
      omega

end Machine

/-- **The delay timer counts steps.** A step puts Vx into the delay timer. Then come
steps in any number, with keys moved and other things done in between; all of them
are survived, and none of them puts anything else into the timer. Each of these
steps takes one from the timer, unless it is at zero, and nothing else does. If the
`k`-th step after the first then reads the timer into Vy, it is done, and Vy is what
Vx was less `k`, or zero. -/
theorem delay_timer_counts_steps (m : Machine) (bounds : m.InBounds) (x : Nibble)
    (sets : m.nextWord = .ofConstant 0xF x 0x15) (ops : List Operation)
    (play : ∀ op ∈ ops, op.InPlay) :
    ∃ h, m.step.state.history? ops = some h ∧
      ((∀ z ∈ h, z.LetsDelayRun) →
        let n := m.step.state.atEnd h
        let k := ops.countP Operation.isStep + 1
        (∀ z ∈ h, z.after.delay.toNat =
          z.before.delay.toNat - if z.operation.isStep then 1 else 0) ∧
        n.delay.toNat = (m.reg x).toNat - k ∧
        ∀ y, n.nextWord = .ofConstant 0xF y 0x07 →
          n.step.outcome = .ok ⟨.executed, n.endsTone⟩ ∧
            (n.step.state.reg y).toNat = (m.reg x).toNat - k) := by
  have begins : m.step.state.delay.toNat = (m.reg x).toNat - 1 :=
    Machine.delay_step_of_setDelay
      (Machine.current?_of_encode bounds.pc_le trivial nofun nofun sets)
  have does : ∀ m op, Operation.InPlay op → ∃ e, Machine.perform? m op = some e :=
    fun m op play => m.exists_perform?_unless_written (by cases play <;> rfl)
  obtain ⟨h, run⟩ := Machine.exists_history? does m.step.state play
  refine ⟨h, run, ?_⟩
  intro runs n k
  have kept : ∀ m op e, Operation.InPlay op → Machine.InBounds m → m.perform? op = some e →
      e.state.InBounds := fun m op e play bounds does => bounds.perform_of_lands play.lands does
  obtain ⟨all, last⟩ := Machine.forall_history? kept bounds.step play run
  have left : n.delay.toNat = (m.reg x).toNat - k := by
    have counted := Machine.delay_atEnd bounds.step play run runs
    show (m.step.state.atEnd h).delay.toNat = _ - (ops.countP Operation.isStep + 1)
    rw [counted, begins]
    omega
  refine ⟨?_, left, ?_⟩
  · intro z among
    obtain ⟨playNow, effect, before, _⟩ := all z among
    exact Machine.delay_perform? before playNow effect (runs z among)
  · intro y reads
    have current : n.current? = some (.readDelay y) :=
      Machine.current?_of_encode last.pc_le trivial nofun nofun reads
    obtain ⟨outcome, value⟩ := Machine.step_of_readDelay current
    exact ⟨outcome, by rw [value, left]⟩

/-- The timer is set to nine. One step goes by over a number that is no key, one
waiting while no key is down, and one when a key came down. The next finds five
left. -/
theorem delay_timer_counts_steps_four :
    let program := [0xF0, 0x15, 0xE1, 0x9E, 0xF2, 0x0A, 0xF3, 0x07]
    let m := (((Machine.ofSeed 8).load program).state.setReg 0x0 9).setReg 0x1 0x10
    let ops : List Operation := [.step, .step, .setKey 0x42 true, .setKey 0x5 true, .step]
    ∃ h, m.step.state.history? ops = some h ∧ (∀ z ∈ h, z.LetsDelayRun) ∧
      ((m.step.state.atEnd h).step.state.reg 0x3).toNat = 5 := by
  intro program m ops
  have bounds : m.InBounds := by
    have loaded := (Machine.inBounds_withMemory .fresh (.ofSeed 8)).perform (.load program) rfl
    exact ⟨loaded.pc_le, loaded.depth_le, loaded.entry_le⟩
  have play : ∀ op ∈ ops, op.InPlay := by
    simp only [ops, List.forall_mem_cons, List.not_mem_nil, false_implies, implies_true, and_true]
    exact ⟨.step, .step, .setKey 0x42 true, .setKey 0x5 true, .step⟩
  have runs : ∀ h ∈ m.step.state.history? ops, (∀ z ∈ h, z.LetsDelayRun) ∧
      (m.step.state.atEnd h).nextWord = .ofConstant 0xF 0x3 0x07 := by decide +kernel
  obtain ⟨h, run, counts⟩ :=
    delay_timer_counts_steps m bounds 0x0 (by decide +kernel) ops play
  obtain ⟨each, reads⟩ := runs h run
  obtain ⟨_, _, reading⟩ := counts each
  refine ⟨h, run, each, ?_⟩
  rw [(reading 0x3 reads).2]
  decide +kernel

end Chip8
