import Chip8.Proofs.Actions
import Chip8.Proofs.Note
import Mathlib.Control.Monad.Basic

/-!
# Frames

A host shows a frame when the display bears its note, and only a tick shows
frames. Since no change of the screen goes without the note, a display that
does not bear it is the one that was shown last (`UpToDate`): no frame is
missed, as long as nobody takes the note off behind the host's back.
-/

namespace Chip8

/-- The last frame is a picture of the screen, or there was no frame yet and
the screen is as it was in the beginning. -/
def Recorder.Shows (r : Recorder) (screen : Screen) : Prop :=
  r.lastFrame = some screen.text ∨ (r.lastFrame = none ∧ r.frames = 0 ∧ screen = .blank)

/-- A tone is no frame. -/
theorem foldl_on_toneOf (outcome : Except Fault Step) (r : Recorder) :
    let heard := (Host.toneOf outcome).foldl Request.on r
    heard.lastFrame = r.lastFrame ∧ heard.frames = r.frames := by
  cases outcome with
  | error fault => exact ⟨rfl, rfl⟩
  | ok s =>
      cases tone : s.tone <;>
      · simp only [Host.toneOf, tone]
        exact ⟨rfl, rfl⟩

namespace Host

section Invariant

variable {ι : Type} {h : Host ι Recorder}

/-- A display without its note is the one that was shown last. -/
def UpToDate (h : Host ι Recorder) : Prop :=
  h.machine.display.dirty = false → h.output.Shows h.machine.display.screen

/-- Whatever accounts for its changes by the note may be done to the machine. -/
theorem UpToDate.of_noted {m : Machine} (upToDate : h.UpToDate)
    (noted : h.machine.display.Noted m.display) : UpToDate { h with machine := m } := by
  intro clean
  rcases noted with dirty | same
  · rw [clean] at dirty
    cases dirty
  · have before : h.machine.display.dirty = false := by rw [← same]; exact clean
    show h.output.Shows m.display.screen
    rw [same]
    exact upToDate before

/-- A load wipes the screen, which leaves the note. -/
theorem upToDate_load (h : Host ι Recorder) (program : List UInt8) :
    (h.load program).state.UpToDate := by
  intro clean
  obtain ⟨_, _, state⟩ := h.state_load program
  rw [state] at clean
  cases clean

end Invariant

variable {ι : Type} [InputDevice ι] {h : Host ι Recorder}

/-- A tick shows one frame if its step leaves the note on the display, and none
otherwise, and then the note is off. -/
theorem frame_tick (awake : h.halted = none) :
    let after := h.polled.step.state.display
    h.tick.state.machine.display = after.shown ∧
    h.tick.state.output.frames = h.output.frames + after.dirty.toNat ∧
    h.tick.state.output.lastFrame =
      if after.dirty then some after.screen.text else h.output.lastFrame := by
  intro after
  have display : h.tick.state.machine.display = after.shown := by rw [machine_tick awake]
  obtain ⟨frame, count⟩ := foldl_on_toneOf h.polled.step.outcome
    ((frameOf h.polled.step.state).foldl Request.on h.output)
  refine ⟨display, ?_⟩
  rw [output_tick_of_awake awake, List.foldl_append, frame, count, frameOf]
  show _ = _ + after.dirty.toNat ∧ _
  cases h.polled.step.state.display.dirty <;> exact ⟨rfl, rfl⟩

theorem UpToDate.tick (upToDate : h.UpToDate) : h.tick.state.UpToDate := by
  cases halted : h.halted with
  | some fault => rw [tick_of_halted halted]; exact upToDate
  | none =>
      intro _
      obtain ⟨display, count, frame⟩ := frame_tick halted
      rw [display, Recorder.Shows, frame, count]
      rcases Machine.noted_step h.polled with dirty | same
      · left
        rw [dirty, if_pos rfl]
        rfl
      · -- without the note nothing has happened to the display
        have before : h.polled.display = h.machine.display := rfl
        rw [same, before]
        cases dirty : h.machine.display.dirty with
        | true => exact .inl rfl
        | false => exact upToDate dirty

end Host

/-- **No frame is missed.** Take a host with a new machine and a recorder, and
let it do anything but take the note off the display by hand. Wherever that
leads: if the display does not bear the note, the last frame is a picture of
the screen, or no frame was shown yet and the screen is blank. A tick that
finds the host not halted leaves the note off, however it ends; it shows one
frame, of the screen as its step leaves it, if the step leaves the note on,
and none otherwise. -/
theorem no_frame_is_missed {ι : Type} [InputDevice ι] (random : Generator) (input : ι)
    (pacing : Pacing) (actions : List Host.Action)
    (unmarked : ∀ a ∈ actions, a ≠ .operate .markShown) (h : Host ι Recorder)
    (does : (Host.new (.new random) input .empty pacing).after? actions = some h) :
    (h.machine.display.dirty = false → h.output.Shows h.machine.display.screen) ∧
    (h.halted = none →
      let after := h.polled.step.state.display
      h.tick.state.machine.display.dirty = false ∧
      h.tick.state.machine.display.screen = after.screen ∧
      h.tick.state.output.frames = h.output.frames + after.dirty.toNat ∧
      h.tick.state.output.lastFrame =
        if after.dirty then some after.screen.text else h.output.lastFrame) := by
  constructor
  · refine Host.invariant_after? (P := Host.UpToDate) ?_ ?_ ?_ ?_ unmarked does
    · intro h upToDate
      exact upToDate.tick
    · intro h program _ _
      exact Host.upToDate_load h program
    · intro h op x unmarked upToDate did
      refine upToDate.of_noted (Machine.noted_perform? ?_ did)
      rintro rfl
      exact unmarked rfl
    · intro _
      exact .inr ⟨rfl, rfl, rfl⟩
  · intro awake after
    obtain ⟨display, count, frame⟩ := Host.frame_tick awake
    rw [display]
    exact ⟨rfl, rfl, count, frame⟩

/-- The screen is drawn on and wiped behind the host's back. By the second tick
two frames were shown, the last of which is a picture of the screen, and the
fault of the third tick does not keep it from showing the wiped screen. -/
theorem no_frame_is_missed_drawn_on :
    let program := [0xD0, 0x05, 0x61, 0x10, 0xE1, 0x9E]
    let actions := [.load program, .tick, .operate (.draw 70 40 [0xFF]), .tick]
    let start : Host NoInput Recorder := .new (.new (.ofSeed 1)) ⟨⟩ .empty .usual
    (∃ h, start.after? actions = some h ∧ h.output.frames = 2 ∧
      h.output.lastFrame = some h.machine.display.screen.text) ∧
    ∃ h, start.after? (actions ++ [.operate .wipe]) = some h ∧
      h.tick.outcome = .error (.invalidKey 0x10) ∧
      h.tick.state.machine.display.dirty = false ∧ h.tick.state.output.frames = 3 := by
  intro program actions start
  constructor
  · have unmarked : ∀ a ∈ actions, a ≠ .operate .markShown := by simp [actions]
    have reached : (start.after? actions).map
        (fun h => (h.machine.display.dirty, h.output.frames)) = some (false, 2) := by
      decide +kernel
    obtain ⟨h, does, facts⟩ := Option.map_eq_some_iff.1 reached
    obtain ⟨clean, frames⟩ := Prod.mk.inj facts
    obtain shown | ⟨_, none, _⟩ := (no_frame_is_missed _ _ _ _ unmarked h does).1 clean
    · exact ⟨h, does, frames, shown⟩
    · rw [frames] at none
      cases none
  · have unmarked : ∀ a ∈ actions ++ [.operate .wipe], a ≠ .operate .markShown := by
      simp [actions]
    have reached : (start.after? (actions ++ [.operate .wipe])).map
        (fun h => (h.halted, h.tick.outcome, h.output.frames,
          h.polled.step.state.display.dirty)) =
        some (none, .error (.invalidKey 0x10), 2, true) := by
      decide +kernel
    obtain ⟨h, does, facts⟩ := Option.map_eq_some_iff.1 reached
    obtain ⟨awake, failed, before, dirty⟩ : h.halted = none ∧ _ ∧ _ ∧ _ := by
      simpa only [Prod.mk.injEq] using facts
    obtain ⟨clean, _, frames, _⟩ := (no_frame_is_missed _ _ _ _ unmarked h does).2 awake
    rw [before, dirty] at frames
    exact ⟨h, does, failed, clean, frames⟩

end Chip8
