import Chip8.Proofs.Afresh
import Chip8.Proofs.Strokes

/-!
# Frames that repeat

A host asks for a frame when the display bears its note, and the note says that
there was a stroke, not that a pixel has changed. So a frame can be the one before
again. To tell when it is, the strokes and the frames of a host are listed in one
trail, in the order in which they come (`Host.trailIn`). A trail accounts for all
that happens to the display (`Host.trails_after?`): from one frame to the next
there is a stroke, and the next frame is the one before with the strokes in between
made on it (`Display.Trails.between_frames`).
-/

namespace Chip8

/-- What happens to a screen: a stroke is made on it, or it is shown. -/
inductive Mark where
  | stroke (s : Stroke)
  | frame (screen : Screen)

namespace Mark

/-- The frame that is shown, if one is. -/
def screen? : Mark → Option Screen
  | stroke _ => none
  | frame screen => some screen

theorem filterMap_screen?_strokes (strokes : List Stroke) :
    (strokes.map stroke).filterMap screen? = [] := by
  simp [List.filterMap_eq_nil_iff, screen?]

theorem filterMap_screen?_frames (screens : List Screen) :
    (screens.map frame).filterMap screen? = screens := by
  rw [List.filterMap_map]
  exact List.filterMap_some

/-- Where nothing is shown there are strokes only. -/
theorem exists_strokes {marks : List Mark} (unshown : ∀ mark ∈ marks, mark.screen? = none) :
    ∃ strokes : List Stroke, marks = strokes.map stroke := by
  induction marks with
  | nil => exact ⟨[], rfl⟩
  | cons mark rest ih =>
      obtain ⟨strokes, rfl⟩ := ih fun other among => unshown other (List.mem_cons_of_mem _ among)
      cases mark with
      | stroke s => exact ⟨s :: strokes, rfl⟩
      | frame screen => cases unshown (frame screen) List.mem_cons_self

theorem eq_frame_of_screen? {mark : Mark} {screen : Screen} (shown : mark.screen? = some screen) :
    mark = frame screen := by
  cases mark with
  | stroke s => cases shown
  | frame other =>
      cases shown
      rfl

/-- Between two frames in a row there are strokes only. -/
theorem exists_between_frames {marks : List Mark} {earlier later : List Screen} {f g : Screen}
    (shown : marks.filterMap screen? = earlier ++ f :: g :: later) :
    ∃ before strokes after,
      marks = before ++ frame f :: (List.map stroke strokes ++ frame g :: after) ∧
        before.filterMap screen? = earlier := by
  obtain ⟨start, rest, rfl, first, shown⟩ := List.filterMap_eq_append_iff.1 shown
  obtain ⟨lead, mark, rest, rfl, silent, isFrame, shown⟩ := List.filterMap_eq_cons_iff.1 shown
  obtain ⟨between, next, after, rfl, unshown, isNext, _⟩ := List.filterMap_eq_cons_iff.1 shown
  -- `lead` comes before the first of the two frames and has none itself, and so with
  -- `between` and the second one
  obtain rfl := eq_frame_of_screen? isFrame
  obtain rfl := eq_frame_of_screen? isNext
  obtain ⟨strokes, rfl⟩ := exists_strokes unshown
  refine ⟨start ++ lead, strokes, after, (List.append_assoc ..).symm, ?_⟩
  rw [List.filterMap_append, List.filterMap_eq_nil_iff.2 silent, first, List.append_nil]

end Mark

/-! ## Trails of a display -/

namespace Display

/-- Marks that lead from one display to another. A screen is shown while the
display bears the note, which is then taken off. -/
inductive Trails : Display → List Mark → Display → Prop
  | nil {d e : Display} (painted : d.Painted [] e) : Trails d [] e
  | stroke {d c e : Display} {s : Stroke} {rest : List Mark} (painted : d.Painted [s] c)
      (later : Trails c rest e) : Trails d (.stroke s :: rest) e
  | frame {d c e : Display} {rest : List Mark} (painted : d.Painted [] c)
      (dirty : c.dirty = true) (later : Trails c.shown rest e) :
      Trails d (.frame c.screen :: rest) e

variable {d c e : Display} {marks more : List Mark} {strokes : List Stroke}

theorem Painted.thenTrails (painted : d.Painted [] c) (trails : c.Trails marks e) :
    d.Trails marks e := by
  cases trails with
  | nil painted' => exact .nil (painted.trans painted')
  | stroke painted' later => exact .stroke (painted.trans painted') later
  | frame painted' dirty later => exact .frame (painted.trans painted') dirty later

theorem trails_append_iff :
    d.Trails (marks ++ more) e ↔ ∃ c, d.Trails marks c ∧ c.Trails more e := by
  constructor
  · intro trails
    induction marks generalizing d with
    | nil => exact ⟨d, .nil (.refl d), trails⟩
    | cons mark rest ih =>
        cases trails with
        | stroke painted later =>
            obtain ⟨c, first, second⟩ := ih later
            exact ⟨c, .stroke painted first, second⟩
        | frame painted dirty later =>
            obtain ⟨c, first, second⟩ := ih later
            exact ⟨c, .frame painted dirty first, second⟩
  · rintro ⟨c, first, second⟩
    induction first with
    | nil painted => exact painted.thenTrails second
    | stroke painted _ ih => exact .stroke painted (ih second)
    | frame painted dirty _ ih => exact .frame painted dirty (ih second)

theorem Trails.append (first : d.Trails marks c) (second : c.Trails more e) :
    d.Trails (marks ++ more) e :=
  trails_append_iff.2 ⟨c, first, second⟩

theorem trails_strokes_iff : d.Trails (strokes.map .stroke) e ↔ d.Painted strokes e := by
  induction strokes generalizing d with
  | nil =>
      constructor
      · rintro ⟨painted⟩
        exact painted
      · exact .nil
  | cons s rest ih =>
      constructor
      · rintro (_ | ⟨painted, later⟩)
        exact painted.trans (ih.1 later)
      · intro painted
        -- the first stroke leaves the note, which accounts for any note at the end
        have first : d.Painted [s] ⟨s.on d.screen, true⟩ :=
          ⟨rfl, fun _ => .inr (List.cons_ne_nil s [])⟩
        exact .stroke first (ih.2 ⟨painted.screen, fun _ => .inl rfl⟩)

/-- A frame follows another only after a stroke, and shows what the strokes in
between have made of the other. -/
theorem Trails.between_frames {before after : List Mark} {f g : Screen}
    (trails : d.Trails (before ++ .frame f :: (strokes.map .stroke ++ .frame g :: after)) e) :
    strokes ≠ [] ∧ g = f.paint strokes := by
  obtain ⟨_, _, trails⟩ := trails_append_iff.1 trails
  cases trails with
  | @frame _ shown _ _ _ _ later =>
      obtain ⟨_, between, trails⟩ := trails_append_iff.1 later
      cases trails with
      | @frame _ next _ _ unchanged dirty _ =>
          have painted : shown.shown.Painted (strokes ++ []) next :=
            (trails_strokes_iff.1 between).trans unchanged
          rw [List.append_nil] at painted
          -- the first frame took the note off, so a stroke has put it there again
          rcases painted.noted dirty with left | stroke
          · cases left
          · exact ⟨stroke, painted.screen⟩

end Display

/-! ## Trails of a host -/

namespace Host

variable {ι ω : Type} [InputDevice ι] [OutputDevice ω] {h k : Host ι ω} {a : Action}
  {actions : List Action}

/-- The strokes of the step of a tick and then its frame, if it has one. -/
def tickTrail (h : Host ι ω) : List Mark :=
  match h.halted with
  | some _ => []
  | none =>
    (h.polled.strokes .step).map .stroke ++
      (h.tickRequests.filterMap Request.screen?).map .frame

/-- The strokes and frames of some ticks. -/
def ticksTrail (h : Host ι ω) : Nat → List Mark
  | 0 => []
  | n + 1 => h.tickTrail ++ h.tick.state.ticksTrail n

/-- The strokes and frames of an action. -/
def trail (h : Host ι ω) : Action → List Mark
  | .tick => h.tickTrail
  | .run n => h.ticksTrail (h.run n).ticks
  | .load _ => [.stroke .wipe]
  | .operate op => (h.machine.strokes op).map .stroke

/-- The strokes and frames of some actions. -/
def trailIn (h : Host ι ω) : List Action → List Mark
  | [] => []
  | a :: rest =>
    h.trail a ++
      match h.perform? a with
      | some e => e.state.trailIn rest
      | none => []

/-! ### The frames of a trail are those that are asked for -/

omit [OutputDevice ω] in
theorem screens_tickTrail (h : Host ι ω) :
    h.tickTrail.filterMap Mark.screen? = h.tickRequests.filterMap Request.screen? := by
  unfold tickTrail
  cases halted : h.halted with
  | some fault =>
      rw [tickRequests_of_halted halted]
      rfl
  | none =>
      simp only [List.filterMap_append, Mark.filterMap_screen?_strokes,
        Mark.filterMap_screen?_frames, List.nil_append]

theorem screens_ticksTrail (h : Host ι ω) (n : Nat) :
    (h.ticksTrail n).filterMap Mark.screen? = (h.requests n).filterMap Request.screen? := by
  induction n generalizing h with
  | zero => rfl
  | succ n ih =>
      rw [ticksTrail, requests, List.filterMap_append, List.filterMap_append, screens_tickTrail, ih]

theorem screens_trail (h : Host ι ω) (a : Action) :
    (h.trail a).filterMap Mark.screen? = (h.asked a).filterMap Request.screen? := by
  cases a with
  | tick => exact screens_tickTrail h
  | run n => exact screens_ticksTrail h _
  | load program => rfl
  | operate op => exact Mark.filterMap_screen?_strokes _

theorem screens_trailIn {turns : List Turn} (taken : h.turns? actions = some turns) :
    (h.trailIn actions).filterMap Mark.screen? =
      (turns.flatMap Turn.requests).filterMap Request.screen? := by
  induction actions generalizing h turns with
  | nil =>
      cases taken
      rfl
  | cons a actions ih =>
      simp only [turns?, Option.bind_eq_some_iff, Option.map_eq_some_iff] at taken
      obtain ⟨e, does, rest, later, rfl⟩ := taken
      simp only [trailIn, does, List.filterMap_append, List.flatMap_cons, screens_trail, ih later]

/-! ### A trail accounts for the display -/

/-- The step of a tick makes its strokes, and then the display is shown if it bears
the note. -/
theorem trails_tick (h : Host ι ω) :
    h.machine.display.Trails h.tickTrail h.tick.state.machine.display := by
  unfold tickTrail
  cases halted : h.halted with
  | some fault =>
      rw [tick_of_halted halted]
      exact .nil (.refl _)
  | none =>
      have does : h.polled.perform? .step = some (h.polled.step.map .step) := rfl
      have painted : h.machine.display.Painted (h.polled.strokes .step)
          h.polled.step.state.display := Machine.painted_perform? does
      -- the only frame that a tick can ask for is the display after its step
      have silent : (toneOf h.polled.step.outcome).filterMap Request.screen? = [] := by
        unfold toneOf
        split
        · split <;> rfl
        · rfl
      apply (Display.trails_strokes_iff.2 painted).append
      rw [machine_tick halted, tickRequests_of_awake halted, List.filterMap_append, silent, frameOf]
      cases dirty : h.polled.step.state.display.dirty with
      | true => exact .frame (.refl _) dirty (.nil (.refl _))
      | false => exact .nil (Display.painted_shown _)

theorem trails_ticks (h : Host ι ω) (n : Nat) :
    h.machine.display.Trails (h.ticksTrail n) (h.ticks n).machine.display := by
  induction n generalizing h with
  | zero => exact .nil (.refl _)
  | succ n ih => exact (trails_tick h).append (ih h.tick.state)

theorem trails_perform? {e : Effect (Host ι ω) Answer} (does : h.perform? a = some e) :
    h.machine.display.Trails (h.trail a) e.state.machine.display := by
  cases a with
  | tick =>
      cases does
      exact trails_tick h
  | run n =>
      cases does
      show h.machine.display.Trails _ (h.run n).host.machine.display
      rw [host_run]
      exact trails_ticks h _
  | load program =>
      cases does
      obtain ⟨_, _, state⟩ := h.state_load program
      show h.machine.display.Trails _ (h.load program).state.machine.display
      rw [state]
      exact .stroke h.machine.display.painted_wiped (.nil (.refl _))
  | operate op =>
      obtain ⟨x, performed, rfl⟩ := operate?_eq_some_iff.1 does
      exact Display.trails_strokes_iff.2 (Machine.painted_perform? performed)

theorem trails_after? (leads : h.after? actions = some k) :
    h.machine.display.Trails (h.trailIn actions) k.machine.display := by
  induction actions generalizing h with
  | nil =>
      cases leads
      exact .nil (.refl _)
  | cons a actions ih =>
      obtain ⟨e, does, later⟩ := after?_cons_iff.1 leads
      simp only [trailIn, does]
      exact (trails_perform? does).append (ih later)

end Host

/-- **A frame repeats the one before just if the strokes in between cancel.** Take
any two frames in a row that a host asks its output for, whatever is done to it.
There is a stroke between them, and the second frame is the first one with the
strokes in between made on it. So it is the first one again if the drawings that no
wipe comes after hit every pixel an even number of times, or, where there was a
wipe, those pixels an odd number of times that were lit. One wipe alone repeats the
blank screen only, and one sprite of at most 32 rows repeats the frame if all its
rows are zero. -/
theorem frame_repeats_iff_strokes_cancel {ι ω : Type} [InputDevice ι] [OutputDevice ω]
    (h : Host ι ω) (actions : List Host.Action) (turns : List Host.Turn)
    (taken : h.turns? actions = some turns) :
    ∃ k, h.after? actions = some k ∧
      k.output = (turns.flatMap (·.requests)).foldl Request.on h.output ∧
      ∀ earlier f g later,
        (turns.flatMap (·.requests)).filterMap Request.screen? = earlier ++ f :: g :: later →
        ∃ before strokes after,
          h.trailIn actions =
            before ++ .frame f :: (List.map .stroke strokes ++ .frame g :: after) ∧
          before.filterMap Mark.screen? = earlier ∧
          strokes ≠ [] ∧ g = f.paint strokes ∧
          (g = f ↔ ∀ p, Placement.totalHits (Stroke.lasting strokes) p % 2 =
            if .wipe ∈ strokes then (f.pixel p).toNat else 0) ∧
          (strokes = [.wipe] → (g = f ↔ f = .blank)) ∧
          ∀ a, strokes = [.draw a] → a.sprite.length ≤ 32 →
            (g = f ↔ ∀ row ∈ a.sprite, row = 0) := by
  obtain ⟨k, leads, output⟩ := Host.after?_of_turns? taken
  refine ⟨k, leads, output, ?_⟩
  intro earlier f g later shown
  -- two frames asked for in a row are two frames of the trail with strokes in between
  rw [← Host.screens_trailIn taken] at shown
  obtain ⟨before, strokes, after, trail, first⟩ := Mark.exists_between_frames shown
  obtain ⟨stroke, rfl⟩ := (trail ▸ Host.trails_after? leads).between_frames
  refine ⟨before, strokes, after, trail, first, stroke, rfl, Screen.paint_eq_self_iff, ?_, ?_⟩
  · rintro rfl
    exact Screen.paint_wipe_eq_self_iff
  · rintro a rfl short
    exact Screen.paint_draw_eq_self_iff short

/-- A host that nothing has been loaded on. -/
def unloaded : Host NoInput Recorder := .new (.new (.ofSeed 1)) ⟨⟩ .empty .usual

/-- A bar is drawn and shown, two pixels are drawn and drawn again whole turns around
the screen away, and the bar is shown again. -/
theorem frame_repeats_iff_strokes_cancel_bar :
    let actions := [.load [0xD0, 0x01, 0x61, 0x01], .tick, .operate (.draw 2 3 [0x81]),
      .operate (.draw 66 35 [0x81]), .tick]
    ∃ turns bar, unloaded.turns? actions = some turns ∧ bar.pixel ⟨0, 0⟩ = true ∧
      (turns.flatMap (·.requests)).filterMap Request.screen? = [bar, bar] ∧
      ∃ strokes, strokes ≠ [] ∧ ∀ p, Placement.totalHits (Stroke.lasting strokes) p % 2 =
        if .wipe ∈ strokes then (bar.pixel p).toNat else 0 := by
  intro actions
  let bar := Screen.blank.draw (Sprite.marks 0 0 [0xF0])
  have reached : (unloaded.turns? actions).map
      (fun turns => (turns.flatMap (·.requests)).filterMap Request.screen?) =
      some [bar, bar] := by
    decide +kernel
  obtain ⟨turns, taken, shown⟩ := Option.map_eq_some_iff.1 reached
  obtain ⟨_, _, _, repeats⟩ := frame_repeats_iff_strokes_cancel unloaded actions turns taken
  obtain ⟨_, strokes, _, _, _, stroke, _, cancel, _⟩ := repeats [] bar bar [] shown
  exact ⟨turns, bar, taken, by decide +kernel, shown, strokes, stroke, cancel.1 rfl⟩

/-- A program that clears the screen twice has the blank screen shown twice. -/
theorem blank_screen_is_shown_again :
    (unloaded.turns? [.load [0x00, 0xE0, 0x00, 0xE0], .tick, .tick]).map
        (fun turns => turns.flatMap (·.requests)) =
      some [.present .blank, .present .blank] := by
  decide +kernel

end Chip8
