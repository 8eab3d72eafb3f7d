import Chip8.Keyboard
import Mathlib.Data.List.Induction
import Mathlib.Data.List.Nodup

/-!
# What the keyboard holds down

A session at the keyboard is a list of events, each at its time: keys are
pressed, somebody asks which keys are held, a key of the keypad is moved by
hand, the keypad is brought up to date. What is remembered along a session is
said once (`Desk.Remembers`): the pressed keys in the order of their first
press, each with the time of its last. As long as no key is looked for too late
after its last press (`Lasting`), nothing is ever forgotten, and the keypad
after an update is a function of the presses alone.
-/

namespace Chip8

/-- What may happen at the keyboard. -/
inductive KeyEvent where
  | push (code : KeyCode)
  | held
  | isHeld (code : KeyCode)
  /-- A key of the keypad is moved by hand. -/
  | setPressed (key : UInt8) (isDown : Bool)
  | update
  deriving DecidableEq

namespace KeyEvent

/-- Whether an event looks at the held keys, and so forgets the old ones. -/
def looks : KeyEvent → Bool
  | held | isHeld _ | update => true
  | push _ | setPressed _ _ => false

/-- The key that an event presses. -/
def pushed? : KeyEvent → Option KeyCode
  | push code => some code
  | _ => none

end KeyEvent

/-- An event and its time. -/
structure Happening where
  now : Nat
  event : KeyEvent
  deriving DecidableEq

/-- The keys that a session presses, one for each press. -/
def pushed (session : List Happening) : List KeyCode :=
  session.filterMap fun h => h.event.pushed?

/-- When a key was last pressed in a session. -/
def lastPush? (code : KeyCode) (session : List Happening) : Option Nat :=
  (session.reverse.find? fun h => h.event = .push code).map (·.now)

/-- A session in which no key outlasts the timeout: whenever the held keys are
looked at, each key pressed before was last pressed less than the timeout ago,
and not in the future of a clock that was set back. Keys may be pressed anew for
as long as one likes. -/
def Lasting (timeout : Nat) (session : List Happening) : Prop :=
  ∀ before look after, session = before ++ look :: after → look.event.looks = true →
    ∀ code pressed, lastPush? code before = some pressed →
      pressed ≤ look.now ∧ look.now - pressed < timeout

/-- The remembered presses and the keypad. -/
structure Desk where
  buffer : KeyBuffer
  keypad : Keypad

namespace Desk

/-- The desk after an event. A key that the keypad does not have is not moved. -/
def after (d : Desk) (h : Happening) : Desk :=
  match h.event with
  | .push code => { d with buffer := d.buffer.push code h.now }
  | .held | .isHeld _ => { d with buffer := d.buffer.settle h.now }
  | .setPressed key isDown =>
    match d.keypad.setPressed key isDown with
    | .ok moved => { d with keypad := moved }
    | .error _ => d
  | .update =>
    let (keyboard, keypad) := InputDevice.poll (Keyboard.mk d.buffer h.now) d.keypad
    ⟨keyboard.buffer, keypad⟩

/-- The desk after a session. -/
def run (d : Desk) (session : List Happening) : Desk := session.foldl after d

end Desk

/-! ## The layout -/

namespace KeyCode

/-- The left side of a QWERTY keyboard, row by row, each key with the key of the
keypad that lies in its place. -/
def qwerty : List (Char × Nibble) :=
  ['1', '2', '3', '4'].zip [0x1, 0x2, 0x3, 0xC] ++
  ['q', 'w', 'e', 'r'].zip [0x4, 0x5, 0x6, 0xD] ++
  ['a', 's', 'd', 'f'].zip [0x7, 0x8, 0x9, 0xE] ++
  ['z', 'x', 'c', 'v'].zip [0xA, 0x0, 0xB, 0xF]

theorem layout?_eq_some_iff {c : Char} {b : UInt8} :
    layout? c = some b ↔ ∃ key, (c, key) ∈ qwerty ∧ key.toByte = b := by
  constructor
  · intro stands
    unfold layout? at stands
    split at stands <;> cases stands <;> decide
  · rintro ⟨key, placed, rfl⟩
    have each : ∀ p ∈ qwerty, layout? p.1 = some p.2.toByte := by decide
    exact each _ placed

/-- The keys that stand for a key of the keypad are characters in its place. -/
theorem keypad?_eq_some_iff {code : KeyCode} {b : UInt8} :
    code.keypad? = some b ↔
      ∃ c key, code = .char c ∧ (c.toLower, key) ∈ qwerty ∧ key.toByte = b := by
  cases code with
  | char c => simp [keypad?, layout?_eq_some_iff]
  | _ => simp [keypad?]

end KeyCode

/-! ## Pressing keys of the keypad -/

namespace Keypad

theorem holds_pressAll {k : Keypad} {keys : List UInt8} {key : Nibble} :
    (k.pressAll keys).1.holds key = true ↔
      k.holds key = true ∨ ∃ b ∈ keys, Nibble.ofByte? b = some key := by
  induction keys generalizing k with
  | nil => simp [pressAll]
  | cons b rest ih =>
      cases named : Nibble.ofByte? b with
      | none => simp [pressAll, setPressed, named, ih]
      | some n =>
          -- a key that is down stays down, whatever is pressed after it
          simp only [pressAll, setPressed, named, ih, holds_move, List.mem_cons,
            exists_eq_or_imp, Option.some.injEq]
          by_cases same : n = key <;> simp [same]

/-- Only a byte that names no key gives a fault. -/
theorem pressAll_faults (k : Keypad) (keys : List UInt8) :
    (k.pressAll keys).2 =
      (keys.filter fun b => (Nibble.ofByte? b).isNone).map Fault.invalidKey := by
  induction keys generalizing k with
  | nil => rfl
  | cons b rest ih =>
      cases named : Nibble.ofByte? b with
      | none => simp [pressAll, setPressed, named, ih]
      | some n => simp [pressAll, setPressed, named, ih]

end Keypad

namespace KeyBuffer

variable {b : KeyBuffer} {now : Nat}

theorem holds_update {k : Keypad} {key : Nibble} :
    (b.update now k).1.holds key = true ↔
      ∃ c, KeyCode.char c ∈ b.held now ∧ (c.toLower, key) ∈ KeyCode.qwerty := by
  simp only [update, Keypad.holds_pressAll, Keypad.holds_released, Bool.false_eq_true, false_or,
    List.mem_filterMap, KeyCode.keypad?_eq_some_iff]
  constructor
  · rintro ⟨_, ⟨_, held, c, placed, rfl, there, rfl⟩, named⟩
    rw [Nibble.ofByte?_toByte] at named
    cases named
    exact ⟨c, held, there⟩
  · rintro ⟨c, held, there⟩
    exact ⟨key.toByte, ⟨_, held, c, key, rfl, there, rfl⟩, key.ofByte?_toByte⟩

/-- The layout names keys that there are. -/
theorem update_faults (b : KeyBuffer) (now : Nat) (k : Keypad) : (b.update now k).2 = [] := by
  simp only [update, Keypad.pressAll_faults, List.map_eq_nil_iff, List.filter_eq_nil_iff,
    List.mem_filterMap, KeyCode.keypad?_eq_some_iff]
  rintro _ ⟨_, _, _, key, _, _, rfl⟩
  simp

/-! ## Remembering and forgetting -/

/-- Nothing is forgotten as long as nothing is too old. -/
theorem settle_of_fresh (fresh : ∀ p ∈ b.presses, p.2 ≤ now ∧ now - p.2 < b.timeout) :
    b.settle now = b := by
  have kept : b.presses.filter (fun p => p.2 ≤ now ∧ now - p.2 < b.timeout) = b.presses :=
    List.filter_eq_self.2 fun p among => decide_eq_true (fresh p among)
  simp only [settle, kept]

/-- No age is below zero. -/
theorem held_of_timeout_zero (never : b.timeout = 0) : b.held now = [] := by
  simp [held, settle, codes, never]

theorem map_fst_record (code : KeyCode) (now : Nat) (presses : List (KeyCode × Nat)) :
    (record code now presses).map Prod.fst =
      if code ∈ presses.map Prod.fst then presses.map Prod.fst
      else presses.map Prod.fst ++ [code] := by
  induction presses with
  | nil => simp [record]
  | cons p rest ih =>
      by_cases same : p.1 = code
      · simp [record, same]
      · have other : code ≠ p.1 := fun h => same h.symm
        simp only [record, same, if_false, List.map_cons, ih, List.mem_cons, other, false_or]
        split <;> rfl

/-- A press makes the key it presses younger, and no other. -/
theorem mem_record {code c : KeyCode} {t : Nat} {presses : List (KeyCode × Nat)}
    (once : (presses.map Prod.fst).Nodup) (among : (c, t) ∈ record code now presses) :
    if code = c then t = now else (c, t) ∈ presses := by
  induction presses with
  | nil =>
      simp only [record, List.mem_singleton, Prod.mk.injEq] at among
      simp [among]
  | cons p rest ih =>
      obtain ⟨c', t'⟩ := p
      rw [List.map_cons, List.nodup_cons] at once
      by_cases same : c' = code
      · subst same
        simp only [record, if_true, List.mem_cons, Prod.mk.injEq] at among
        obtain ⟨rfl, rfl⟩ | later := among
        · simp
        · have other : c' ≠ c := by
            rintro rfl
            exact once.1 (List.mem_map.2 ⟨_, later, rfl⟩)
          simp [other, later]
      · simp only [record, same, if_false, List.mem_cons, Prod.mk.injEq] at among
        obtain ⟨rfl, rfl⟩ | later := among
        · have other : code ≠ c := fun h => same h.symm
          simp [other]
        · have rest := ih once.2 later
          split at rest <;> simp_all

end KeyBuffer

/-! ## Sessions -/

section Sessions

variable {session : List Happening} {h : Happening} {timeout : Nat}

theorem pushed_concat : pushed (session ++ [h]) = pushed session ++ h.event.pushed?.toList := by
  cases pressed : h.event.pushed? <;> simp [pushed, pressed]

theorem lastPush?_concat (code : KeyCode) :
    lastPush? code (session ++ [h]) =
      if h.event = .push code then some h.now else lastPush? code session := by
  by_cases pressed : h.event = .push code <;> simp [lastPush?, pressed]

theorem lasting_concat :
    Lasting timeout (session ++ [h]) ↔
      Lasting timeout session ∧
        (h.event.looks = true → ∀ code pressed, lastPush? code session = some pressed →
          pressed ≤ h.now ∧ h.now - pressed < timeout) := by
  constructor
  · intro lasting
    refine ⟨?_, lasting session h [] rfl⟩
    rintro before look after rfl
    exact lasting before look (after ++ [h]) (by simp)
  · -- a look is the new event, or one that the session had before
    rintro ⟨lasting, last⟩ before look after cut looks
    obtain rfl | ⟨init, final, rfl⟩ := List.eq_nil_or_concat after
    · obtain ⟨rfl, rfl⟩ := List.append_singleton_inj.1 cut
      exact last looks
    · rw [List.concat_eq_append, ← List.cons_append, ← List.append_assoc] at cut
      obtain ⟨rfl, -⟩ := List.append_singleton_inj.1 cut
      exact lasting before look init rfl looks

/-- A session is lasting if it takes less than the timeout as a whole. -/
theorem lasting_of_brief
    (brief : session.Pairwise fun g h => g.now ≤ h.now ∧ h.now - g.now < timeout) :
    Lasting timeout session := by
  rintro before look after rfl _ code pressed last
  obtain ⟨push, found, rfl⟩ := Option.map_eq_some_iff.1 last
  have among : push ∈ before := List.mem_reverse.1 (List.mem_of_find?_eq_some found)
  exact (List.pairwise_append.1 brief).2.2 push among look List.mem_cons_self

namespace Desk

variable {d : Desk}

theorem run_concat (d : Desk) (session : List Happening) (h : Happening) :
    d.run (session ++ [h]) = (d.run session).after h := by
  simp [run]

/-- What is remembered after a session in which nothing was forgotten: the pressed
keys in the order of their first press, none of them twice, each with the time
of its last. -/
structure Remembers (d : Desk) (session : List Happening) : Prop where
  codes : d.buffer.codes = (pushed session).eraseDups
  once : d.buffer.codes.Nodup
  last : ∀ code t, (code, t) ∈ d.buffer.presses → lastPush? code session = some t

/-- Moving a key by hand is not typing. -/
theorem buffer_setPressed (d : Desk) (now : Nat) (key : UInt8) (isDown : Bool) :
    (d.after ⟨now, .setPressed key isDown⟩).buffer = d.buffer := by
  simp only [after]
  split <;> rfl

theorem timeout_after (d : Desk) (h : Happening) :
    (d.after h).buffer.timeout = d.buffer.timeout := by
  obtain ⟨now, event⟩ := h
  cases event with
  | setPressed key isDown => rw [buffer_setPressed]
  | push | held | isHeld | update => rfl

theorem timeout_run (d : Desk) (session : List Happening) :
    (d.run session).buffer.timeout = d.buffer.timeout := by
  induction session generalizing d with
  | nil => rfl
  | cons h rest ih => exact (ih (d.after h)).trans (d.timeout_after h)

/-- Whoever looks at the keys in time forgets none. -/
theorem Remembers.settle (remembers : d.Remembers session) (looks : h.event.looks = true)
    (lasting : Lasting d.buffer.timeout (session ++ [h])) :
    d.buffer.settle h.now = d.buffer := by
  apply KeyBuffer.settle_of_fresh
  rintro ⟨code, t⟩ among
  exact (lasting_concat.1 lasting).2 looks code t (remembers.last code t among)

/-- An event that presses no key leaves what is remembered right. -/
theorem Remembers.of_pushed?_eq_none (remembers : d.Remembers session)
    (none : h.event.pushed? = none) {d' : Desk} (same : d'.buffer = d.buffer) :
    d'.Remembers (session ++ [h]) where
  codes := by rw [same, remembers.codes, pushed_concat, none, Option.toList, List.append_nil]
  once := by rw [same]; exact remembers.once
  last code t among := by
    have other : h.event ≠ .push code := by
      intro push
      rw [push] at none
      cases none
    rw [same] at among
    rw [lastPush?_concat, if_neg other]
    exact remembers.last code t among

theorem Remembers.push (remembers : d.Remembers session) (code : KeyCode) (now : Nat) :
    (d.after ⟨now, .push code⟩).Remembers (session ++ [⟨now, .push code⟩]) := by
  have known : code ∈ d.buffer.codes ↔ code ∈ pushed session := by
    rw [remembers.codes, List.mem_eraseDups]
  have codes : (d.after ⟨now, .push code⟩).buffer.codes =
      if code ∈ d.buffer.codes then d.buffer.codes else d.buffer.codes ++ [code] :=
    KeyBuffer.map_fst_record code now d.buffer.presses
  refine ⟨?_, ?_, ?_⟩
  · -- on both sides, a key known already keeps its place and a new one goes last
    rw [codes, pushed_concat, remembers.codes]
    simp only [KeyEvent.pushed?, Option.toList, List.eraseDups_append, List.mem_eraseDups]
    split
    · next among => simp [List.removeAll, among]
    · next new => simp [List.removeAll, new, List.eraseDups_cons]
  · rw [codes]
    split
    · exact remembers.once
    · next new =>
        rw [← List.concat_eq_append]
        exact List.Nodup.concat new remembers.once
  · intro c t among
    have pressed := KeyBuffer.mem_record remembers.once among
    rw [lastPush?_concat]
    by_cases same : code = c
    · subst same
      simp_all
    · have other : KeyEvent.push code ≠ .push c := fun h => same (KeyEvent.push.inj h)
      rw [if_neg same] at pressed
      rw [if_neg other]
      exact remembers.last c t pressed

/-- In a lasting session, every event keeps what is remembered right. -/
theorem Remembers.after (remembers : d.Remembers session)
    (lasting : Lasting d.buffer.timeout (session ++ [h])) :
    (d.after h).Remembers (session ++ [h]) := by
  obtain ⟨now, event⟩ := h
  cases event with
  | push code => exact remembers.push code now
  | held | isHeld | update =>
      exact remembers.of_pushed?_eq_none rfl (remembers.settle rfl lasting)
  | setPressed key isDown =>
      exact remembers.of_pushed?_eq_none rfl (d.buffer_setPressed now key isDown)

theorem remembers_run (keypad : Keypad) (lasting : Lasting timeout session) :
    (run ⟨.empty timeout, keypad⟩ session).Remembers session := by
  induction session using List.reverseRecOn with
  | nil => exact ⟨rfl, List.nodup_nil, fun _ _ among => absurd among List.not_mem_nil⟩
  | append_singleton session h ih =>
      rw [run_concat]
      refine (ih (lasting_concat.1 lasting).1).after ?_
      rw [timeout_run]
      exact lasting

/-- In a lasting session nothing is forgotten. -/
theorem settle_run (keypad : Keypad) (looks : h.event.looks = true)
    (lasting : Lasting timeout (session ++ [h])) :
    (run ⟨.empty timeout, keypad⟩ session).buffer.settle h.now =
      (run ⟨.empty timeout, keypad⟩ session).buffer := by
  refine (remembers_run keypad (lasting_concat.1 lasting).1).settle looks ?_
  rw [timeout_run]
  exact lasting

/-- An update that has nothing to forget changes nothing after an update. -/
theorem update_update {now later : Nat}
    (kept : (d.after ⟨now, .update⟩).buffer.settle later = (d.after ⟨now, .update⟩).buffer) :
    (d.after ⟨now, .update⟩).after ⟨later, .update⟩ = d.after ⟨now, .update⟩ := by
  show (⟨(d.after ⟨now, .update⟩).buffer.settle later, (Keypad.released.pressAll
    (((d.after ⟨now, .update⟩).buffer.settle later).codes.filterMap KeyCode.keypad?)).1⟩ : Desk) = _
  rw [kept]
  rfl

end Desk

end Sessions

/-- **The keypad follows the presses.** A keyboard starts with any timeout and
any keypad and goes through any session. As long as no key outlasts the timeout,
the held keys are the different keys pressed, in the order of their first press;
a key is held if and only if it was pressed; and after an update a key of the
keypad is down if and only if a character was pressed that lies in its place,
capital letters of ASCII counting as small ones. A second update then changes
nothing. No update ever meets a fault. With a timeout of zero no key is ever
held, and an update lets go of every key of the keypad. -/
theorem keypad_follows_presses (timeout : Nat) (keypad : Keypad) (session : List Happening)
    (now : Nat) :
    let d := Desk.run ⟨.empty timeout, keypad⟩ session
    let u := d.after ⟨now, .update⟩
    (Lasting timeout (session ++ [⟨now, .held⟩]) →
      d.buffer.held now = (pushed session).eraseDups ∧
      (d.buffer.held now).Nodup ∧
      (∀ code, d.buffer.isHeld now code = true ↔ code ∈ pushed session) ∧
      ∀ key, u.keypad.holds key = true ↔
        ∃ c, .char c ∈ pushed session ∧ (c.toLower, key) ∈ KeyCode.qwerty) ∧
    (∀ later, Lasting timeout (session ++ [⟨now, .update⟩, ⟨later, .update⟩]) →
      u.after ⟨later, .update⟩ = u) ∧
    (d.buffer.update now d.keypad).2 = [] ∧
    (timeout = 0 → d.buffer.held now = [] ∧ u.keypad = .released) := by
  intro d u
  refine ⟨?_, ?_, d.buffer.update_faults now d.keypad, ?_⟩
  · intro lasting
    have remembers : d.Remembers session :=
      Desk.remembers_run keypad (lasting_concat.1 lasting).1
    have kept : d.buffer.settle now = d.buffer := Desk.settle_run keypad rfl lasting
    have held : d.buffer.held now = d.buffer.codes := by rw [KeyBuffer.held, kept]
    have known : ∀ code, code ∈ d.buffer.held now ↔ code ∈ pushed session := by
      intro code
      rw [held, remembers.codes, List.mem_eraseDups]
    refine ⟨held.trans remembers.codes, held ▸ remembers.once, ?_, ?_⟩
    · intro code
      rw [KeyBuffer.isHeld, List.contains_iff_mem, known]
    · intro key
      show (d.buffer.update now d.keypad).1.holds key = true ↔ _
      simp only [KeyBuffer.holds_update, known]
  · intro later lasting
    have again : Lasting timeout ((session ++ [⟨now, .update⟩]) ++ [⟨later, .update⟩]) := by
      rwa [List.append_assoc]
    have kept : u.buffer.settle later = u.buffer := by
      have kept := Desk.settle_run keypad rfl again
      rwa [Desk.run_concat] at kept
    exact Desk.update_update kept
  · intro never
    have time : d.buffer.timeout = 0 := (Desk.timeout_run _ session).trans never
    have none : d.buffer.held now = [] := KeyBuffer.held_of_timeout_zero time
    refine ⟨none, ?_⟩
    show (d.buffer.update now d.keypad).1 = .released
    rw [KeyBuffer.update, none]
    rfl

/-- Two keys for one key of the keypad, one of them pressed again, a key that
stands for none, and two keys of the keypad moved by hand, of which there is
only one. -/
def hurriedTyping : List Happening :=
  [⟨0, .push (.char 'Q')⟩, ⟨40, .push .esc⟩, ⟨80, .push (.char 'q')⟩, ⟨90, .setPressed 0x3 true⟩,
    ⟨95, .setPressed 0x42 true⟩, ⟨100, .held⟩, ⟨120, .push (.char 'x')⟩, ⟨160, .push (.char 'Q')⟩]

theorem keypad_follows_presses_hurried :
    let d := Desk.run ⟨.empty 250, .released⟩ hurriedTyping
    let u := d.after ⟨200, .update⟩
    d.buffer.held 200 = [.char 'Q', .esc, .char 'q', .char 'x'] ∧
      d.buffer.isHeld 200 .esc = true ∧
      d.keypad.pressed = [0x3] ∧ u.keypad.pressed = [0x0, 0x4] ∧ u.keypad.holds 0x4 = true ∧
      u.after ⟨230, .update⟩ = u ∧
      (Desk.run ⟨.empty 0, .released⟩ hurriedTyping).buffer.held 200 = [] := by
  intro d u
  have inTime : Lasting 250 (hurriedTyping ++ [⟨200, .held⟩]) := lasting_of_brief (by decide)
  have stillInTime : Lasting 250 (hurriedTyping ++ [⟨200, .update⟩, ⟨230, .update⟩]) :=
    lasting_of_brief (by decide)
  obtain ⟨exact, again, _⟩ := keypad_follows_presses 250 .released hurriedTyping 200
  obtain ⟨held, _, isHeld, holds⟩ := exact inTime
  have never := (keypad_follows_presses 0 .released hurriedTyping 200).2.2.2 rfl
  exact ⟨held.trans (by decide), (isHeld .esc).2 (by decide), by decide, by decide,
    (holds 0x4).2 ⟨'Q', by decide, by decide⟩, again 230 stillInTime, never.1⟩

end Chip8
