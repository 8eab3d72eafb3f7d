import Chip8.Pattern.Bracket
import Chip8.Pattern.Group

/-!
# Reading patterns

A written pattern as a tree: alternatives of sequences of atoms, classes and
groups, and repetitions of these. The groups that are open at some place are
kept as a list of levels, the innermost first; the last level is the whole
pattern. In the end the tree is refused if it is nested too deep.
-/

namespace Chip8.Pattern.Reader

open Cursor Reading

/-- The parenthesis that opened a level. -/
structure Parenthesis where
  span : Span
  index : Option Nat
  items : List FlagItem
  /-- Whether the pattern around is in the verbose style. -/
  verboseOutside : Bool

/-- Alternatives up to some place, in a group or in the whole pattern. -/
structure Level where
  /-- What opened it; nothing opens the whole pattern. -/
  parenthesis : Option Parenthesis
  start : Place
  /-- The alternatives in front of the last one, the latest first. -/
  earlier : List Tree
  /-- Where the last alternative begins. -/
  begins : Place
  /-- Its parts, the latest first. -/
  parts : List Tree

namespace Level

/-- Nothing yet. -/
def bare (parenthesis : Option Parenthesis) (start : Place) : Level :=
  ⟨parenthesis, start, [], start, []⟩

/-- With one more part. -/
def push (t : Tree) (l : Level) : Level := { l with parts := t :: l.parts }

/-- The last alternative, up to a place. -/
def alternative (stop : Place) (l : Level) : Tree := .ofSequence ⟨l.begins, stop⟩ l.parts.reverse

/-- At the beginning of one more alternative, the last one ending at a place. -/
def divide (stop begins : Place) (l : Level) : Level :=
  { l with earlier := l.alternative stop :: l.earlier, begins, parts := [] }

/-- All alternatives, up to a place. -/
def tree (stop : Place) (l : Level) : Tree :=
  match l.earlier with
  | [] => l.alternative stop
  | alternatives => .alternatives (l.alternative stop :: alternatives).reverse ⟨l.start, stop⟩

end Level

/-- The part that an operator at the cursor repeats, and the level without
it. -/
def operand (l : Level) : Reading (Tree × Level) := do
  match l.parts with
  | t :: rest =>
    if t.isRepeatable then return (t, { l with parts := rest })
    complain .repetitionOfNothing (← get).point
  | [] => complain .repetitionOfNothing (← get).point

/-- Whether an operator asks for many repetitions: a question mark after it
asks for few. -/
def greedy : Reading Bool := do return !(← eat ['?'])

/-- A repetition by one sign. -/
def simple (count : Count) (l : Level) : Reading Level := do
  let (t, l) ← operand l
  modify next
  let isGreedy ← greedy
  return l.push (.repeated t count isGreedy ⟨t.span.start, (← get).place⟩)

/-- The numbers in a counted repetition, the first of which is read already. -/
def counts (brace : Place) (first : Except Complaint Nat) : Reading (Nat × Option Nat) := do
  if !(← get).isAt ',' then
    let n ← first
    return (n, some n)
  modify step
  let c ← get
  if c.atEnd then complain .countUnclosed (c.since brace)
  let n ← first
  if c.isAt '}' then return (n, none)
  let last ← number
  return (n, some (← last))

/-- A counted repetition; the cursor is at the brace. -/
def counted (l : Level) : Reading Level := do
  let brace := (← get).place
  let (t, l) ← operand l
  modify step
  let c ← get
  if c.atEnd then complain .countUnclosed (c.since brace)
  let first ← number
  let c ← get
  if c.atEnd then complain .countUnclosed (c.since brace)
  let (least, most) ← counts brace first
  let c ← get
  if !c.isAt '}' then complain .countUnclosed (c.since brace)
  set c.step
  let isGreedy ← greedy
  let c ← get
  match Count.ofBounds? least most with
  | some count => return l.push (.repeated t count isGreedy (c.since t.span.start))
  | none => complain .countReversed (c.since brace)

/-- An opening parenthesis: flags for the level, or a new level inside it. -/
def openGroup (inner : Level) (outer : List Level) : Reading (Level × List Level) := do
  let before ← get
  match ← Group.opening with
  | .flags items =>
    let after ← get
    set { after with verbose := (FlagItem.setting? .verbose items).getD after.verbose }
    return (inner.push (.flags items (after.since before.place)), outer)
  | .group index items =>
    let after ← get
    set { after with verbose := (FlagItem.setting? .verbose items).getD after.verbose }
    let parenthesis : Parenthesis := ⟨before.signSpan, index, items, before.verbose⟩
    return (.bare (some parenthesis) after.place, inner :: outer)

/-- A closing parenthesis. -/
def closeGroup (inner : Level) (outer : List Level) : Reading (Level × List Level) := do
  let c ← get
  match inner.parenthesis, outer with
  | some p, l :: more =>
    set { c.next with verbose := p.verboseOutside }
    let span : Span := ⟨p.span.start, c.next.place⟩
    return (l.push (.group (inner.tree c.place) p.index p.items span), more)
  | _, _ => complain .groupUnopened c.signSpan

/-- A part that is neither a group nor a repetition. -/
def part : Reading Tree := do
  let c ← get
  let single (a : Atom) : Reading Tree := do
    set c.next
    return .atom a c.signSpan
  match c.sign? with
  | some '[' => Bracket.read
  | some '\\' =>
    let (a, span) ← Escape.read
    return .atom a span
  | some '.' => single .dot
  | some '^' => single (.anchor .lineStart)
  | some '$' => single (.anchor .lineEnd)
  | some sign => single (.literal sign false)
  | none => return .empty c.point

/-- The end of the pattern. -/
def close (inner : Level) : Reading Tree := do
  match inner.parenthesis with
  | none => return inner.tree (← get).place
  | some p => complain .groupUnclosed p.span

/-- Read on to the end. Every round goes over at least one sign. -/
def rounds : Nat → Level → List Level → Reading Tree
  | 0, inner, _ => close inner
  | n + 1, inner, outer => do
    modify skip
    let c ← get
    match c.sign? with
    | none => close inner
    | some '(' =>
      let (inner, outer) ← openGroup inner outer
      rounds n inner outer
    | some ')' =>
      let (inner, outer) ← closeGroup inner outer
      rounds n inner outer
    | some '|' =>
      set c.next
      rounds n (inner.divide c.place c.next.place) outer
    | some '?' => rounds n (← simple .perhaps inner) outer
    | some '*' => rounds n (← simple (.orMore 0) inner) outer
    | some '+' => rounds n (← simple (.orMore 1) inner) outer
    | some '{' => rounds n (← counted inner) outer
    | some _ => rounds n (inner.push (← part)) outer

/-- How deep patterns may be nested. -/
def depthLimit : Nat := 250

/-- The tree that a pattern spells. -/
def read (pattern : List Char) : Except Complaint Tree := do
  let (t, _) ← (rounds (pattern.length + 1) (.bare none ⟨0, 0⟩) []).run (.ofPattern pattern)
  match t.deep? depthLimit with
  | none => return t
  | some span => throw ⟨.nestedTooDeep depthLimit, span, none⟩

end Chip8.Pattern.Reader
