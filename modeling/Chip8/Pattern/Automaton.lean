import Chip8.Pattern
import Chip8.Pattern.Automaton.Sharing
import Chip8.Pattern.Automaton.Words
import Chip8.Pattern.Texts

/-!
# Patterns as automata

How large a pattern is: what its automata take up, of which there are two, one
for each direction in which a text is read. `Pattern.fits` says whether neither
passes the limit. A pattern that is a few texts needs no automata.

Only sizes are worked out here. What remains of an automaton that is built is
its exit, as an arrow away from a fork takes up room too.
-/

namespace Chip8.Pattern

open Text.Utf8 (Spelling spell)

/-- The direction in which a text is read. -/
inductive Direction where
  | forward
  | backward
  deriving DecidableEq

namespace Direction

/-- A list in the order in which it is come across. -/
def order {α : Type} (d : Direction) (xs : List α) : List α :=
  match d with
  | forward => xs
  | backward => xs.reverse

end Direction

namespace Automaton

/-- The state where an automaton ends. -/
inductive Exit where
  | plain
  | fork

/-- Go on from an exit. -/
def Exit.leave : Exit → Building Unit
  | plain => return
  | fork => Building.arrow

/-- Add a state without a list. -/
def plain : Building Exit := do
  let _ ← Building.add 0
  return .plain

/-- Add a fork. -/
def fork : Building Exit := do
  let _ ← Building.add 0
  return .fork

/-- A number of copies, each of which goes on from the one before. -/
def copies (build : Building Exit) : Nat → Exit → Building Exit
  | 0, e => return e
  | n + 1, e => do
    e.leave
    copies build n (← build)

/-- Copies one after another. -/
def exactly (build : Building Exit) : Nat → Building Exit
  | 0 => plain
  | n + 1 => do copies build n (← build)

/-- Any number of copies: one, and a fork that goes back to it. It may take two
forks to pass it by, if a copy may read nothing. -/
def anyNumber (build : Building Exit) (readsOn : Bool) : Building Exit := do
  if readsOn then
    let _ ← fork
    let e ← build
    Building.arrow
    e.leave
    return .fork
  else
    let e ← build
    let _ ← fork
    e.leave
    Building.arrow
    let _ ← fork
    let _ ← plain
    Building.grow 0 (3 * Table.arrowSize)
    return .plain

/-- At least one copy, or at least `n + 1`. -/
def atLeast (build : Building Exit) : Nat → Building Exit
  | 0 => do
    let e ← build
    let _ ← fork
    e.leave
    Building.arrow
    return .fork
  | n + 1 => do
    let front ← exactly build (n + 1)
    let e ← build
    let _ ← fork
    front.leave
    e.leave
    Building.arrow
    return .fork

/-- A fork in front of a copy that may be passed by, for each one that may come
in addition. -/
def further (build : Building Exit) : Nat → Exit → Building Exit
  | 0, e => return e
  | n + 1, e => do
    let _ ← fork
    let next ← build
    e.leave
    Building.grow 0 (2 * Table.arrowSize)
    further build n next

/-- At least and at most so many copies. -/
def between (build : Building Exit) (least most : Nat) : Building Exit := do
  let e ← exactly build least
  let _ ← plain
  let last ← further build (most - least) e
  last.leave
  return .plain

/-- A copy or none. -/
def perhaps (build : Building Exit) : Building Exit := do
  let _ ← fork
  let e ← build
  let _ ← plain
  Building.grow 0 (2 * Table.arrowSize)
  e.leave
  return .plain

/-- Copies of a pattern that may read nothing or not. -/
def repeated (build : Building Exit) (readsOn : Bool) (count : Count) : Building Exit :=
  match count.least, count.most with
  | 0, some 1 => perhaps build
  | 0, none => anyNumber build readsOn
  | n + 1, none => atLeast build n
  | n, some m => if n = m then exactly build n else between build n m

/-- A set of characters. -/
def ofSet (d : Direction) (s : CharSet) : Building Exit := do
  if s.isAscii then buildAscii s
  else
    match d with
    | .forward => buildForward s
    | .backward => buildBackward s
  return .plain

/-- The bytes of a text, in the order in which they are come across. -/
def spelling (d : Direction) (signs : List Char) : Spelling := d.order (spell signs)

/-- Build as many as there are, each of which goes on from the one before. -/
def inRow : List (Building Exit) → Exit → Building Exit
  | [], e => return e
  | build :: rest, e => do
    let next ← build
    e.leave
    inRow rest next

/-- Build one after another. -/
def row : List (Building Exit) → Building Exit
  | [] => plain
  | build :: rest => do inRow rest (← build)

/-- Build what a choice is between: go there from its fork, and on to its
end. -/
def option (build : Building Exit) : Building Unit := do
  let e ← build
  Building.arrow
  e.leave

/-- Build a fork into several automata that end in the same state. -/
def amongst : List (Building Exit) → Building Exit
  | first :: second :: rest => do
    let a ← first
    let b ← second
    let _ ← fork
    let _ ← plain
    Building.grow 0 (2 * Table.arrowSize)
    a.leave
    b.leave
    rest.forM option
    return .plain
  | [build] => build
  | [] => plain

mutual

/-- Build the automaton of a pattern. -/
def build (d : Direction) : Pattern → Building Exit
  | .empty | .look _ => plain
  | .literal signs => do
    Building.grow (spelling d signs).length 0
    return .plain
  | .oneOf _ s => ofSet d s
  | .repeated p count _ => repeated (build d p) (p.shortest?.any (0 < ·)) count
  | .group _ p => do
    match d with
    | .forward =>
      let _ ← plain
      let e ← build d p
      let _ ← plain
      e.leave
      return .plain
    | .backward => build d p
  | .sequence ps => row (d.order (buildAll d ps))
  | .choice ps => do
    match ps.mapM text? with
    | some words =>
      buildWords (words.map (spelling d))
      return .plain
    | none => amongst (buildAll d ps)

/-- The same for several patterns. -/
def buildAll (d : Direction) : List Pattern → List (Building Exit)
  | [] => []
  | p :: rest => build d p :: buildAll d rest

end

/-- Build what comes in front of a pattern: unless it has to begin where the
text does, a fork that goes round any bytes. -/
def start (isAnchored : Bool) : Building Exit := do
  if isAnchored then plain
  else
    let _ ← fork
    let _ ← Building.add 0
    let _ ← Building.add Table.branchSize
    Building.arrow
    return .fork

/-- Build the automaton of a pattern as a whole. Read forward it also keeps
where the text found begins and ends. -/
def whole (d : Direction) (p : Pattern) : Building Unit := do
  match d with
  | .forward =>
    let e ← start p.startsText
    let _ ← plain
    let inner ← build d p
    let _ ← plain
    inner.leave
    let _ ← plain
    e.leave
  | .backward =>
    let e ← start p.endsText
    let inner ← build d p
    let _ ← plain
    inner.leave
    e.leave

end Automaton

/-- Whether the automata of a pattern are within the limit, or it needs none. -/
def fits (p : Pattern) : Bool :=
  p.isFewTexts || [Direction.forward, .backward].all fun d =>
    ((Automaton.whole d p).run Automaton.Table.bare).isSome

end Chip8.Pattern
