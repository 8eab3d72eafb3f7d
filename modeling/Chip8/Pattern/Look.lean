import Chip8.Character.Feature

/-!
# Looks

What a pattern may ask of a place between two characters without taking any of
them: whether it is an end of the text or of a line, or at the edge of a word.
-/

namespace Chip8.Pattern

/-- What is asked about words at a place. -/
inductive Boundary where
  /-- A word begins or ends. -/
  | edge
  /-- No word begins or ends. -/
  | inside
  | start
  | stop
  /-- No word is on the left. -/
  | startHalf
  /-- No word is on the right. -/
  | stopHalf
  deriving DecidableEq

/-- What is asked of a place. -/
inductive Look where
  | textStart
  | textEnd
  | lineStart (carriageReturns : Bool)
  | lineEnd (carriageReturns : Bool)
  | word (b : Boundary) (isUnicode : Bool)
  deriving DecidableEq

/-- The ASCII characters in words. -/
def asciiWord : CharSet := .listing ["30-39 41-5A 5F 61-7A"]

/-- Whether a line begins between two neighbours, of which there may be
none. Carriage returns may end lines too, but not apart from a line feed that
follows. -/
def beginsLine (carriageReturns : Bool) (left right : Option Char) : Bool :=
  match left with
  | none => true
  | some c => c = '\n' || (carriageReturns && c = '\r' && right ≠ some '\n')

/-- Whether a line ends between two neighbours. -/
def endsLine (carriageReturns : Bool) (left right : Option Char) : Bool :=
  match right with
  | none => true
  | some c =>
    if carriageReturns then c = '\r' || (c = '\n' && left ≠ some '\r') else c = '\n'

/-- What is asked about words, given whether there is one on either side. -/
def Boundary.test (b : Boundary) (left right : Bool) : Bool :=
  match b with
  | edge => left != right
  | inside => left == right
  | start => !left && right
  | stop => left && !right
  | startHalf => !left
  | stopHalf => !right

/-- Whether a place between two neighbours is as asked. -/
def Look.test (l : Look) (left right : Option Char) : Bool :=
  match l with
  | textStart => left.isNone
  | textEnd => right.isNone
  | lineStart carriageReturns => beginsLine carriageReturns left right
  | lineEnd carriageReturns => endsLine carriageReturns left right
  | word b isUnicode =>
    let members := if isUnicode then Character.word else asciiWord
    b.test (left.any members.contains) (right.any members.contains)

end Chip8.Pattern
