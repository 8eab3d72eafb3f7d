import Chip8.Numeral

/-!
# Spans

Where something stands in a written pattern, and how that is shown: the
pattern is listed line by line, and below a line carets mark the spans in it.
A pattern of one line is indented; the lines of a longer one are numbered.
-/

namespace Chip8.Pattern

open Numeral

/-- A place in a written pattern, by line and column from zero. -/
structure Place where
  line : Nat
  column : Nat
  deriving DecidableEq

namespace Place

/-- The place after a character. -/
def after (p : Place) (c : Char) : Place :=
  if c = '\n' then ⟨p.line + 1, 0⟩ else ⟨p.line, p.column + 1⟩

/-- Whether a place comes before another or is the same. -/
def le (p q : Place) : Bool := p.line < q.line || (p.line = q.line && p.column ≤ q.column)

end Place

/-- From one place up to another. -/
structure Span where
  start : Place
  stop : Place
  deriving DecidableEq

namespace Span

/-- The empty span at a place. -/
def point (p : Place) : Span := ⟨p, p⟩

/-- Whether a span stays on its line. -/
def isOneLine (s : Span) : Bool := s.start.line = s.stop.line

/-- Whether a span begins before another, or with it and ends no later. -/
def le (s t : Span) : Bool :=
  if s.start = t.start then s.stop.le t.stop else s.start.le t.start

/-- Carets under spans, in order, from a column on. Each has at least one. -/
def carets (column : Nat) : List Span → List Char
  | [] => []
  | s :: rest =>
    let blanks := s.start.column - column
    let marks := max 1 (s.stop.column - s.start.column)
    List.replicate blanks ' ' ++ List.replicate marks '^' ++
      carets (column + blanks + marks) rest

end Span

/-- Signs cut at the ends of their lines. -/
def cut : List Char → List (List Char)
  | [] => [[]]
  | c :: rest =>
    if c = '\n' then [] :: cut rest
    else
      match cut rest with
      | [] => [[c]]
      | line :: more => (c :: line) :: more

/-- A line without a carriage return at its end. -/
def chomp (line : List Char) : List Char :=
  if line.getLast? = some '\r' then line.dropLast else line

/-- The lines of a written pattern. Nothing after the last line end is no
line. -/
def lines (pattern : List Char) : List (List Char) :=
  let pieces := cut pattern
  let ended := pieces.dropLast.map chomp
  match pieces.getLast? with
  | none | some [] => ended
  | some line => ended ++ [line]

/-- The digits in the largest line number, which counts the place after the
last line end; none if there is one line. -/
def numberWidth (pattern : List Char) : Nat :=
  let count := (lines pattern).length + (decide (pattern.getLast? = some '\n')).toNat
  if count ≤ 1 then 0 else (decimalSigns count).length

/-- What stands in front of a line. -/
def margin (width : Nat) (line : Nat) : List Char :=
  if width = 0 then List.replicate 4 ' '
  else
    let number := decimalSigns (line + 1)
    List.replicate (width - number.length) ' ' ++ number ++ [':', ' ']

/-- A written pattern with carets under the spans that stay on a line. -/
def marked (pattern : List Char) (spans : List Span) : List Char :=
  let width := numberWidth pattern
  let spans := (spans.filter Span.isOneLine).mergeSort Span.le
  (lines pattern).zipIdx.flatMap fun (line, number) =>
    let here := spans.filter (·.start.line = number)
    let under :=
      if here.isEmpty then []
      else List.replicate (margin width number).length ' ' ++ Span.carets 0 here ++ ['\n']
    margin width number ++ line ++ ['\n'] ++ under

/-- Notes on the spans that go over several lines, with lines and columns from
one. -/
def longSpans (spans : List Span) : List String :=
  ((spans.filter (!·.isOneLine)).mergeSort Span.le).map fun s =>
    "on line " ++ decimal (s.start.line + 1) ++ " (column " ++ decimal (s.start.column + 1)
      ++ ") through line " ++ decimal (s.stop.line + 1) ++ " (column " ++ decimal s.stop.column
      ++ ")"

end Chip8.Pattern
