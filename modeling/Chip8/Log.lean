import Chip8.Event

/-!
# The log

The events that a filter lets through, a line each. Which events these are is
up to the filter. The sources stand in a column that widens as longer ones come
along, so what a filter leaves out leaves no trace in the layout either.
-/

namespace Chip8.Log

/-- What decides which events the log shows, and what is to be said about it in
front of them. -/
structure Filter where
  admits : Event → Bool
  warnings : List String

/-- A text followed by blanks up to a width. -/
def column (width : Nat) (s : String) : String :=
  s ++ String.ofList (List.replicate (width - s.length) ' ')

/-- One event as a line, with the source in a column. -/
def line (width : Nat) (e : Event) : String :=
  " " ++ column 5 e.level.name ++ " " ++ column width e.source ++ " > " ++ e.text ++ "\n"

/-- Events as lines, in a source column at least `width` wide. Every line's
column is as wide as the longest source printed up to it. -/
def lines (width : Nat) : List Event → List String
  | [] => []
  | e :: rest =>
    let width := max width e.source.length
    line width e :: lines width rest

/-- A warning as a line. -/
def warning (message : String) : String := "warning: " ++ message ++ "\n"

/-- What is printed about some events: the warnings of a filter, then the events
that it lets through. -/
def render (filter : Filter) (events : List Event) : String :=
  String.join (filter.warnings.map warning ++ lines 0 (events.filter filter.admits))

end Chip8.Log
