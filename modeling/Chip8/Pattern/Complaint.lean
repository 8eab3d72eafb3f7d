import Chip8.Pattern.Span

/-!
# Complaints

What can be wrong with a written pattern, as data: a cause, the span to
blame and sometimes an earlier span that it clashes with. `Complaint.render`
shows the pattern with both marked and names the cause.
-/

namespace Chip8.Pattern

/-- What is wrong. -/
inductive Cause where
  | classEscape | classRangeReversed | classRangeEnd | classUnclosed
  | numberTooLarge
  | hexEmpty | hexNoCharacter | hexDigit
  | escapeUnfinished | escapeUnknown
  | flagDangling | flagRepeated | negationRepeated | flagUnfinished | flagUnknown
  | nameRepeated | nameEmpty | nameSign | nameUnfinished
  | groupUnclosed | groupUnopened
  | nestedTooDeep (limit : Nat)
  | countReversed | countMissing | countUnclosed | repetitionOfNothing
  | boundaryUnclosed | boundaryUnknown | boundaryOrCountUnfinished
  | propertyForm | backreference | lookaround
  | unicodeNotAllowed | invalidBytes
  | propertyUnknown | propertyValueUnknown
  deriving DecidableEq

/-- The sentence about a cause. -/
def Cause.message : Cause → String
  | classEscape => "invalid escape sequence found in character class"
  | classRangeReversed => "invalid character class range, the start must be <= the end"
  | classRangeEnd => "invalid range boundary, must be a literal"
  | classUnclosed => "unclosed character class"
  | numberTooLarge => "decimal literal invalid"
  | hexEmpty => "hexadecimal literal empty"
  | hexNoCharacter => "hexadecimal literal is not a Unicode scalar value"
  | hexDigit => "invalid hexadecimal digit"
  | escapeUnfinished => "incomplete escape sequence, reached end of pattern prematurely"
  | escapeUnknown => "unrecognized escape sequence"
  | flagDangling => "dangling flag negation operator"
  | flagRepeated => "duplicate flag"
  | negationRepeated => "flag negation operator repeated"
  | flagUnfinished => "expected flag but got end of regex"
  | flagUnknown => "unrecognized flag"
  | nameRepeated => "duplicate capture group name"
  | nameEmpty => "empty capture group name"
  | nameSign => "invalid capture group character"
  | nameUnfinished => "unclosed capture group name"
  | groupUnclosed => "unclosed group"
  | groupUnopened => "unopened group"
  | nestedTooDeep limit =>
    "exceed the maximum number of nested parentheses/brackets (" ++ Numeral.decimal limit ++ ")"
  | countReversed => "invalid repetition count range, the start must be <= the end"
  | countMissing => "repetition quantifier expects a valid decimal"
  | countUnclosed => "unclosed counted repetition"
  | repetitionOfNothing => "repetition operator missing expression"
  | boundaryUnclosed =>
    "special word boundary assertion is either unclosed or contains an invalid character"
  | boundaryUnknown =>
    "unrecognized special word boundary assertion, valid choices are: start, end, start-half "
      ++ "or end-half"
  | boundaryOrCountUnfinished =>
    "found either the beginning of a special word boundary or a bounded repetition on a "
      ++ "\\b with an opening brace, but no closing brace"
  | propertyForm => "invalid Unicode character class"
  | backreference => "backreferences are not supported"
  | lookaround => "look-around, including look-ahead and look-behind, is not supported"
  | unicodeNotAllowed => "Unicode not allowed here"
  | invalidBytes => "pattern can match invalid UTF-8"
  | propertyUnknown => "Unicode property not found"
  | propertyValueUnknown => "Unicode property value not found"

/-- A cause, where it is, and what it clashes with. -/
structure Complaint where
  cause : Cause
  span : Span
  clash : Option Span
  deriving DecidableEq

namespace Complaint

/-- The line that sets off a pattern of several lines. -/
def ruler : List Char := List.replicate 79 '~' ++ ['\n']

/-- The complaint with the pattern that it is about. -/
def render (c : Complaint) (pattern : List Char) : String :=
  let spans := c.span :: c.clash.toList
  let listing := marked pattern spans
  let notes := longSpans spans
  let shown :=
    if pattern.contains '\n' then
      String.ofList (ruler ++ listing ++ ruler)
        ++ (if notes.isEmpty then "" else "\n".intercalate notes ++ "\n")
    else String.ofList listing
  "regex parse error:\n" ++ shown ++ "error: " ++ c.cause.message

end Complaint

end Chip8.Pattern
