import Chip8.Log
import Chip8.Pattern.Match
import Chip8.Pattern.Refusal
import Chip8.Text.Blank

/-!
# Written filters

Filters of the log as people write them: directives with commas between them,
and perhaps a slash and a pattern after them. The directives are

* a level by its name, for all sources: its events and the more severe ones;
* a source, an equals sign and a level, for the sources that begin this way;
* a source alone, or with nothing after the equals sign: everything from there.

`off` in the place of a level shuts a source up. Where several directives
apply to a source the one that spells out most of it decides, and a source to
which none applies is not shown. With no directive at all errors are shown.
Of all these events those are shown whose text has a piece as the pattern
describes.
-/

namespace Chip8.Log

/-- The least severe level that is let through; without one nothing is. -/
abbrev Threshold := Option Level

namespace Threshold

/-- The threshold with a name, in capital or small letters of ASCII. -/
def ofName? (name : String) : Option Threshold :=
  if name.toList.map Char.toUpper = ['O', 'F', 'F'] then some none
  else (Level.ofName? name).map some

/-- Whether a level is let through. -/
def admits (t : Threshold) (l : Level) : Bool :=
  match t with
  | some least => l.rank ≤ least.rank
  | none => false

end Threshold

/-- What is let through from the sources that begin in some way. -/
structure Directive where
  beginning : String
  threshold : Threshold
  deriving DecidableEq

namespace Directive

/-- Whether a source begins as the directive says. -/
def covers (d : Directive) (source : String) : Bool :=
  d.beginning.toList.isPrefixOf source.toList

/-- A directive as it is written, or else what to complain about. -/
def read (s : String) : Except String Directive :=
  match s.splitOn "=" with
  | [word] =>
    match Threshold.ofName? word with
    | some threshold => .ok ⟨"", threshold⟩
    | none => .ok ⟨word, some .trace⟩
  | [source, word] =>
    let name := String.ofList (Text.trim word.toList)
    if name = "" then .ok ⟨source, some .trace⟩
    else
      match Threshold.ofName? name with
      | some threshold => .ok ⟨source, threshold⟩
      | none => .error name
  | _ => .error s

end Directive

/-- What makes no sense in a written filter. -/
inductive Warning where
  /-- A part that is no directive. -/
  | directive (s : String)
  /-- More than one slash. -/
  | slashes (s : String)
  | pattern (signs : List Char) (why : Pattern.Refusal)
  deriving DecidableEq

/-- What is said about it. -/
def Warning.message : Warning → String
  | directive s => "invalid logging spec '" ++ s ++ "', ignoring it"
  | slashes s => "invalid logging spec '" ++ s ++ "', ignoring it (too many '/'s)"
  | pattern signs why => "invalid regex filter - " ++ why.render signs

/-- What a written filter asks for, and what makes no sense in it. -/
structure Spec where
  directives : List Directive
  pattern : Option Pattern
  warnings : List Warning

namespace Spec

/-- The directives that hold where none are written. -/
def usual : List Directive := [⟨"", some .error⟩]

/-- The directives among some parts. -/
def accepted (parts : List (Except String Directive)) : List Directive :=
  parts.filterMap fun
    | .ok d => some d
    | .error _ => none

/-- The warnings about some parts. -/
def refused (parts : List (Except String Directive)) : List Warning :=
  parts.filterMap fun
    | .ok _ => none
    | .error s => some (.directive s)

/-- What directives without a pattern ask for. -/
def ofDirectives (s : String) : Spec :=
  let parts := ((s.splitOn ",").filter (· ≠ "")).map Directive.read
  let directives := accepted parts
  ⟨if directives = [] then usual else directives, none, refused parts⟩

/-- The same with a pattern as it is written. One that is refused is left
out. -/
def withPattern (signs : List Char) (spec : Spec) : Spec :=
  match Pattern.read signs with
  | .ok p => { spec with pattern := some p }
  | .error why => { spec with warnings := spec.warnings ++ [.pattern signs why] }

/-- What a written filter asks for. With more than one slash nothing in it
counts. -/
def read (s : String) : Spec :=
  match s.splitOn "/" with
  | [directives] => ofDirectives directives
  | [directives, pattern] => (ofDirectives directives).withPattern pattern.toList
  | _ => ⟨usual, none, [.slashes s]⟩

/-- The more telling of two directives, the later one if they tell the same. -/
def telling (earlier : Option Directive) (later : Directive) : Option Directive :=
  match earlier with
  | none => some later
  | some d => if later.beginning.length < d.beginning.length then some d else some later

/-- The directive that decides about a source. -/
def decisive? (spec : Spec) (source : String) : Option Directive :=
  (spec.directives.filter (·.covers source)).foldl telling none

/-- Whether the directives let an event through. -/
def lets (spec : Spec) (e : Event) : Bool :=
  match spec.decisive? e.source with
  | some d => d.threshold.admits e.level
  | none => false

/-- Whether an event is shown. -/
def admits (spec : Spec) (e : Event) : Bool :=
  spec.lets e && spec.pattern.all (·.occursIn e.text.toList)

end Spec

/-- A filter as it is written. -/
def Filter.read (s : String) : Filter :=
  let spec := Spec.read s
  ⟨spec.admits, spec.warnings.map Warning.message⟩

end Chip8.Log
