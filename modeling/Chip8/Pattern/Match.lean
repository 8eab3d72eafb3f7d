import Chip8.Pattern

/-!
# Matching

Whether a text holds a piece that a pattern describes. The places of a text
are its ends and the gaps between its characters, numbered from zero, and a
set of them is a number with a bit for each; `reach` takes the places where a
piece may begin to those where it may end. So a repetition is an iteration on
one number, which is over as soon as the number stays the same, however large
the count is.
-/

namespace Chip8.Pattern

/-- A set of places in a text. -/
abbrev Places := Nat

/-- All places of a text. -/
def everywhere (text : List Char) : Places := 1 <<< (text.length + 1) - 1

/-- The places in front of the characters that pass a test. -/
def before (accepts : Char → Bool) : List Char → Places
  | [] => 0
  | c :: rest => (accepts c).toNat + 2 * before accepts rest

/-- The places whose neighbours pass a test, given the one on the left of the
first. -/
def gaps (accepts : Option Char → Option Char → Bool) (left : Option Char) : List Char → Places
  | [] => (accepts left none).toNat
  | c :: rest => (accepts left (some c)).toNat + 2 * gaps accepts (some c) rest

/-- The places after the characters that pass a test, if they begin at some
places. -/
def past (text : List Char) (accepts : Char → Bool) (s : Places) : Places :=
  (s &&& before accepts text) <<< 1

/-- Take a step some number of times. -/
def exactly (step : Places → Places) : Nat → Places → Places
  | 0, s => s
  | n + 1, s =>
    let next := step s
    if next = s then s else exactly step n next

/-- Take a step up to some number of times, keeping all places on the way. -/
def within (step : Places → Places) : Nat → Places → Places
  | 0, s => s
  | n + 1, s =>
    let next := s ||| step s
    if next = s then s else within step n next

mutual

/-- The places where a piece may end that begins in one of a set. Without an
upper bound a repetition has gone everywhere once it was taken as often as
there are places. -/
def reach (text : List Char) : Pattern → Places → Places
  | empty, s => s
  | literal signs, s => signs.foldl (fun s c => past text (· = c) s) s
  | oneOf _ set, s => past text set.contains s
  | look l, s => s &&& gaps l.test none text
  | repeated p count _, s =>
    let rounds := count.further.getD (text.length + 1)
    within (p.reach text) rounds (exactly (p.reach text) count.least s)
  | group _ p, s => p.reach text s
  | sequence ps, s => reachThrough text ps s
  | choice ps, s => reachAny text ps s

/-- The places where pieces may end that follow each other. -/
def reachThrough (text : List Char) : List Pattern → Places → Places
  | [], s => s
  | p :: rest, s => reachThrough text rest (p.reach text s)

/-- The places where one of several pieces may end. -/
def reachAny (text : List Char) : List Pattern → Places → Places
  | [], _ => 0
  | p :: rest, s => p.reach text s ||| reachAny text rest s

end

/-- Whether a piece of a text is as described. -/
def occursIn (p : Pattern) (text : List Char) : Bool := p.reach text (everywhere text) ≠ 0

end Chip8.Pattern
