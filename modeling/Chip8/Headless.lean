import Chip8.Host.Session
import Chip8.Log.Filter

/-!
# Headless sessions

Running a program without a screen: load it, tick it a set number of times
without input, and print the last picture. `run` is a function from the
options and the contents of the program file to a `Report`; all that is left
to the command line is reading the file and writing the report.
-/

namespace Chip8.Headless

open Numeral

/-- What a session is asked to do. -/
structure Options where
  /-- The program file. -/
  file : String
  /-- How many steps to run. -/
  steps : Nat
  pacing : Pacing
  seed : UInt64

/-- Why a file could not be read. -/
structure FileError where
  code : Nat
  kind : String
  message : String
  deriving DecidableEq

/-- There is no such file. -/
def FileError.notFound : FileError := ⟨2, "NotFound", "No such file or directory"⟩

/-- The error as a record. -/
def FileError.record (e : FileError) : String :=
  "Os \x7b code: " ++ decimal e.code ++ ", kind: " ++ e.kind ++ ", message: "
    ++ Event.quoted e.message ++ " \x7d"

/-- Why a session failed. -/
inductive Failure where
  | file (e : FileError)
  | fault (f : Fault)
  deriving DecidableEq

/-- The failure as a record. -/
def Failure.record : Failure → String
  | file e => e.record
  | fault f => f.record

/-- What came of a session. -/
structure Report where
  /-- What is printed. -/
  output : String
  events : List Event
  /-- Ticks attempted. -/
  ticks : Nat
  failure : Option Failure

namespace Report

/-- The exit code: one for a failure. -/
def exitCode (r : Report) : Nat := if r.failure.isSome then 1 else 0

/-- What is printed beside the output: the log through a filter, and the
failure. -/
def diagnostics (r : Report) (filter : Log.Filter) : String :=
  Log.render filter r.events ++
    match r.failure with
    | some f => "Error: " ++ f.record ++ "\n"
    | none => ""

/-- The same with a filter as it is written. -/
def stderr (r : Report) (filter : String) : String := r.diagnostics (.read filter)

end Report

/-- The fault of an outcome. -/
def failureOf {α : Type} : Except Fault α → Option Failure
  | .ok _ => none
  | .error fault => some (.fault fault)

/-- A host with a new machine, no input and recorded output. -/
def host (options : Options) : Host NoInput Recorder :=
  .new (.ofSeed options.seed) {} .empty options.pacing

/-- Tick a host with its program loaded, and report. -/
def finish (options : Options) (h : Host NoInput Recorder) (events : List Event) : Report :=
  let s := h.run options.steps
  let summary := .finished s.ticks s.host.output.frames s.host.output.beeps
  ⟨s.host.machine.display.screen.text, events ++ s.log.toList ++ [summary], s.ticks,
    failureOf s.outcome⟩

/-- Run a program file. -/
def run (options : Options) (program : Except FileError (List UInt8)) : Report :=
  let opened := [.opening options.file]
  match program with
  | .error e => ⟨"", opened, 0, some (.file e)⟩
  | .ok bytes =>
    let e := (host options).load bytes
    match e.outcome with
    | .error fault => ⟨"", opened ++ e.log, 0, some (.fault fault)⟩
    | .ok () => finish options e.state (opened ++ e.log)

end Chip8.Headless
