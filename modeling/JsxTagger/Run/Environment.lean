import JsxTagger.Failure.Fault
import JsxTagger.Instrument.Identity
import JsxTagger.Syntax.Tree

/-!
# The surroundings of a run

What a run takes from the machine it runs on, files apart: the date, the users' home directories,
the programs that can be started, the parser, where new element ids come from, and how many calls can
be made inside each other. All of it stays the same during a run.

Of the calls only those count that functions make of themselves, and those on the way to them. What a machine
counts besides, for calls into its libraries and for what the innermost of these calls call, is taken off the
number beforehand.
-/

namespace JsxTagger

/-- What a process that was started did. -/
inductive ProcessOutcome where
  /-- It could not be started. -/
  | refused (text : String)
  /-- It ended with an exit code, having written to its two outputs. -/
  | ended (code : Int) (output : String) (errors : Option String)
  /-- Nothing can be said about it, because its command line or its input has no byte form, or what it
  wrote is no text. -/
  | disrupted (fault : Fault)
deriving DecidableEq, Repr, Inhabited

/-- What a run takes from the machine, files apart. -/
structure Environment where
  /-- The date, as the name of the day's log directory. -/
  today : String
  /-- The time stamp of log lines. -/
  stamp : String
  /-- The home directory of a user; the empty name is that of the user who runs the program. -/
  home : String → Option String
  /-- The number of processors. -/
  processors : Nat := 1
  /-- The ids of new elements. -/
  ids : Instrument.IdStream
  /-- The root of the tree that the parser makes of a text, errors included. -/
  rootOf : String → Syntax.Node
  /-- How many calls can be made inside each other where a command starts its work. -/
  room : Nat
  /-- How many calls can be made inside each other where a worker looks through wrappers. -/
  workerRoom : Nat
  /-- The path of the program with the given name. -/
  findProgram : String → Option String := fun _ => none
  /-- What a process does that is started with a command line and an input. -/
  runProgram : List String → String → ProcessOutcome := fun _ _ => .refused ""

/-- Parses the text of a file. -/
def Environment.parse (env : Environment) : Syntax.Parser := Syntax.SourceTree.parseWith env.rootOf

end JsxTagger
