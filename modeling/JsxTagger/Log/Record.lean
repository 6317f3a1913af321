/-!
# Log records

Every stage of a run writes records to the log. A record has a level, the name of the stage and a
message.
-/

namespace JsxTagger.Log

/-- How serious a record is. -/
inductive Level where
  | debug
  | info
  | warning
  | error
  | critical
deriving DecidableEq, Repr, Inhabited

namespace Level

/-- All levels, the least serious first. -/
def all : List Level := [debug, info, warning, error, critical]

/-- The name of a level. -/
def name : Level → String
  | debug => "DEBUG"
  | info => "INFO"
  | warning => "WARNING"
  | error => "ERROR"
  | critical => "CRITICAL"

/-- The level with the given name. -/
def ofName? (s : String) : Option Level := all.find? (·.name == s)

/-- The rank of a level: a higher one is more serious. -/
def rank : Level → Nat
  | debug => 10
  | info => 20
  | warning => 30
  | error => 40
  | critical => 50

end Level

/-- One record of the log. -/
structure Record where
  /-- How serious it is. -/
  level : Level
  /-- The stage that wrote it. -/
  logger : String
  /-- What it says. -/
  message : String
deriving DecidableEq, Repr, Inhabited

/-- The name of a record's logger in the log: the nameless one is the root of all. -/
def Record.loggerName (r : Record) : String := if r.logger.isEmpty then "root" else r.logger

end JsxTagger.Log
