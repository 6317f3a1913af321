import JsxTagger.Decimal.Digits
import JsxTagger.Files.System
import JsxTagger.Text.Blank
import JsxTagger.Text.Digit

/-!
# Command-line arguments

There are two commands, `scan` and `build`. Options may stand before and after the input root; when
an option is given twice, the last one counts. The value of an option follows it, or is joined to it
by an equals sign; after a single dash it is joined without one. Two dashes alone end the options,
those before the command too.
-/

namespace JsxTagger.Cli

/-- The options of a command. -/
structure Options where
  /-- The values of the options that have one. -/
  values : List (String × String) := []
  /-- The switches that were set. -/
  switches : List (String × Bool) := []
  /-- The arguments that belong to no option. -/
  positional : List String := []
deriving Repr, Inhabited

/-- What the options of a command are called. -/
structure OptionNames where
  /-- The options with a value, each with the setting it stands for. -/
  valued : List (String × String)
  /-- The switches, each with the setting it stands for and its truth. -/
  switches : List (String × String × Bool) := []

/-- The options that all commands have. -/
def sharedValued : List (String × String) :=
  [("--structure", "structure"), ("--config", "config"), ("--log-level", "log_level"),
   ("--log-dir", "log_dir")]

/-- The options of `scan`. -/
def scanNames : OptionNames := { valued := sharedValued }

/-- The options of `build`. -/
def buildNames : OptionNames where
  valued :=
    [("--output", "output"), ("-o", "output"), ("--format-config", "format_config"),
     ("--workers", "workers")] ++ sharedValued
  switches :=
    [("--format", "format", true), ("--no-format", "format", false),
     ("--fail-fast", "fail_fast", true), ("--no-fail-fast", "fail_fast", false),
     ("--reuse-structure", "reuse_structure", true)]

namespace Options

/-- The last value of an option. -/
def value? (o : Options) (key : String) : Option String := o.values.reverse.lookup key

/-- The last setting of a switch. -/
def switch? (o : Options) (key : String) : Option Bool := o.switches.reverse.lookup key

/-- Takes a value. -/
def take (o : Options) (key value : String) : Options :=
  { o with values := o.values ++ [(key, value)] }

end Options

/-- An argument up to its first equals sign, and what follows that sign. -/
def splitEquals (arg : String) : String × Option String :=
  let head := arg.toList.takeWhile (· != '=')
  match arg.toList.drop head.length with
  | _ :: value => (String.ofList head, some (String.ofList value))
  | [] => (arg, none)

/-- How an argument is understood. -/
inductive Reading where
  /-- It belongs to no option. -/
  | positional
  /-- It ends the options. -/
  | endOfOptions
  /-- It sets a switch. -/
  | switch (key : String) (on : Bool)
  /-- It is an option together with its value. -/
  | whole (key value : String)
  /-- It is an option whose value follows. -/
  | pending (key : String)
  /-- There is no such option. -/
  | unknown
deriving DecidableEq, Repr

/-- Reads one argument. -/
def readArgument (names : OptionNames) (arg : String) : Reading :=
  if arg = "--" then .endOfOptions
  else
    match arg.toList with
    | '-' :: '-' :: _ =>
      let (head, value) := splitEquals arg
      match names.valued.lookup head, names.switches.lookup head, value with
      | some key, _, none => .pending key
      | some key, _, some value => .whole key value
      | none, some (key, on), none => .switch key on
      | none, _, _ => .unknown
    | '-' :: letter :: rest =>
      match names.valued.lookup (String.ofList ['-', letter]), rest with
      | some key, [] => .pending key
      | some key, value => .whole key (String.ofList value)
      | none, _ => .unknown
    | _ => .positional

/-- Reads the arguments of a command. -/
def readArguments (names : OptionNames) : List String → Options → Option Options
  | [], o => some o
  | arg :: args, o =>
    match readArgument names arg with
    | .positional => readArguments names args { o with positional := o.positional ++ [arg] }
    | .endOfOptions => some { o with positional := o.positional ++ args }
    | .switch key on => readArguments names args { o with switches := o.switches ++ [(key, on)] }
    | .whole key value => readArguments names args (o.take key value)
    | .pending key =>
      match args with
      | value :: args => readArguments names args (o.take key value)
      | [] => none
    | .unknown => none

/-- The digits of a number in which underscores may separate digits. -/
def digitsOf (afterDigit : Bool) : List Char → Option (List Nat)
  | [] => if afterDigit then some [] else none
  | c :: cs =>
    if c = '_' then if afterDigit then digitsOf false cs else none
    else do return (← Text.decimalValue? c) :: (← digitsOf true cs)

/-- The number that a text stands for. Blanks around it do not matter, and it must not have too many
digits. -/
def integer? (s : String) : Option Int :=
  let number (cs : List Char) : Option Nat := do
    let ds ← digitsOf false cs
    if Decimal.maxDigits < ds.length then none else some (ds.foldl (fun n d => 10 * n + d) 0)
  match Text.trimChars s.toList with
  | '-' :: cs => (number cs).map fun n => -(n : Int)
  | '+' :: cs => (number cs).map Int.ofNat
  | cs => (number cs).map Int.ofNat

/-- A command with the path of its input root. -/
inductive Command where
  /-- Scans the input root and writes the structure document. -/
  | scan (inputRoot : String) (options : Options)
  /-- Writes the instrumented copy. The number of workers is checked. -/
  | build (inputRoot : String) (workers : Option Int) (options : Options)
deriving Repr, Inhabited

/-- The options whose values are paths. -/
def pathOptions : List String := ["output", "format_config", "structure", "config", "log_dir"]

/-- Whether the values of a command's options can be used: the system takes every path. -/
def Options.valid (o : Options) : Bool :=
  pathOptions.all fun key =>
    (Files.FileSystem.pathFault? (Files.Path.ofText ((o.value? key).getD ""))).isNone

/-- The command with the given name and arguments. Nothing is returned if they cannot be used. -/
def Command.ofName (name : String) (args : List String) : Option Command := do
  match name with
  | "scan" =>
    let o ← readArguments scanNames args {}
    match o.valid, o.positional with
    | true, [inputRoot] => some (.scan inputRoot o)
    | _, _ => none
  | "build" =>
    let o ← readArguments buildNames args {}
    let workers ←
      match o.value? "workers" with
      | none => some none
      | some text =>
        match integer? text with
        | some n => if 1 ≤ n then some (some n) else none
        | none => none
    match o.valid, o.positional with
    | true, [inputRoot] => some (.build inputRoot workers o)
    | _, _ => none
  | _ => none

/-- The command that arguments stand for. -/
def Command.parse : List String → Option Command
  | "--" :: name :: args | name :: args => Command.ofName name args
  | [] => none

end JsxTagger.Cli
