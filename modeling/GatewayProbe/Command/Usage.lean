/-
Reading a command line.

A command line is read from left to right. Each level of commands has options of its own, besides
those that every level knows; the name of a command opens the next level. An option that takes a
value may be followed by it, or carry it after an equals sign; short options may be written
together. What an option was given is settled only when the next option begins or the line ends, so
of two faults the one met first in this order is told.

* `Opt`, `Scope` — the options and commands of a level;
* `UsageError` — what can be wrong;
* `scanLevel` — the options found on each level.
-/
import GatewayProbe.Text.Lines

namespace GatewayProbe

/-- What is wrong with a command line, or what it asks for instead of a run. -/
inductive UsageError where
  | unknownValue
  | unknownArgument
  | unknownCommand
  | surplusValue
  | malformedValue
  | conflict
  | missingArgument
  | missingCommand
  | help
  | helpOnMissing
  | version
  deriving DecidableEq, Repr

/-- The wording of an error. -/
def UsageError.message : UsageError → String
  | .unknownValue => "an option was given a value it does not take"
  | .unknownArgument => "an argument was not expected"
  | .unknownCommand => "there is no such command"
  | .surplusValue => "an option that takes no value was given one"
  | .malformedValue => "an option was given a value that cannot be read"
  | .conflict => "two options cannot stand together"
  | .missingArgument => "an argument is missing"
  | .missingCommand => "a command is missing"
  | .help | .helpOnMissing => "help was asked for"
  | .version => "the version was asked for"

/-- The exit code of a program that reads such a command line. -/
def UsageError.exitCode : UsageError → UInt32
  | .help | .version => 0
  | _ => 2

/-- What an option takes. -/
inductive Takes where
  /-- Nothing; it may stand once. -/
  | nothing
  /-- A value; it may stand once. -/
  | value
  /-- A value; it may stand any number of times. -/
  | values
  /-- Nothing; it ends the reading with an answer of its own. -/
  | answer (e : UsageError)
  deriving DecidableEq, Repr

/-- An option, or an argument without a dash. -/
structure Opt where
  name : String
  short : Option Char := none
  takes : Takes := .nothing
  /-- What is wrong with a value. -/
  fault? : String → Option UsageError := fun _ => none

/-- The options and commands of a level. -/
structure Scope where
  options : List Opt
  /-- The argument without a dash. -/
  positional : Option Opt := none
  commands : List String := []

/-- What was found on a level: the values of each option that occurred. -/
abbrev Given := List (String × List String)

/-- A level while it is read. -/
structure Level where
  found : Given := []
  /-- An option that was begun and not yet settled, with its values. -/
  pending : Option (Opt × List String) := none
  /-- The pending option still needs its value. -/
  isWaiting : Bool := false
  /-- Two dashes were read, so only arguments without a dash follow. -/
  isTrailing : Bool := false

namespace Level

/-- The option occurred. -/
def has (l : Level) (name : String) : Bool := l.found.any fun entry => entry.1 = name

/-- Adds values to an option. -/
def add (l : Level) (name : String) (values : List String) : Level :=
  if l.has name then
    { l with found := l.found.map fun entry =>
        if entry.1 = name then (name, entry.2 ++ values) else entry }
  else { l with found := l.found ++ [(name, values)] }

/-- Takes note of an option with its values. -/
def record (l : Level) (o : Opt) (values : List String) : Except UsageError Level :=
  match o.takes with
  | .answer e => .error e
  | .nothing => if l.has o.name then .error .conflict else .ok (l.add o.name [])
  | .value | .values =>
    if values.isEmpty then .error .unknownValue
    else if o.takes = .value && l.has o.name then .error .conflict
    else match values.findSome? o.fault? with
      | some e => .error e
      | none => .ok (l.add o.name values)

/-- Settles the pending option. -/
def settle (l : Level) : Except UsageError Level :=
  match l.pending with
  | none => .ok l
  | some (o, values) => { l with pending := none, isWaiting := false }.record o values

/-- Begins an option, with a value if one is attached. -/
def begin (l : Level) (o : Opt) (attached : Option String) : Except UsageError Level := do
  let l ← l.settle
  match o.takes, attached with
  | .value, none | .values, none => return { l with pending := some (o, []), isWaiting := true }
  | _, attached => l.record o attached.toList

/-- Reads an option with two dashes. -/
def readLong (scope : Scope) (l : Level) (text : List Char) : Except UsageError Level :=
  let name := String.ofList (text.takeWhile (· ≠ '='))
  let attached := match text.dropWhile (· ≠ '=') with
    | _ :: value => some (String.ofList value)
    | [] => none
  match scope.options.find? (·.name = name) with
  | none => .error .unknownArgument
  | some o => match o.takes with
    | .value | .values => l.begin o attached
    | .nothing | .answer _ => if attached.isSome then .error .surplusValue else l.begin o none

/-- Reads options with one dash. -/
def readShort (scope : Scope) (l : Level) : List Char → Except UsageError Level
  | [] => .ok l
  | c :: rest =>
    match scope.options.find? (·.short = some c) with
    | none => .error .unknownArgument
    | some o => match o.takes with
      | .value | .values =>
        match rest with
        | [] => l.begin o none
        | '=' :: value => l.begin o (some (String.ofList value))
        | value => l.begin o (some (String.ofList value))
      | .nothing | .answer _ => do
        let l ← l.begin o none
        readShort scope l rest

/-- Reads an argument without a dash. -/
def readPlain (scope : Scope) (l : Level) (text : String) : Except UsageError Level :=
  let isTaken (o : Opt) : Bool := l.has o.name || (l.pending.any fun p => p.1.name = o.name)
  match scope.positional.filter fun o => !isTaken o with
  | some o => do
    let l ← l.settle
    return { l with pending := some (o, [text]) }
  | none =>
    if l.isTrailing && scope.commands.contains text then .error .unknownArgument
    else if scope.commands.isEmpty then .error .unknownArgument
    else .error .unknownCommand

/-- Reads one argument that opens no level. -/
def read (scope : Scope) (l : Level) (text : String) : Except UsageError Level :=
  if l.isTrailing then l.readPlain scope text
  else match text.toList with
    | ['-', '-'] => .ok { l with isTrailing := true }
    | '-' :: '-' :: long => l.readLong scope long
    | '-' :: c :: short => l.readShort scope (c :: short)
    | _ => match l.isWaiting, l.pending with
      | true, some (o, values) =>
        .ok { l with pending := some (o, values ++ [text]), isWaiting := false }
      | _, _ => l.readPlain scope text

end Level

/-- The command that asks for help on another. -/
def helpCommand : String := "help"

/-- Whether help can be given on the command that a path leads to. -/
def helpAnswer (scopes : List String → Scope) (path : List String) : List String → UsageError
  | [] => .help
  | name :: rest =>
    if path.getLast? ≠ some helpCommand && (scopes path).commands.contains name then
      helpAnswer scopes (path ++ [name]) rest
    else .unknownCommand

/-- Reads the arguments of a level and of those it opens. Gives the path of commands and what was
found on each level, from the outermost on. A level is checked when those it opens are read. -/
def scanLevel (scopes : List String → Scope)
    (check : List String → Bool → Given → Except UsageError Unit) (path : List String) (l : Level) :
    List String → Except UsageError (List String × List Given)
  | [] => do
    let l ← l.settle
    check path false l.found
    return (path, [l.found])
  | text :: rest =>
    if !l.isTrailing && !l.isWaiting && (scopes path).commands.contains text then
      if text = helpCommand then .error (helpAnswer scopes path rest)
      else do
        let (command, inner) ← scanLevel scopes check (path ++ [text]) {} rest
        let l ← l.settle
        check path true l.found
        return (command, l.found :: inner)
    else do
      let l ← l.read (scopes path) text
      scanLevel scopes check path l rest

end GatewayProbe
