import DatasetCatalog.SocketAddress
import DatasetCatalog.StringMap
import DatasetCatalog.Text.Decimal

/-!
# Command-line arguments

A command takes named arguments, in any order and each at most once, and nothing else. An argument
with a value is written `--name value`, `--name=value`, `-n value` or `-nvalue`; an argument without
one is either there or not. What the command line leaves out can come from an environment variable.

`Usage` describes the arguments of a command. `Usage.read` gives their values by name, or what the
command has to say instead of running.
-/

namespace DatasetCatalog.CommandLine

/-- What a value has to be. -/
inductive ValueKind
  | text
  /-- A path, which is not empty. -/
  | path
  /-- An address to listen on. -/
  | address
  /-- `true` or `false`, whether the argument is there. Only the environment can say so in words. -/
  | presence
  deriving DecidableEq, Repr

/-- An argument of a command. -/
structure Argument where
  name : String
  letter : Option Char := none
  kind : ValueKind := .presence
  /-- What stands for the value in messages; an argument without value has none. -/
  placeholder : Option String := none
  /-- The environment variable that can hold the value. -/
  environmentName : Option String := none
  required : Bool := false
  summary : String := ""
  /-- The value that is taken without one, as far as the help names it. -/
  fallback : Option String := none
  deriving DecidableEq, Repr

/-- A command and its arguments. -/
structure Usage where
  command : String
  version : String
  summary : String
  arguments : List Argument
  deriving Repr

/-- What is wrong with a command line. -/
inductive UsageError
  | unexpected (text : String)
  | missingValue (a : Argument)
  | unwantedValue (a : Argument) (value : String)
  | repeated (a : Argument)
  | missing (a : Argument)
  | invalidValue (a : Argument) (value : String)
  deriving DecidableEq, Repr

/-- Why a command does not run. -/
inductive Halt
  | refused (e : UsageError)
  | help
  | version
  deriving DecidableEq, Repr

namespace Argument

/-- The argument in messages. -/
def text (a : Argument) : String :=
  match a.placeholder with
  | some p => "--" ++ a.name ++ " <" ++ p ++ ">"
  | none => "--" ++ a.name

/-- Refuses what cannot be the value of an argument. -/
def check (a : Argument) (value : String) : Except Halt Unit :=
  match a.kind with
  | .text => .ok ()
  | .path => if value.isEmpty then .error (.refused (.missingValue a)) else .ok ()
  | .address =>
    if (SocketAddress.parse? value).isSome then .ok ()
    else .error (.refused (.invalidValue a value))
  | .presence =>
    if value = "true" ∨ value = "false" then .ok ()
    else .error (.refused (.invalidValue a value))

end Argument

namespace Usage

/-- The values of arguments by name. Each is one that its argument accepts. -/
abbrev Values := StringMap String

/-- The value of an argument that is there without one. -/
def present : String := "true"

/-- Whether a text looks like an argument and not like a value. -/
def looksLikeArgument (text : String) : Bool :=
  match text.toList with
  | '-' :: _ :: _ => true
  | _ => false

/-- Takes a value in. -/
def take (a : Argument) (value : String) (vs : Values) : Except Halt Values :=
  if StringMap.contains a.name vs then .error (.refused (.repeated a))
  else (a.check value).map fun _ => StringMap.insert a.name value vs

/-- The arguments that every command has beside its own, and what they make of it. -/
def standard : List (Argument × Halt) := [
  ({ name := "help", letter := some 'h', summary := "Print help" }, .help),
  ({ name := "version", letter := some 'V', summary := "Print version" }, .version)]

/-- An argument of a long name, with the value attached to it. -/
def named (u : Usage) (name : String) (value : Option String) :
    Except Halt (Argument × Option String) :=
  match u.arguments.find? fun a => a.name == name with
  | some a => .ok (a, value)
  | none =>
    match standard.find? fun s => s.1.name == name, value with
    | some (a, _), some value => .error (.refused (.unwantedValue a value))
    | some (_, halt), none => .error halt
    | none, _ => .error (.refused (.unexpected ("--" ++ name)))

/-- An argument of a letter, with the value attached to it. What every command has does not look at
what follows its letter. -/
def lettered (u : Usage) (letter : Char) (value : Option String) :
    Except Halt (Argument × Option String) :=
  match u.arguments.find? fun a => a.letter == some letter with
  | some a => .ok (a, value)
  | none =>
    match standard.find? fun s => s.1.letter == some letter with
    | some (_, halt) => .error halt
    | none => .error (.refused (.unexpected (String.ofList ['-', letter])))

/-- An argument as it stands on the command line: which one, and the value attached to it. -/
def recognize (u : Usage) (text : String) : Except Halt (Argument × Option String) :=
  match text.toList with
  | '-' :: '-' :: rest =>
    u.named (String.ofList (rest.takeWhile (· ≠ '=')))
      (match rest.dropWhile (· ≠ '=') with
        | [] => none
        | _ :: value => some (String.ofList value))
  | '-' :: letter :: rest =>
    u.lettered letter
      (match rest with
        | [] => none
        | '=' :: value => some (String.ofList value)
        | value => some (String.ofList value))
  | _ => .error (.refused (.unexpected text))

/-- Reads a command line from left to right. -/
def readLine (u : Usage) : Values → List String → Except Halt Values
  | vs, [] => .ok vs
  | vs, "--" :: rest =>
    match rest with
    | [] => .ok vs
    | text :: _ => .error (.refused (.unexpected text))
  | vs, text :: rest => do
    let (a, attached) ← u.recognize text
    match a.placeholder, attached with
    | none, none => u.readLine (← take a present vs) rest
    | none, some value => .error (.refused (.unwantedValue a value))
    | some _, some value => u.readLine (← take a value vs) rest
    | some _, none =>
      match rest with
      | [] => .error (.refused (.missingValue a))
      | value :: rest =>
        if looksLikeArgument value then .error (.refused (.missingValue a))
        else u.readLine (← take a value vs) rest

/-- Takes from the environment what the command line leaves out. -/
def fill (environment : StringMap String) (vs : Values) (a : Argument) : Except Halt Values :=
  if StringMap.contains a.name vs then .ok vs
  else
    match a.environmentName.bind fun v => StringMap.find? v environment with
    | some value => take a value vs
    | none => .ok vs

/-- The first required argument without a value. -/
def missing? (u : Usage) (vs : Values) : Option Argument :=
  u.arguments.find? fun a => a.required && !StringMap.contains a.name vs

/-- The values of the arguments. -/
def read (u : Usage) (line : List String) (environment : StringMap String) :
    Except Halt Values := do
  let vs ← u.arguments.foldlM (fill environment) (← u.readLine StringMap.empty line)
  match u.missing? vs with
  | some a => .error (.refused (.missing a))
  | none => .ok vs

/-- Whether an argument without a value of its own is there. -/
def isPresent (name : String) (vs : Values) : Bool := StringMap.find? name vs == some present

/-! ## What a command says instead of running -/

/-- The required arguments in a line of usage. -/
def requiredText (u : Usage) : String :=
  String.join ((u.arguments.filter (·.required)).map fun a => " " ++ a.text)

/-- How the command is used. -/
def lineText (u : Usage) : String :=
  let options := if u.arguments.all (·.required) then "" else " [OPTIONS]"
  "Usage: " ++ u.command ++ options ++ u.requiredText

/-- What is wrong, in words. -/
def problem : UsageError → String
  | .unexpected text => "unexpected argument '" ++ text ++ "' found"
  | .missingValue a => "a value is required for '" ++ a.text ++ "' but none was supplied"
  | .unwantedValue a value =>
    "unexpected value '" ++ value ++ "' for '" ++ a.text ++ "' found; no more were expected"
  | .repeated a => "the argument '" ++ a.text ++ "' cannot be used multiple times"
  | .missing a => "the following required arguments were not provided:\n  " ++ a.text
  | .invalidValue a value => "invalid value '" ++ value ++ "' for '" ++ a.text ++ "'"

/-- The lines of usage that go with what is wrong. -/
def hint (u : Usage) : UsageError → String
  | .missingValue _ | .invalidValue _ _ => ""
  | .missing _ => "Usage: " ++ u.command ++ u.requiredText ++ "\n\n"
  | _ => u.lineText ++ "\n\n"

/-- The whole complaint about a command line. -/
def complaint (u : Usage) (e : UsageError) : String :=
  "error: " ++ problem e ++ "\n\n" ++ u.hint e ++ "For more information, try '--help'.\n"

/-- How wide the help text is. -/
def helpWidth : Nat := 100

/-- Splits a text after its blanks. -/
def words (text : List Char) : List (List Char) :=
  match text with
  | [] => []
  | c :: cs =>
    match words cs with
    | [] => [[c]]
    | w :: rest => if c = ' ' && w.head? ≠ some ' ' then [c] :: w :: rest else (c :: w) :: rest

/-- Drops blanks at the end. -/
def trimEnd (cs : List Char) : List Char := (cs.reverse.dropWhile (· = ' ')).reverse

/-- Sets words in lines of a width after the characters `used` of the first line. A word that is too
long takes a line of its own. -/
def setWords (width indent : Nat) : (used : Nat) → (line : List Char) → List (List Char) → List Char
  | _, line, [] => trimEnd line
  | used, line, w :: rest =>
    if 0 < used && width < used + (trimEnd w).length then
      trimEnd line ++ ['\n'] ++ List.replicate indent ' ' ++ setWords width indent w.length w rest
    else setWords width indent (used + w.length) (line ++ w) rest

/-- What the help says about where a value comes from. -/
def origins (environment : StringMap String) (a : Argument) : List String :=
  let fromEnvironment := a.environmentName.map fun v =>
    "[env: " ++ v ++ "=" ++ (StringMap.find? v environment).getD "" ++ "]"
  fromEnvironment.toList ++ (a.fallback.map fun v => "[default: " ++ v ++ "]").toList

/-- An argument in the help: its forms, and beside them what it is for. -/
def helpEntry (environment : StringMap String) (column : Nat) (a : Argument) : String :=
  let letter := a.letter.elim "    " fun c => String.ofList ['-', c, ',', ' ']
  let forms := "  " ++ letter ++ a.text
  let padding := String.ofList (List.replicate (column - forms.length) ' ')
  let about := " ".intercalate (a.summary :: origins environment a)
  forms ++ padding ++
    String.ofList (setWords (helpWidth - column) column 0 [] (words about.toList)) ++ "\n"

/-- The help text: what the command is for, how it is used, and its arguments. -/
def helpText (u : Usage) (environment : StringMap String) : String :=
  let arguments := u.arguments ++ standard.map (·.1)
  let column := (arguments.map fun a => a.text.length).foldl max 0 + 8
  u.summary ++ "\n\n" ++ u.lineText ++ "\n\nOptions:\n" ++
    String.join (arguments.map (helpEntry environment column))

/-- The version text. -/
def versionText (u : Usage) : String := u.command ++ " " ++ u.version ++ "\n"

end Usage

/-- What came of running a command. -/
inductive Outcome
  | success (output : String)
  /-- The command line was refused, with the complaint. -/
  | refused (complaint : String)
  /-- The command failed; the causes lead from the effect to the last reason. -/
  | failure (context : String) (causes : List String)
  deriving DecidableEq, Repr

namespace Outcome

/-- The number that the command ends with. -/
def code : Outcome → Nat
  | success _ => 0
  | failure .. => 1
  | refused _ => 2

/-- What the command prints. -/
def output : Outcome → String
  | success text => text
  | refused _ | failure .. => ""

/-- The causes below each other, numbered if there are several. -/
def causesText : List String → String
  | [] => ""
  | [cause] => "\n\nCaused by:\n    " ++ cause
  | causes =>
    "\n\nCaused by:" ++ String.join (causes.zipIdx.map fun c =>
      "\n    " ++ Decimal.text c.2 ++ ": " ++ c.1)

/-- What the command reports about its failure. -/
def report : Outcome → String
  | success _ => ""
  | refused complaint => complaint
  | failure context causes => "Error: " ++ context ++ causesText causes ++ "\n"

/-- What a command says instead of running. -/
def ofHalt (u : Usage) (environment : StringMap String) : Halt → Outcome
  | .refused e => refused (u.complaint e)
  | .help => success (u.helpText environment)
  | .version => success u.versionText

end Outcome

end DatasetCatalog.CommandLine
