import LineTopology.Kind
import LineTopology.Text.Visible

namespace LineTopology.CommandLine

inductive Subcommand
  | check
  | connect
  deriving DecidableEq

structure CheckRequest where
  path : String
  options : Option String
  exempt : List Kind
  checkPorts : Bool
  recheckConnections : Bool
  json : Bool

structure ConnectRequest where
  path : String
  source : String
  target : String
  sourceHandle : Option String
  targetHandle : Option String

inductive Request
  | check (request : CheckRequest)
  | connect (request : ConnectRequest)
  | help
  | version

inductive ArgumentFault
  | noArguments
  | unknownSubcommand (name : String)
  | unexpected (argument : String)
  | repeated (option : String)
  | valueMissing (option : String)
  | valueRefused (value option : String)
  | surplusValue (value flag : String)
  | positionalsMissing (positionals : List String)

def about : String := "Topology admission checks for process definitions"

def marked (s : String) : String := "\x1b[33m" ++ s ++ "\x1b[0m"

def ArgumentFault.message : ArgumentFault → String
  | .noArguments => about
  | .unknownSubcommand name => "unrecognized subcommand '" ++ marked name ++ "'"
  | .unexpected argument => "unexpected argument '" ++ marked argument ++ "' found"
  | .repeated option =>
      "the argument '" ++ marked option ++ "' cannot be used multiple times"
  | .valueMissing option =>
      "a value is required for '" ++ marked option ++ "' but none was supplied"
  | .valueRefused value option =>
      "invalid value '" ++ marked value ++ "' for '" ++ marked option ++ "': " ++
        Kind.unknownText value
  | .surplusValue value flag =>
      "unexpected value '" ++ marked value ++ "' for '" ++ marked flag ++
        "' found; no more were expected"
  | .positionalsMissing positionals =>
      "the following required arguments were not provided:" ++
        String.join (positionals.map fun shown => "\n  " ++ marked shown)

/-- The text printed for a fault. It is plain: the codes for colours are taken out of the whole of
it, so a control sequence in an argument goes with them, and one that an argument leaves open takes
what follows it up to the next code. -/
def ArgumentFault.text (fault : ArgumentFault) : String :=
  Text.visible
    ("error: " ++ fault.message ++ "\n\nFor more information, try '" ++ marked "--help" ++ "'.")

inductive ValueRule
  | path
  | text
  | kind
  deriving DecidableEq

/-- An argument of a subcommand. One without a value rule is a flag. -/
structure Parameter where
  name : String
  shown : String
  rule : Option ValueRule
  repeatable : Bool

namespace Parameter

def option (name shown : String) (rule : ValueRule) : Parameter :=
  ⟨name, "--" ++ name ++ " <" ++ shown ++ ">", some rule, false⟩

def flag (name : String) : Parameter := ⟨name, "--" ++ name, none, false⟩

def positional (shown : String) (rule : ValueRule) : Parameter :=
  ⟨shown, "<" ++ shown ++ ">", some rule, false⟩

end Parameter

namespace Subcommand

def ofName? : String → Option Subcommand
  | "check" => some .check
  | "connect" => some .connect
  | _ => none

def named : Subcommand → List Parameter
  | .check =>
      [.option "options" "OPTIONS" .path,
        { Parameter.option "exempt" "EXEMPT" .kind with repeatable := true },
        .flag "check-ports", .flag "recheck-connections", .flag "json"]
  | .connect =>
      [.option "source-handle" "SOURCE_HANDLE" .text,
        .option "target-handle" "TARGET_HANDLE" .text]

def positionals : Subcommand → List Parameter
  | .check => [.positional "PATH" .path]
  | .connect => [.positional "PATH" .path, .positional "FROM" .text, .positional "TO" .text]

end Subcommand

/-- The arguments taken so far: the values of each parameter, flags with an empty one, the latest
first; the parameter whose value is still to be taken or to be checked; and the positional
parameters to come. -/
structure Taken where
  values : List (String × String)
  pending : Option (Parameter × Option String)
  positionals : List Parameter
  onlyPositionals : Bool

namespace Taken

def has (taken : Taken) (name : String) : Bool := taken.values.any fun entry => entry.1 == name

def value? (taken : Taken) (name : String) : Option String :=
  (taken.values.find? fun entry => entry.1 == name).map (·.2)

def all (taken : Taken) (name : String) : List String :=
  (taken.values.reverse.filter fun entry => entry.1 == name).map (·.2)

def isAccepted : ValueRule → String → Bool
  | .path, value => value ≠ ""
  | .text, _ => true
  | .kind, value => (Kind.parse? value).isSome

def refused (p : Parameter) (value : String) : ArgumentFault :=
  if p.rule = some .kind then .valueRefused value p.shown else .valueMissing p.shown

def store (taken : Taken) (p : Parameter) (value : String) : Except ArgumentFault Taken :=
  if taken.has p.name && !p.repeatable then .error (.repeated p.shown)
  else if p.rule.any fun rule => !isAccepted rule value then .error (refused p value)
  else .ok { taken with values := (p.name, value) :: taken.values, pending := none }

/-- Stores the pending value, which is done when the next argument starts. -/
def settle (taken : Taken) : Except ArgumentFault Taken :=
  match taken.pending with
  | none => .ok taken
  | some (p, some value) => { taken with pending := none }.store p value
  | some (p, none) => .error (.valueMissing p.shown)

def position (taken : Taken) (value : String) : Except ArgumentFault Taken :=
  match taken.positionals with
  | [] => .error (.unexpected value)
  | p :: ps => do
      let taken ← taken.settle
      return { taken with pending := some (p, some value), positionals := ps }

def named (taken : Taken) (known : List Parameter) (name : String) (attached : Option String) :
    Except ArgumentFault Taken :=
  match known.find? fun p => p.name == name with
  | none => .error (.unexpected ("--" ++ name))
  | some p =>
      match p.rule, attached with
      | none, some value => .error (.surplusValue value p.shown)
      | none, none => do (← taken.settle).store p ""
      | some _, some value => do (← taken.settle).store p value
      | some _, none => do
          let taken ← taken.settle
          return { taken with pending := some (p, none) }

end Taken

def splitLong (argument : List Char) : String × Option String :=
  let name := argument.takeWhile (· ≠ '=')
  let behind := argument.drop name.length
  (String.ofList name, behind.head?.map fun _ => String.ofList behind.tail)

def inform (request : Request) (flag : String) : Option String → Except ArgumentFault Request
  | none => .ok request
  | some value => .error (.surplusValue value flag)

inductive Step
  | taken (taken : Taken)
  | informed (request : Request)

def Taken.help (taken : Taken) (attached : Option String) : Except ArgumentFault Step := do
  let request ← inform .help "--help" attached
  let _ ← taken.settle
  return .informed request

def take (known : List Parameter) (taken : Taken) (argument : String) :
    Except ArgumentFault Step :=
  let value : Except ArgumentFault Step :=
    match taken.pending with
    | some (p, none) =>
        if taken.onlyPositionals then (taken.position argument).map .taken
        else .ok (.taken { taken with pending := some (p, some argument) })
    | _ => (taken.position argument).map .taken
  if taken.onlyPositionals then value
  else
    match argument.toList with
    | ['-', '-'] => .ok (.taken { taken with onlyPositionals := true })
    | '-' :: '-' :: long =>
        let (name, attached) := splitLong long
        if name = "help" then taken.help attached
        else (taken.named known name attached).map .taken
    | '-' :: c :: _ =>
        if c = 'h' then taken.help none else .error (.unexpected (String.ofList ['-', c]))
    | _ => value

def takeAll (known : List Parameter) (taken : Taken) : List String → Except ArgumentFault Step
  | [] => do return .taken (← taken.settle)
  | argument :: arguments => do
      match ← take known taken argument with
      | .informed request => return .informed request
      | .taken taken => takeAll known taken arguments

def Taken.request? (taken : Taken) : Subcommand → Option Request
  | .check => do
      let path ← taken.value? "PATH"
      return .check
        { path, options := taken.value? "options",
          exempt := (taken.all "exempt").filterMap Kind.parse?,
          checkPorts := taken.has "check-ports",
          recheckConnections := taken.has "recheck-connections", json := taken.has "json" }
  | .connect => do
      let path ← taken.value? "PATH"
      let source ← taken.value? "FROM"
      let target ← taken.value? "TO"
      return .connect
        { path, source, target, sourceHandle := taken.value? "source-handle",
          targetHandle := taken.value? "target-handle" }

def Subcommand.request (subcommand : Subcommand) (arguments : List String) :
    Except ArgumentFault Request := do
  let start : Taken := ⟨[], none, subcommand.positionals, false⟩
  match ← takeAll subcommand.named start arguments with
  | .informed request => return request
  | .taken taken =>
      match taken.request? subcommand with
      | some request => return request
      | none => .error (.positionalsMissing (taken.positionals.map Parameter.shown))

def isSubcommand (name : String) : Bool := name = "help" || (Subcommand.ofName? name).isSome

/-- Help is given on the program or on one subcommand, none of which has others below it. -/
def helpOn : List String → Except ArgumentFault Request
  | [] => .ok .help
  | name :: names =>
      match if isSubcommand name then names else [name] with
      | [] => .ok .help
      | name :: _ => .error (.unknownSubcommand name)

def leading (argument : String) (arguments : List String) : Except ArgumentFault Request :=
  match argument.toList with
  | ['-', '-'] =>
      match arguments with
      | [] => .error .noArguments
      | name :: _ =>
          .error (if isSubcommand name then .unexpected name else .unknownSubcommand name)
  | '-' :: '-' :: long =>
      let (name, attached) := splitLong long
      if name = "help" then inform .help "--help" attached
      else if name = "version" then inform .version "--version" attached
      else .error (.unexpected ("--" ++ name))
  | '-' :: c :: _ =>
      if c = 'h' then .ok .help
      else if c = 'V' then .ok .version
      else .error (.unexpected (String.ofList ['-', c]))
  | _ => .error (.unknownSubcommand argument)

def request : List String → Except ArgumentFault Request
  | [] => .error .noArguments
  | name :: arguments =>
      match Subcommand.ofName? name with
      | some subcommand => subcommand.request arguments
      | none => if name = "help" then helpOn arguments else leading name arguments

end LineTopology.CommandLine
