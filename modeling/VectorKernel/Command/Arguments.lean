import VectorKernel.Files.Path

/-!
# Command-line arguments

Arguments are read from left to right. Options of the whole program may stand
before the command or after it, and those of a command only after it. An option
takes its value from the next argument or after an equals sign. Two dashes end
the options of a command. Whatever does not fit is a usage error, which has no
further detail.
-/

namespace VectorKernel.Command

/-- A command of the program. -/
inductive Verb where
  | lookup
  | path
  | catalog
  | demo
  deriving DecidableEq, Repr

namespace Verb

/-- Every command. -/
def all : List Verb := [.lookup, .path, .catalog, .demo]

/-- The name of a command. -/
def name : Verb → String
  | .lookup => "lookup"
  | .path => "path"
  | .catalog => "catalog"
  | .demo => "demo"

/-- The command with this name. -/
def ofName? (text : String) : Option Verb :=
  all.find? (·.name == text)

/-- The number of arguments that a command takes besides options. -/
def arity : Verb → Nat
  | .lookup | .path => 2
  | .catalog | .demo => 0

end Verb

/-- An option. -/
inductive Flag where
  | config
  | architecture
  | language
  | output
  | all
  | help
  | version
  deriving DecidableEq, Repr

namespace Flag

/-- The options that may be given before the command (`none`) or after it. -/
def allowed : Option Verb → List Flag
  | none => [.config, .architecture, .help, .version]
  | some .demo => [.config, .architecture, .language, .output, .all, .help]
  | some _ => [.config, .architecture, .help]

/-- The name of an option, after two dashes. -/
def name : Flag → String
  | .config => "config"
  | .architecture => "arch"
  | .language => "language"
  | .output => "output"
  | .all => "all"
  | .help => "help"
  | .version => "version"

/-- The letter of an option, after one dash, if it has one. -/
def letter? : Flag → Option Char
  | .output => some 'o'
  | .help => some 'h'
  | .version => some 'V'
  | _ => none

/-- Whether the option takes a value. -/
def takesValue : Flag → Bool
  | .config | .architecture | .language | .output => true
  | .all | .help | .version => false

/-- Whether the value is a path, which must not be empty. -/
def takesPath : Flag → Bool
  | .config | .output => true
  | _ => false

end Flag

/-- What an argument looks like where options are allowed. -/
inductive Word where
  /-- Not an option; a lone dash included. -/
  | plain (text : String)
  /-- Two dashes, which end the options. -/
  | endOfOptions
  | option (flag : Flag) (attached : Option String)
  /-- No option that is allowed here, or a value that an option cannot take. -/
  | unknown
  deriving DecidableEq, Repr

namespace Word

/-- Reads an option of several letters, from what follows its two dashes. -/
def readLong (verb : Option Verb) (body : List Char) : Word :=
  let (name, attached) := match Text.cutFirst '=' (.ofList body) with
    | some (name, value) => (name, some value)
    | none => (.ofList body, none)
  match (Flag.allowed verb).find? (·.name == name) with
  | some flag => if attached.isSome && !flag.takesValue then .unknown else .option flag attached
  | none => .unknown

/-- Reads an option of one letter with what follows it: a value, whose equals
sign does not count. Options of one letter without a value end the reading, so
that nothing after them matters. -/
def readShort (verb : Option Verb) (letter : Char) (body : List Char) : Word :=
  match (Flag.allowed verb).find? (·.letter? == some letter) with
  | some flag =>
    if flag.takesValue then
      match body with
      | [] => .option flag none
      | '=' :: value => .option flag (some (.ofList value))
      | value => .option flag (some (.ofList value))
    else .option flag none
  | none => .unknown

/-- Reads an argument before the command (`none`) or after it. -/
def read (verb : Option Verb) (text : String) : Word :=
  match text.toList with
  | ['-', '-'] => .endOfOptions
  | '-' :: '-' :: body => readLong verb body
  | '-' :: letter :: body => readShort verb letter body
  | _ => .plain text

end Word

/-- Why arguments lead to no command. -/
inductive Stop where
  | usage
  | help
  | version
  deriving DecidableEq, Repr

/-- What is given on one side of the command. -/
structure Given where
  options : List (Flag × String) := []
  words : List String := []
  deriving DecidableEq, Repr

namespace Given

/-- Whether an option is given. -/
def has (given : Given) (flag : Flag) : Bool :=
  (given.options.lookup flag).isSome

/-- The value of an option. -/
def value? (given : Given) (flag : Flag) : Option String :=
  given.options.lookup flag

/-- Adds an option with its value. It must not be given already, and a path
must not be empty. -/
def add (given : Given) (flag : Flag) (value : String) : Except Stop Given :=
  if given.has flag || (flag.takesPath && value.isEmpty) then .error .usage
  else .ok { given with options := given.options ++ [(flag, value)] }

/-- Adds an option without a value. -/
def raise (given : Given) : Flag → Except Stop Given
  | .help => .error .help
  | .version => .error .version
  | flag => given.add flag ""

end Given

/-- Reads the options before the command. Returns them, the command and the
arguments after it. -/
def readGlobal (given : Given) : List String → Except Stop (Given × Verb × List String)
  | [] => .error .usage
  | argument :: rest =>
    match Word.read none argument with
    | .plain "help" =>
      match rest with
      | [] => .error .help
      | [topic] => .error (if topic = "help" || (Verb.ofName? topic).isSome then .help else .usage)
      | _ => .error .usage
    | .plain name =>
      match Verb.ofName? name with
      | some verb => .ok (given, verb, rest)
      | none => .error .usage
    | .endOfOptions | .unknown => .error .usage
    | .option flag (some value) => do readGlobal (← given.add flag value) rest
    | .option flag none =>
      if flag.takesValue then
        match rest with
        | [] => .error .usage
        | value :: rest =>
          match Word.read none value with
          | .plain value => do readGlobal (← given.add flag value) rest
          | _ => .error .usage
      else do readGlobal (← given.raise flag) rest

/-- Reads the arguments of a command. -/
def readLocal (verb : Verb) (given : Given) : List String → Except Stop Given
  | [] => .ok given
  | argument :: rest =>
    match Word.read (some verb) argument with
    | .plain word =>
      if given.words.length < verb.arity then
        readLocal verb { given with words := given.words ++ [word] } rest
      else .error .usage
    | .endOfOptions => .ok { given with words := given.words ++ rest }
    | .unknown => .error .usage
    | .option flag (some value) => do readLocal verb (← given.add flag value) rest
    | .option flag none =>
      if flag.takesValue then
        match rest with
        | [] => .error .usage
        | value :: rest =>
          match Word.read (some verb) value with
          | .plain value => do readLocal verb (← given.add flag value) rest
          | _ => .error .usage
      else do readLocal verb (← given.raise flag) rest

/-- A command with its arguments. -/
inductive Request where
  | lookup (operation type : String)
  | path (source target : String)
  | catalog
  | demo (language : Option String) (output : Option Path) (all : Bool)
  deriving DecidableEq, Repr

/-- Everything that the arguments say. -/
structure Invocation where
  config : Option Path
  architecture : Option String
  request : Request
  deriving DecidableEq, Repr

/-- The request of a command with what is given after it. -/
def Request.ofGiven (verb : Verb) (given : Given) : Except Stop Request :=
  match verb, given.words with
  | .lookup, [operation, type] => .ok (.lookup operation type)
  | .path, [source, target] => .ok (.path source target)
  | .catalog, [] => .ok .catalog
  | .demo, [] => .ok (.demo (given.value? .language) (given.value? .output) (given.has .all))
  | _, _ => .error .usage

/-- Reads the arguments of the program. An option of the whole program that is
given on both sides of the command has its later value. -/
def Invocation.read (arguments : List String) : Except Stop Invocation := do
  let (before, verb, rest) ← readGlobal {} arguments
  let after ← readLocal verb {} rest
  return {
    config := after.value? .config <|> before.value? .config
    architecture := after.value? .architecture <|> before.value? .architecture
    request := ← Request.ofGiven verb after }

end VectorKernel.Command
