import SidecarInjection.Dict

/-!
# `SidecarInjection.Command.Flag`: reading the arguments of a command

Every flag takes one value, may be given once, and is found by a name or a
letter. The value follows as the next argument or directly: `--name=value`,
`-nvalue` or `-n=value`. A flag that is not given takes its value from the
environment, or else its fallback.
-/

set_option autoImplicit false

namespace SidecarInjection.Command

/-- What a flag means that is not given. -/
inductive Fallback where
  | none
  | value (text : String)
  /-- The command does not run without the flag. -/
  | required
  deriving DecidableEq, Repr

/-- A flag of a command. -/
structure Flag where
  name : String
  letter : Option Char := none
  /-- The environment variable that stands for the flag. -/
  variableName : Option String := none
  /-- Whether the value is a path, which is never empty. -/
  isPath : Bool := false
  fallback : Fallback := .none
  summary : String

/-- Why arguments do not lead to a run of the command. -/
inductive Stop where
  | usage
  | help
  | version
  deriving DecidableEq, Repr

/-- An argument, by its form. -/
inductive Argument where
  /-- Ends the flags. -/
  | separator
  | long (name : String) (value : Option String)
  | letters (letters : List Char)
  | plain

/-- The text up to the first `=`, and what follows it. -/
def splitValue (s : List Char) : String × Option String :=
  if s.contains '=' then
    (String.ofList (s.takeWhile (· != '=')), some (String.ofList ((s.dropWhile (· != '=')).drop 1)))
  else (String.ofList s, none)

/-- The form of an argument. A lone hyphen is plain. -/
def Argument.ofText (s : String) : Argument :=
  match s.toList with
  | ['-', '-'] => .separator
  | '-' :: '-' :: rest => .long (splitValue rest).1 (splitValue rest).2
  | '-' :: c :: rest => .letters (c :: rest)
  | _ => .plain

/-- The values given so far, with the flag that waits for one. -/
structure Given where
  values : Dict String
  waiting : Option Flag

/-- Gives a value to a flag. -/
def Given.accept (g : Given) (flag : Flag) (value : String) : Except Stop Given :=
  if Dict.contains g.values flag.name || (flag.isPath && value.isEmpty) then .error .usage
  else .ok ⟨Dict.insert g.values flag.name value, none⟩

/-- Gives a flag its value, or lets it wait for one. -/
def Given.meet (g : Given) (flag : Flag) : Option String → Except Stop Given
  | some value => g.accept flag value
  | none => .ok { g with waiting := some flag }

/-- Reads an argument with a long name. -/
def Given.readLong (g : Given) (flags : List Flag) (name : String) (value : Option String) :
    Except Stop Given :=
  match flags.find? fun f => f.name = name with
  | some flag => g.meet flag value
  | none =>
    if name = "help" && value.isNone then .error .help
    else if name = "version" && value.isNone then .error .version
    else .error .usage

/-- The value that is written directly after a letter. -/
def attachedValue : List Char → Option String
  | [] => none
  | '=' :: rest => some (String.ofList rest)
  | rest => some (String.ofList rest)

/-- Reads an argument of letters. Its first letter decides: what follows the
letter of a flag is the value, and `h` and `V` stop the reading. -/
def Given.readLetters (g : Given) (flags : List Flag) : List Char → Except Stop Given
  | [] => .ok g
  | c :: rest =>
    match flags.find? fun f => f.letter = some c with
    | some flag => g.meet flag (attachedValue rest)
    | none => if c = 'h' then .error .help else if c = 'V' then .error .version else .error .usage

/-- Reads arguments in order. The first fault counts. -/
def Given.readAll (flags : List Flag) : Given → List String → Except Stop (Dict String)
  | ⟨values, none⟩, [] => .ok values
  | ⟨_, some _⟩, [] => .error .usage
  | g, arg :: rest =>
    match g.waiting, Argument.ofText arg with
    | some flag, .plain => g.accept flag arg >>= fun g => readAll flags g rest
    | some _, _ => .error .usage
    | none, .long name value => g.readLong flags name value >>= fun g => readAll flags g rest
    | none, .letters letters => g.readLetters flags letters >>= fun g => readAll flags g rest
    | none, .separator => if rest.isEmpty then .ok g.values else .error .usage
    | none, .plain => .error .usage

/-- The value of a flag that is not given. -/
def Flag.otherwise (flag : Flag) (environment : String → Option String) :
    Except Stop (Option String) :=
  match flag.variableName.bind environment with
  | some value => if flag.isPath && value.isEmpty then .error .usage else .ok (some value)
  | none =>
    match flag.fallback with
    | .none => .ok none
    | .value text => .ok (some text)
    | .required => .error .usage

/-- The values of all flags, from the arguments, the environment and the
fallbacks. -/
def Flag.complete (environment : String → Option String) (given : Dict String) :
    List Flag → Except Stop (Dict String)
  | [] => .ok given
  | flag :: rest => do
    if Dict.contains given flag.name then complete environment given rest
    else
      let value ← flag.otherwise environment
      complete environment (Dict.insertSome given flag.name value) rest

/-- The values of the flags of a command. -/
def Flag.values (flags : List Flag) (environment : String → Option String)
    (arguments : List String) : Except Stop (Dict String) := do
  let given ← Given.readAll flags ⟨[], none⟩ arguments
  Flag.complete environment given flags

/-! ### Help -/

/-- The name that stands for the value of a flag. -/
def Flag.valueName (flag : Flag) : String :=
  String.ofList (flag.name.toList.map fun c => if c = '-' then '_' else c.toUpper)

/-- A flag with its value. -/
def Flag.usage (flag : Flag) : String := "--" ++ flag.name ++ " <" ++ flag.valueName ++ ">"

/-- The lines about an entry of the help. -/
def helpEntry (letter : Option Char) (usage summary : String) : String :=
  (match letter with
    | some c => "  -" ++ String.singleton c ++ ", "
    | none => "      ") ++ usage ++ "\n          " ++ summary ++ "\n"

/-- The lines about a flag: what it is for, its variable with the value that this
has, and its fallback. -/
def Flag.help (environment : String → Option String) (flag : Flag) : String :=
  let variableNote := flag.variableName.map fun v =>
    " [env: " ++ v ++ "=" ++ (environment v).getD "" ++ "]"
  let fallbackNote :=
    match flag.fallback with
    | .value text => " [default: " ++ text ++ "]"
    | _ => ""
  helpEntry flag.letter flag.usage (flag.summary ++ variableNote.getD "" ++ fallbackNote)

/-- The help of a command. -/
def helpText (command summary : String) (flags : List Flag) (environment : String → Option String) :
    String :=
  let demanded := (flags.filter fun f => f.fallback = .required).map fun f => " " ++ f.usage
  summary ++ "\n\nUsage: " ++ command ++ " [OPTIONS]" ++ String.join demanded ++ "\n\nOptions:\n" ++
    String.join (flags.map (Flag.help environment)) ++
    helpEntry (some 'h') "--help" "Print help" ++
    helpEntry (some 'V') "--version" "Print version"

end SidecarInjection.Command
