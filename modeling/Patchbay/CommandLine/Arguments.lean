import Patchbay.Files.Path
import Patchbay.Number.Natural

/-!
# Arguments

A command is given by its name and its arguments: options, flags and at most one other argument.
The value of an option follows it as the next argument, or after an equals sign in the same one, or,
after the letter of an option, at once. What looks like an option is never a value by itself, unless
it is a lone dash. After `--` nothing is an option. The configuration file may be given before the
name of the command or after it; the one after it counts.
-/

namespace Patchbay.CommandLine

/-! ### Commands -/

/-- What a compiled preset is made with. -/
structure CompileOptions where
  /-- Where the compiled preset is written. -/
  output : Option Path := none
  /-- Main inputs of the engine. -/
  mainInputs : Option Nat := none
  /-- Main outputs of the engine. -/
  mainOutputs : Option Nat := none
deriving DecidableEq, Repr

/-- What the program is asked to do. -/
inductive Command where
  | compile (preset : Path) (options : CompileOptions) (json : Bool)
  | run
  | config
deriving DecidableEq, Repr

/-- What the program is started for. -/
inductive Invocation where
  | help
  | version
  /-- The arguments make no sense. -/
  | misuse
  | command (config : Option Path) (c : Command)
deriving DecidableEq, Repr

/-! ### Options -/

/-- What an option takes. -/
inductive Taking where
  | nothing
  | path
  | natural
deriving DecidableEq, Repr

/-- An option, its letter if it has one, and what it takes. -/
structure Spelling where
  name : String
  letter : Option Char := none
  taking : Taking
deriving DecidableEq, Repr

/-- Whether a text is a value of what an option takes. No path is empty. -/
def Taking.accepts (text : String) : Taking → Bool
  | .nothing => false
  | .path => text ≠ ""
  | .natural => (naturalOfText? wordBound text).isSome

def configOption : Spelling := { name := "config", taking := .path }

def helpFlag : Spelling := { name := "help", letter := some 'h', taking := .nothing }

/-- The options before the name of a command. -/
def outerOptions : List Spelling :=
  [configOption, helpFlag, { name := "version", letter := some 'V', taking := .nothing }]

def commonOptions : List Spelling := [configOption, helpFlag]

def compileOptions : List Spelling :=
  commonOptions ++
    [{ name := "output", letter := some 'o', taking := .path },
      { name := "mains-in", taking := .natural }, { name := "mains-out", taking := .natural },
      { name := "json", taking := .nothing }]

/-! ### Scanning -/

structure Found where
  /-- Options and flags with their values; the value of a flag is empty. -/
  options : List (String × String) := []
  /-- The other arguments. -/
  others : List String := []
deriving DecidableEq, Repr

/-- How far a scan of arguments came. -/
inductive Scan where
  | complete (f : Found)
  /-- An argument that is no option, where there was no room for one, and those after it. -/
  | beyond (f : Found) (argument : String) (rest : List String)
  | help
  | version
  | misuse
deriving DecidableEq, Repr

inductive Argument where
  | other
  /-- An option, and the value in the same argument. -/
  | option (s : Spelling) (attached : Option String)
  | unknown
deriving DecidableEq, Repr

def looksLikeOption (text : String) : Bool :=
  match text.toList with
  | '-' :: _ :: _ => true
  | _ => false

/-- The value after the letter of an option. -/
def attachedToLetter : List Char → Option String
  | [] => none
  | '=' :: value => some (String.ofList value)
  | value => some (String.ofList value)

/-- What an argument is, where certain options are known. -/
def classify (known : List Spelling) (text : String) : Argument :=
  match text.toList with
  | '-' :: '-' :: rest =>
    let name := String.ofList (rest.takeWhile (· ≠ '='))
    let attached :=
      match rest.dropWhile (· ≠ '=') with
      | [] => none
      | _ :: value => some (String.ofList value)
    match known.find? (·.name = name) with
    | some s => .option s attached
    | none => .unknown
  | '-' :: letter :: rest =>
    match known.find? (·.letter = some letter) with
    | some s => .option s (if s.taking = .nothing then none else attachedToLetter rest)
    | none => .unknown
  | _ => .other

/-- What was found, with the value of an option that was not given before. -/
def Found.add? (f : Found) (s : Spelling) (value : String) : Option Found :=
  if s.taking.accepts value ∧ (f.options.lookup s.name).isNone then
    some { f with options := f.options ++ [(s.name, value)] }
  else none

/-- What was found, with a flag that was not given before. -/
def Found.addFlag? (f : Found) (s : Spelling) : Option Found :=
  if (f.options.lookup s.name).isNone then
    some { f with options := f.options ++ [(s.name, "")] }
  else none

/-- Scans arguments from the left, where there is room for so many that are no options. `awaiting`
is an option whose value comes next; `plain` says that no options follow. -/
def scan (known : List Spelling) (room : Nat) (f : Found) (awaiting : Option Spelling)
    (plain : Bool) : List String → Scan
  | [] => if awaiting.isSome then .misuse else .complete f
  | text :: rest =>
    match awaiting with
    | some s =>
      if looksLikeOption text then .misuse
      else
        match f.add? s text with
        | some f => scan known room f none plain rest
        | none => .misuse
    | none =>
      if text = "--" ∧ ¬ plain then scan known room f none true rest
      else
        match if plain then .other else classify known text with
        | .unknown => .misuse
        | .option s attached =>
          match s.taking, attached with
          | .nothing, some _ => .misuse
          | .nothing, none =>
            if s.name = "help" then .help
            else if s.name = "version" then .version
            else
              match f.addFlag? s with
              | some f => scan known room f none plain rest
              | none => .misuse
          | _, none => scan known room f (some s) plain rest
          | _, some value =>
            match f.add? s value with
            | some f => scan known room f none plain rest
            | none => .misuse
        | .other =>
          if f.others.length < room then
            scan known room { f with others := f.others ++ [text] } none plain rest
          else if plain then .misuse
          else .beyond f text rest

/-! ### Invocations -/

def Found.path? (f : Found) (name : String) : Option Path := (f.options.lookup name).map Path.mk

def Found.natural? (f : Found) (name : String) : Option Nat :=
  (f.options.lookup name).bind (naturalOfText? wordBound)

/-- The compilation that was asked for; a preset has to be named, by a path that is not empty. -/
def Found.compile? (f : Found) : Option Command :=
  match f.others with
  | [preset] =>
    if preset = "" then none
    else some (.compile ⟨preset⟩
      { output := f.path? "output", mainInputs := f.natural? "mains-in",
        mainOutputs := f.natural? "mains-out" } (f.options.lookup "json").isSome)
  | _ => none

/-- What is asked for by the arguments of a command, after the options before its name. -/
def ofCommand (outer : Found) (known : List Spelling) (room : Nat)
    (command? : Found → Option Command) (arguments : List String) : Invocation :=
  match scan known room {} none false arguments with
  | .complete f =>
    match command? f with
    | some c => .command (f.path? "config" <|> outer.path? "config") c
    | none => .misuse
  | .help => .help
  | .version | .misuse | .beyond .. => .misuse

def commandNames : List String := ["compile", "run", "config", "help"]

/-- What arguments ask for. -/
def Invocation.ofArguments (arguments : List String) : Invocation :=
  match scan outerOptions 0 {} none false arguments with
  | .beyond outer name rest =>
    match name with
    | "compile" => ofCommand outer compileOptions 1 Found.compile? rest
    | "run" => ofCommand outer commonOptions 0 (fun _ => some .run) rest
    | "config" => ofCommand outer commonOptions 0 (fun _ => some .config) rest
    | "help" =>
      if rest = [] ∨ rest.length = 1 ∧ rest.all (· ∈ commandNames) then .help else .misuse
    | _ => .misuse
  | .help => .help
  | .version => .version
  | .complete _ | .misuse => .misuse

end Patchbay.CommandLine
