import Patchbay.CommandLine.Compile
import Patchbay.Config.Files
import Patchbay.Config.Printer
import Patchbay.Supervision.Timeline

/-!
# The command line

What the program does with its arguments, in an environment and a tree of files: it compiles a
preset, runs the engine and its relay on a host, or shows its configuration.
-/

namespace Patchbay.CommandLine

/-- What a run of the program leaves behind. -/
structure Outcome where
  code : Nat
  output : String := ""
  errorOutput : String := ""
  tree : FileTree

def Outcome.failed (t : FileTree) (message : String) : Outcome :=
  { code := 1, errorOutput := s!"Error: {message}\n", tree := t }

def versionText : String := "cyperus 0.1.0\n"

def helpText : String :=
  "Launcher and preset compiler for the cyperus audio engine\n\n" ++
  "Usage: cyperus [OPTIONS] <COMMAND>\n\n" ++
  "Commands:\n" ++
  "  compile  Compile a preset graph against an in-process engine\n" ++
  "  run      Launch the engine and relay, stopping both if either fails\n" ++
  "  config   Print the effective configuration\n" ++
  "  help     Print this message or the help of the given subcommand(s)\n\n" ++
  "Options:\n" ++
  "      --config <CONFIG>  Config file to load instead of ./cyperus.toml\n" ++
  "  -h, --help             Print help\n" ++
  "  -V, --version          Print version\n"

def Compiled.text (c : Compiled) (json : Bool) : String :=
  if json then c.report.toJson.indented 2 ++ "\n"
  else
    c.report.summary ++ "\n" ++
      String.join (c.report.warnings.map fun w => s!"  warning: {w.text}\n") ++
      s!"wrote {c.output.text}\n"

def compileCommand (ids : Nat → String) (t : FileTree) (c : Config) (preset : Path)
    (o : CompileOptions) (json : Bool) : Outcome :=
  match compileFile ids t c preset o with
  | (.ok compiled, t) => { code := 0, output := compiled.text json, tree := t }
  | (.error e, t) => .failed t e.message

section Running

variable {σ : Type} (host : Host σ)

def runCommand (t : FileTree) (env : Environment) (c : Config) : Outcome :=
  match c.paths.create t with
  | (.error _, t) => .failed t "Failed to create cyperus directories"
  | (.ok (), t) =>
    let (s, h) := Supervision.run host (Service.all c) false (host.boot t env.entries)
    let left := host.finish h
    match s.result with
    | .ok _ =>
      { code := 0, output := left.output, errorOutput := left.errorOutput, tree := left.tree }
    | .error _ =>
      let failed := Outcome.failed left.tree "Supervised process failed"
      { failed with
        output := left.output, errorOutput := left.errorOutput ++ failed.errorOutput }

/-- Does what was asked for. -/
def Invocation.run (ids : Nat → String) (t : FileTree) (env : Environment) : Invocation → Outcome
  | .help => { code := 0, output := helpText, tree := t }
  | .version => { code := 0, output := versionText, tree := t }
  | .misuse => { code := 2, errorOutput := "error: invalid arguments\n", tree := t }
  | .command requested action =>
    match Config.load t env requested with
    | .error _ => .failed t "Failed to load configuration"
    | .ok (c, sources) =>
      match action with
      | .compile preset options json => compileCommand ids t c preset options json
      | .run => runCommand host t env c
      | .config => { code := 0, output := c.shown sources, tree := t }

/-- A run of the program with arguments. The `n`-th id that an engine gives out is `ids n`. -/
def run (ids : Nat → String) (t : FileTree) (env : Environment) (arguments : List String) :
    Outcome :=
  (Invocation.ofArguments arguments).run host ids t env

end Running

end Patchbay.CommandLine
