import Patchbay.Files.Path

/-!
# Environments

The variables that a program is started with, and the home directory of its user. A path in the
settings may begin with `~/` for the home directory or with `$NAME` for the path in a variable.
-/

namespace Patchbay

/-- What a program is told by who starts it. -/
structure Environment where
  /-- The variables and their values. -/
  bindings : List (String × String)
  /-- The home directory of the user's account. -/
  accountHome : Option Path := none

namespace Environment

def value? (env : Environment) (name : String) : Option String := env.bindings.lookup name

/-- The variables with the values that count, each once. -/
def entries (env : Environment) : List (String × String) :=
  env.bindings.foldl (fun vs (name, value) =>
    if vs.any (·.1 = name) then vs else vs ++ [(name, value)]) []

/-- The home directory: that of a variable, unless it is empty. -/
def home? (env : Environment) : Option Path :=
  match env.value? "HOME" with
  | some h => if h = "" then env.accountHome else some ⟨h⟩
  | none => env.accountHome

/-- The directory of the user's settings; a relative path in the variable does not count. -/
def configDirectory? (env : Environment) : Option Path := do
  let home ← env.home?
  match (env.value? "XDG_CONFIG_HOME").filter fun d => Path.isAbsolute ⟨d⟩ with
  | some d => return ⟨d⟩
  | none => return home.join ⟨".config"⟩

/-- The path that a text stands for: `~/` leads on from the home directory, and `$NAME`, alone or
before a slash, from the path in a variable that is set. Any other text is the path as it is. -/
def expand (env : Environment) (text : String) : Path :=
  match text.toList with
  | '~' :: '/' :: rest =>
    match env.home? with
    | some home => home.join ⟨String.ofList rest⟩
    | none => ⟨text⟩
  | '$' :: rest =>
    let name := String.ofList (rest.takeWhile (· ≠ '/'))
    match env.value? name, rest.dropWhile (· ≠ '/') with
    | none, _ => ⟨text⟩
    | some w, [] => ⟨w⟩
    | some w, _ :: below => Path.join ⟨w⟩ ⟨String.ofList below⟩
  | _ => ⟨text⟩

end Environment

end Patchbay
