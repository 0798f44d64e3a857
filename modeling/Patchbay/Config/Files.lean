import Patchbay.Config.Overrides
import Patchbay.Config.Reading
import Patchbay.Files.Tree
import Patchbay.Toml.Reading

/-!
# Configuration files

Settings are collected from the file of the system, the file of the user, and the file in the
working directory or the one that is asked for in its place. A later file is laid over the earlier
ones, and variables of the environment count last.
-/

namespace Patchbay

namespace Config

/-- Why there is no configuration, or no directories for it. -/
inductive Failure where
  | file (path : Path) (error : OsError)
  /-- A file that holds no settings table. -/
  | syntaxError (path : Path)
  | setting (error : SettingError)
  | directory (path : Path) (error : OsError)

def Failure.message : Failure → String
  | .file path e => s!"Failed to read config file {path.text}: {e.message}"
  | .syntaxError path => s!"Failed to parse config file {path.text}"
  | .setting e => s!"Failed to parse config file <merged>: {e.message}"
  | .directory path e => s!"Failed to create directory {path.text}: {e.message}"

def systemFile : Path := ⟨"/etc/cyperus/config.toml"⟩

def localFile : Path := ⟨"cyperus.toml"⟩

/-- The file of the user. -/
def userFile? (env : Environment) : Option Path :=
  env.configDirectory?.map (·.join ⟨"cyperus/config.toml"⟩)

/-- The file that counts last among those that are there: the one asked for, or else the one in the
working directory. -/
def lastFile? (t : FileTree) (requested : Option Path) : Option Path :=
  (requested.filter t.exists?) <|> (some localFile).filter t.exists?

/-- The files that are there, the one that counts most last. -/
def files (t : FileTree) (env : Environment) (requested : Option Path) : List Path :=
  (systemFile :: (userFile? env).toList).filter t.exists? ++ (lastFile? t requested).toList

def tableOfFile (t : FileTree) (p : Path) : Except Failure Toml.Table := do
  let text ← (t.read p).mapError (.file p)
  match Toml.Table.ofText? text with
  | some table => return table
  | none => throw (.syntaxError p)

/-- The configuration of a list of files and the environment, and where it came from. -/
def ofFiles (t : FileTree) (env : Environment) (files : List Path) :
    Except Failure (Config × Sources) := do
  let layers ← files.mapM (tableOfFile t)
  let c ← (ofTable env (Toml.Table.ofLayers layers)).mapError .setting
  let (c, overrides) := c.override env env.value?
  return (c, { files, overrides })

/-- The configuration, and where it came from. -/
def load (t : FileTree) (env : Environment) (requested : Option Path) :
    Except Failure (Config × Sources) :=
  ofFiles t env (files t env requested)

end Config

/-- Creates directories, and those they lie in, where they are missing. -/
def Paths.createAll (t : FileTree) : List Path → Except Config.Failure Unit × FileTree
  | [] => (.ok (), t)
  | d :: rest =>
    match t.makeDirectories d with
    | (.ok (), t) => createAll t rest
    | (.error e, t) => (.error (.directory d e), t)

/-- Creates the directories of the program where they are missing. -/
def Paths.create (p : Paths) (t : FileTree) : Except Config.Failure Unit × FileTree :=
  createAll t p.all

end Patchbay
