import Patchbay.Files.Tree

/-!
# Tests

A test of one word or of two is true or false: about texts, about whole numbers, and about files.
Those who test words in a row decide how the row is read.
-/

namespace Patchbay.Test

def unary : List String :=
  ["-r", "-w", "-x", "-e", "-f", "-d", "-c", "-b", "-p", "-u", "-g", "-k", "-s", "-t", "-z", "-n",
    "-h", "-L", "-O", "-G", "-S"]

def binary : List String :=
  ["=", "!=", "-eq", "-ne", "-ge", "-gt", "-le", "-lt", "-nt", "-ot", "-ef"]

/-- Directories where everyone can put files but only take away their own. -/
def sharedDirectories : List Place := [["tmp"], ["var", "tmp"]]

structure View where
  tree : FileTree
  /-- Whether the file at a place can be run as a program. -/
  canRun : Place → Bool := fun _ => false
  /-- Whether there is a device at a place. -/
  isDevice : Place → Bool := fun _ => false
  /-- The number that a word is. -/
  number? : String → Option Int
  /-- The message about a word that is no number. -/
  notNumber : String → String
  /-- Operators between two words that not everyone knows. -/
  more : List String := []
  /-- Whether a file that is missing is older than all others. -/
  missingIsOld : Bool := false

namespace View

def isBinary (v : View) (w : String) : Bool := binary.contains w || v.more.contains w

/-- The number that a word is, or what is wrong with it. -/
def number (v : View) (w : String) : Except String Int :=
  match v.number? w with
  | some n => .ok n
  | none => .error (v.notNumber w)

def holds (v : View) (operator word : String) : Except String Bool :=
  match operator with
  | "-z" => return word = ""
  | "-n" => return word ≠ ""
  | "-t" => do
    let _ ← v.number word
    return false
  | operator =>
    match (v.tree.locate ⟨word⟩).toOption with
    | none => return false
    | some (place, .directory _) =>
      return operator ∈ ["-r", "-w", "-x", "-e", "-d", "-s", "-O", "-G"] ||
        (operator = "-k" && sharedDirectories.contains place)
    | some (place, .file text) =>
      match operator with
      | "-r" | "-w" | "-e" | "-O" | "-G" => return true
      | "-f" => return !v.isDevice place
      | "-c" => return v.isDevice place
      | "-s" => return text ≠ "" || v.canRun place
      | "-x" => return v.canRun place
      | _ => return false

def compares (v : View) (operator a b : String) : Except String Bool :=
  let numbers (f : Int → Int → Bool) : Except String Bool := do
    return f (← v.number a) (← v.number b)
  match operator with
  | "=" | "==" => return a = b
  | "!=" => return a ≠ b
  | "<" => return a < b
  | ">" => return b < a
  | "-eq" => numbers (· = ·)
  | "-ne" => numbers (· ≠ ·)
  | "-ge" => numbers (· ≥ ·)
  | "-gt" => numbers (· > ·)
  | "-le" => numbers (· ≤ ·)
  | "-lt" => numbers (· < ·)
  | "-ef" =>
    match v.tree.locate ⟨a⟩, v.tree.locate ⟨b⟩ with
    | .ok (p, _), .ok (q, _) => return p = q
    | _, _ => return false
  | "-nt" => return v.missingIsOld && v.tree.exists? ⟨a⟩ && !v.tree.exists? ⟨b⟩
  | _ => return v.missingIsOld && v.tree.exists? ⟨b⟩ && !v.tree.exists? ⟨a⟩

end View

end Patchbay.Test
