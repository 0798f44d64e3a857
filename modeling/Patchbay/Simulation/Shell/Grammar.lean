/-!
# Scripts

What a script of the shell consists of. A word is a row of pieces: text, which may be quoted, and
what the shell puts in the place of parameters, commands and calculations. A command is a row of
words with assignments before it, or is made up of other commands.
-/

namespace Patchbay.Shell

/-- What is done with the value of a parameter. -/
inductive Use where
  | value
  | length
  /-- Another word in place of a missing value; with `empty`, also of an empty one. -/
  | orElse (empty : Bool)
  /-- The same, and the word becomes the value. -/
  | orAssign (empty : Bool)
  /-- The end of the script if there is no value. -/
  | orFail (empty : Bool)
  /-- A word in place of a value that is there. -/
  | andThen (empty : Bool)
  /-- The value without the shortest or longest start that fits a pattern. -/
  | withoutStart (longest : Bool)
  /-- The value without the shortest or longest end that fits a pattern. -/
  | withoutEnd (longest : Bool)
  /-- Nothing that is known. -/
  | unknown
deriving DecidableEq, Repr

inductive Direction where
  | input
  | output
  /-- Output that replaces a file in any case. -/
  | overwrite
  | append
  | both
  /-- Another channel, to read from or to write to. -/
  | likeInput
  | likeOutput
  /-- The text with a number that stands in the script. -/
  | here (number : Nat)
deriving DecidableEq, Repr

mutual

inductive Piece where
  | text (t : String) (quoted : Bool)
  | parameter (name : String) (use : Use) (word : List Piece) (quoted : Bool)
  | output (commands : List Command) (quoted : Bool)
  | calculation (expression : List Piece) (quoted : Bool)

/-- A channel that is led elsewhere. -/
inductive Redirection where
  | mk (channel : Nat) (direction : Direction) (word : List Piece)

inductive Branch where
  | mk (patterns : List (List Piece)) (body : List Command)

/-- A command. Commands have the number of the line they stand in. -/
inductive Command where
  | simple (line : Nat) (assignments : List (String × List Piece)) (words : List (List Piece))
    (redirections : List Redirection)
  | both (first second : Command)
  | either (first second : Command)
  | not (command : Command)
  | pipeline (commands : List Command)
  | background (command : Command)
  | subshell (line : Nat) (body : List Command)
  | group (body : List Command)
  | branch (condition yes no : List Command)
  | loop (isUntil : Bool) (condition body : List Command)
  /-- Without words, the loop runs over the arguments. -/
  | forEach (line : Nat) (name : String) (words : Option (List (List Piece)))
    (body : List Command)
  | choice (line : Nat) (word : List Piece) (branches : List Branch)
  | define (name : String) (body : Command)
  | redirected (line : Nat) (command : Command) (redirections : List Redirection)

end

abbrev Word := List Piece

end Patchbay.Shell
