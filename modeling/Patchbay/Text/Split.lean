/-!
# Splitting text at a character

Names of ports are joined by commas, and names of files by slashes. A text has one part more than
it has separators. Names that are not empty and hold no comma come back from a joined list as they
were.
-/

namespace Patchbay.Text

/-- The parts of a text between the occurrences of a character. -/
def splitAt (sep : Char) : List Char → List (List Char)
  | [] => [[]]
  | c :: cs =>
    if c = sep then [] :: splitAt sep cs
    else
      match splitAt sep cs with
      | [] => [[c]]
      | part :: parts => (c :: part) :: parts

/-- The names with a comma between each two. -/
def joinCommas (names : List String) : String := ",".intercalate names

/-- The names between the commas of a text; an empty one is no name. -/
def splitNames (s : String) : List String :=
  ((splitAt ',' s.toList).filter (!·.isEmpty)).map String.ofList

end Patchbay.Text
