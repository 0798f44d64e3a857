/-!
# Escapes in texts to be printed

In a text to be printed a backslash and what follows it can stand for a character that is hard to
write. There are several dialects: which escapes there are, and how many digits they take.
-/

namespace Patchbay.Text

/-- A way to write characters with a backslash. -/
structure Escapes where
  /-- Whether a zero can stand before three octal digits. -/
  leadingZero : Bool := true
  /-- Whether octal digits can stand without a zero before them. -/
  bareOctal : Bool := true
  /-- Whether `\x` and hexadecimal digits stand for a character. -/
  hexadecimal : Bool := false
  /-- Whether `\c` ends the text. -/
  stops : Bool := true
  /-- Whether `\"` stands for a quote. -/
  quote : Bool := false

def letters : List (Char × Char) :=
  [('a', '\x07'), ('b', '\x08'), ('e', '\x1b'), ('f', '\x0c'), ('n', '\n'), ('r', '\r'),
    ('t', '\t'), ('v', '\x0b'), ('\\', '\\')]

def isOctal (c : Char) : Bool := '0' ≤ c && c ≤ '7'

def digitOf (c : Char) : Nat :=
  if c.isDigit then c.toNat - '0'.toNat else (c.toLower.toNat - 'a'.toNat) + 10

def byte (ds : List Char) (base : Nat) : Char :=
  Char.ofNat (ds.foldl (fun n c => base * n + digitOf c) 0 % 256)

def isHexadecimal (c : Char) : Bool :=
  c.isDigit || ('a' ≤ c && c ≤ 'f') || ('A' ≤ c && c ≤ 'F')

/-- The character that an escape stands for, and how many characters follow the backslash. Nothing
if it is no escape. -/
def Escapes.read? (e : Escapes) (s : List Char) : Option (Char × Nat) :=
  match s with
  | [] => none
  | c :: rest =>
    if e.quote && c = '"' then some ('"', 1)
    else if e.hexadecimal && c = 'x' then
      let ds := (rest.take 2).takeWhile isHexadecimal
      if ds.isEmpty then none else some (byte ds 16, ds.length + 1)
    else if c = '0' && e.leadingZero then
      let ds := (rest.take 3).takeWhile isOctal
      some (byte ds 8, ds.length + 1)
    else if isOctal c && e.bareOctal then
      let ds := (s.take 3).takeWhile isOctal
      some (byte ds 8, ds.length)
    else (letters.lookup c).map (·, 1)

/-- A text with what its escapes stand for, and whether it has come to an end before its end. -/
def Escapes.expand (e : Escapes) : Nat → List Char → List Char × Bool
  | 0, _ => ([], false)
  | _, [] => ([], false)
  | fuel + 1, '\\' :: s =>
    if e.stops && s.head? = some 'c' then ([], true)
    else
      match e.read? s with
      | some (c, length) =>
        let (t, stopped) := e.expand fuel (s.drop length)
        (c :: t, stopped)
      | none =>
        let (t, stopped) := e.expand fuel s
        ('\\' :: t, stopped)
  | fuel + 1, c :: s =>
    let (t, stopped) := e.expand fuel s
    (c :: t, stopped)

def Escapes.text (e : Escapes) (t : String) : String × Bool :=
  let (s, stopped) := e.expand (t.length + 1) t.toList
  (String.ofList s, stopped)

end Patchbay.Text
