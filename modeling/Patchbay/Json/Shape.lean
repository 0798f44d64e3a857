import Patchbay.Json.Reading
import Patchbay.Json.Printer
import Patchbay.Text.Quoted

/-!
# Reading values of a shape

A record is asked for field by field while its text is read. A `ShapeError` says what was found
where something else had to stand; a `ReadError` is the first problem of a text, be it of its shape
or of its notation.
-/

namespace Patchbay.Json

/-- What has to stand at a place. -/
inductive Expected where
  | signedWord
  | text
  | sequence
  | map
  | record (name : String)
deriving DecidableEq, Repr

def Expected.name : Expected → String
  | .signedWord => "i64"
  | .text => "a string"
  | .sequence => "a sequence"
  | .map => "a map"
  | .record name => "struct " ++ name

/-- What stands at a place. -/
inductive Found where
  | null
  | bool (b : Bool)
  | number (n : Number)
  | text (s : String)
  | sequence
  | map
deriving DecidableEq, Repr

def Found.name : Found → String
  | .null => "null"
  | .bool b => s!"boolean `{b}`"
  | .number (.integer n) => s!"integer `{n}`"
  | .number (.float x) => "floating point `" ++ String.ofList (floatText x) ++ "`"
  | .text s => "string " ++ Text.quoted s
  | .sequence => "sequence"
  | .map => "map"

/-- Why a well-formed value is not what was asked for. -/
inductive ShapeError where
  /-- Something of another type stands there. -/
  | wrongType (found : Found) (expected : Expected)
  /-- The type fits, the value is out of range. -/
  | outOfRange (found : Found) (expected : Expected)
  | missingField (name : String)
  | duplicateField (name : String)
  /-- A link has too few elements. -/
  | linkTooShort (length expected : Nat)
  | linkNotInteger (field : String) (value : Json)
  | linkNotSlot (field : String) (value : Json)

def ShapeError.message : ShapeError → String
  | .wrongType found expected => s!"invalid type: {found.name}, expected {expected.name}"
  | .outOfRange found expected => s!"invalid value: {found.name}, expected {expected.name}"
  | .missingField name => s!"missing field `{name}`"
  | .duplicateField name => s!"duplicate field `{name}`"
  | .linkTooShort length expected => s!"link tuple has {length} fields, expected {expected}"
  | .linkNotInteger field value => s!"link field `{field}` must be an integer, got {value.compact}"
  | .linkNotSlot field value => s!"link field `{field}` must be a slot index, got {value.compact}"

/-- The first problem of a text. -/
inductive ReadError where
  | fault (f : Fault)
  | shape (error : ShapeError)

namespace Reading

/-- What stands at a place, unless it is a fault. -/
def found : Reading → Except Fault Found
  | .null => .ok .null
  | .bool b => .ok (.bool b)
  | .number n => .ok (.number n)
  | .string s => .ok (.text s)
  | .array _ _ => .ok .sequence
  | .object _ _ => .ok .map
  | .fault f => .error f

/-- The error of a reading that is not what was asked for. -/
def mismatch (r : Reading) (expected : Expected) : ReadError :=
  match r.found with
  | .ok found => .shape (.wrongType found expected)
  | .error f => .fault f

/-- Refuses a fault after the last part of an array or object. -/
def closed : Option Fault → Except ReadError Unit
  | none => .ok ()
  | some f => .error (.fault f)

def text : Reading → Except ReadError String
  | .string s => .ok s
  | r => .error (r.mismatch .text)

/-- A whole number that fits a signed word. -/
def signedWord : Reading → Except ReadError Int
  | .number (.integer n) =>
    if n < signedWordBound then .ok n
    else .error (.shape (.outOfRange (.number (.integer n)) .signedWord))
  | r => .error (r.mismatch .signedWord)

/-- A value that may be left out by writing `null`. -/
def optional {α : Type} (read : Reading → Except ReadError α) :
    Reading → Except ReadError (Option α)
  | .null => .ok none
  | r => some <$> read r

mutual

def json : Reading → Except ReadError Json
  | .null => .ok .null
  | .bool b => .ok (.bool b)
  | .number n => .ok (.number n)
  | .string s => .ok (.string s)
  | .array vs stop => do
    let vs ← jsonItems vs
    closed stop
    return .array vs
  | .object ms stop => do
    let ms ← jsonMembers ms
    closed stop
    return .object (Keyed.ofList ms)
  | .fault f => .error (.fault f)

def jsonItems : List Reading → Except ReadError (List Json)
  | [] => .ok []
  | v :: vs => do return (← json v) :: (← jsonItems vs)

/-- Free-form members, in the order they stand in. -/
def jsonMembers : List (String × Reading) → Except ReadError (List (String × Json))
  | [] => .ok []
  | (k, v) :: ms => do return (k, ← json v) :: (← jsonMembers ms)

end

/-- The items of a free-form array. -/
def sequence : Reading → Except ReadError (List Json)
  | .array vs stop => do
    let vs ← jsonItems vs
    closed stop
    return vs
  | r => .error (r.mismatch .sequence)

def map : Reading → Except ReadError Members
  | .object ms stop => do
    let ms ← jsonMembers ms
    closed stop
    return Keyed.ofList ms
  | r => .error (r.mismatch .map)

end Reading

/-- A field read for the first time; a second time is an error. -/
def once {α : Type} (name : String) (seen : Option α) (value : Except ReadError α) :
    Except ReadError (Option α) :=
  match seen with
  | some _ => .error (.shape (.duplicateField name))
  | none => some <$> value

/-- The value of a field that may not be left out. -/
def required {α : Type} (name : String) : Option α → Except ReadError α
  | some a => .ok a
  | none => .error (.shape (.missingField name))

/-- The value that a text is read as, where nothing but space follows it. -/
def parse {α : Type} (shape : Reading → Except ReadError α) (text : String) :
    Except ReadError α := do
  let (reading, after) := read text
  let value ← shape reading
  Reading.closed after
  return value

end Patchbay.Json
