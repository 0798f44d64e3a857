import Patchbay.Document.Basic
import Patchbay.Json.Printer
import Patchbay.Module
import Patchbay.Number.Text

/-!
# Kinds of nodes

The editor's type tag and properties say what a node means to the engine. The editor may put its
own name before a tag that it shares with others; both spellings mean the same. A tag that is not
known is no error: such a node is left out when a preset is compiled.
-/

namespace Patchbay

/-- What a node means to the engine. -/
inductive NodeKind where
  /-- Physical inputs, so many of them. -/
  | mainInputs (slots : Nat)
  /-- Physical outputs, so many of them. -/
  | mainOutputs (slots : Nat)
  /-- A bus, which holds a level of its own. -/
  | busAdd (title : String)
  /-- An input of the bus that the level belongs to. -/
  | busInput (name : String)
  /-- An output of the bus that the level belongs to. -/
  | busOutput (name : String)
  /-- A processing module. -/
  | processing (spec : ModuleSpec)
  /-- Nothing that the engine knows. -/
  | unsupported (tag : String)
deriving DecidableEq, Repr

def NodeKind.label : NodeKind → String
  | .mainInputs _ => "main/inputs"
  | .mainOutputs _ => "main/outputs"
  | .busAdd _ => "bus/add"
  | .busInput _ => "bus/input"
  | .busOutput _ => "bus/output"
  | .processing spec => spec.type.tag
  | .unsupported tag => tag

inductive FieldError where
  /-- The field is absent, `null`, or of a type that cannot be meant. -/
  | missing (field : String)
  /-- The property should be a number. -/
  | notNumeric (property : String) (value : Json)

namespace Node

/-- The name that the editor puts before its own tags. -/
def tagPrefix : List Char := "cyperus/".toList

/-- The type tag without the editor's name. -/
def bareTag (n : Node) : String :=
  let tag := n.type.toList
  if tagPrefix.isPrefixOf tag then String.ofList (tag.drop tagPrefix.length) else n.type

/-! ### Properties -/

/-- A property that may not be absent. -/
def property (n : Node) (name : String) : Except FieldError Json :=
  match Keyed.get? name n.properties with
  | none | some .null => .error (.missing name)
  | some v => .ok v

/-- The number of items of a property. -/
def itemCount (n : Node) (name : String) : Except FieldError Nat := do
  match ← n.property name with
  | .array items => return items.length
  | _ => throw (.missing name)

def textProperty (n : Node) (name : String) : Except FieldError String := do
  match ← n.property name with
  | .string s => return s
  | _ => throw (.missing name)

/-- The number that a value stands for; a text may stand for one too. -/
def numberOf? : Json → Option Single
  | .number x => some x.toSingle
  | .string s => Binary.ofText? s
  | _ => none

def numberProperty (n : Node) (name : String) : Except FieldError Single := do
  let v ← n.property name
  match numberOf? v with
  | some x => return x
  | none => throw (.notNumeric name v)

/-! ### Classification -/

/-- The module that a node describes: its parameters are asked for in the order of the request. -/
def moduleSpec (n : Node) (type : ModuleType) : Except FieldError ModuleSpec := do
  return ⟨type, ← type.parameters.mapM n.numberProperty⟩

/-- What a node means to the engine. -/
def classify (n : Node) : Except FieldError NodeKind :=
  match n.bareTag with
  | "main/inputs" => NodeKind.mainInputs <$> n.itemCount "ids"
  | "main/outputs" => NodeKind.mainOutputs <$> n.itemCount "ids"
  | "bus/add" =>
    match n.subgraph, n.title with
    | none, _ => .error (.missing "subgraph")
    | some _, none => .error (.missing "title")
    | some _, some title => .ok (.busAdd title)
  | "bus/input" => NodeKind.busInput <$> n.textProperty "name"
  | "bus/output" => NodeKind.busOutput <$> n.textProperty "name"
  | tag =>
    match ModuleType.ofTag? tag with
    | some type => NodeKind.processing <$> n.moduleSpec type
    | none => .ok (.unsupported n.type)

end Node

end Patchbay
