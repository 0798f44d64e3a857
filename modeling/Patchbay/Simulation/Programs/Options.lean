import Patchbay.Simulation.Programs.Context

/-!
# Options of programs

Options are letters after one minus, or names after two; they may stand among the other arguments.
A letter that takes a text has it after it or in the next argument, a name has it after an equality
sign or in the next argument. A name may be cut short as long as only one begins so.
-/

namespace Patchbay

structure OptionTable where
  /-- The letters. -/
  plain : List Char := []
  /-- The letters that take a text. -/
  withText : List Char := []
  /-- Names, and the letters that they stand for. -/
  names : List (String × Char) := []
  /-- Whether the first argument that is no option ends the options. -/
  stopsEarly : Bool := false

/-- The options among arguments, with their texts, and the other arguments. -/
structure Options where
  given : List (Char × String) := []
  operands : List String := []

namespace Options

def has (o : Options) (c : Char) : Bool := o.given.any (·.1 = c)

def text? (o : Options) (c : Char) : Option String :=
  (o.given.reverse.find? (·.1 = c)).map Prod.snd

/-- The options with one more in front. -/
def give (o : Options) (c : Char) (text : String) : Options :=
  { o with given := (c, text) :: o.given }

end Options

namespace OptionTable

/-- The letter of a name that may be cut short. -/
def letter? (t : OptionTable) (name : String) : Except String Char :=
  match t.names.lookup name with
  | some c => .ok c
  | none =>
    match t.names.filter fun (n, _) => n.startsWith name with
    | [(_, c)] => .ok c
    | [] => .error s!"unrecognized option '--{name}'"
    | several =>
      if (several.all fun (_, c) => some c = several.head?.map Prod.snd) then
        .ok (several.head?.map Prod.snd |>.getD ' ')
      else
        let shown := String.join (several.map fun (n, _) => s!" '--{n}'")
        .error s!"option '--{name}' is ambiguous; possibilities:{shown}"

/-- The options among arguments. -/
def read (t : OptionTable) : Nat → List String → Except String Options
  | 0, ws => .ok { operands := ws }
  | _, [] => .ok {}
  | fuel + 1, w :: ws =>
    match w.toList with
    | ['-', '-'] => .ok { operands := ws }
    | '-' :: '-' :: cs => do
      let (name, rest) := cs.span (· ≠ '=')
      let name := String.ofList name
      let c ← t.letter? name
      match t.withText.contains c, rest, ws with
      | false, [], ws => return (← t.read fuel ws).give c ""
      | false, _, _ => throw s!"option '--{name}' doesn't allow an argument"
      | true, '=' :: text, ws => return (← t.read fuel ws).give c (String.ofList text)
      | true, _, text :: ws => return (← t.read fuel ws).give c text
      | true, _, [] => throw s!"option '--{name}' requires an argument"
    | '-' :: c :: cs =>
      if t.withText.contains c then
        match cs, ws with
        | [], text :: ws => return (← t.read fuel ws).give c text
        | [], [] => throw s!"option requires an argument -- '{c}'"
        | cs, ws => return (← t.read fuel ws).give c (String.ofList cs)
      else if t.plain.contains c then
        let ws := if cs.isEmpty then ws else String.ofList ('-' :: cs) :: ws
        return (← t.read fuel ws).give c ""
      else throw s!"invalid option -- '{c}'"
    | _ =>
      if t.stopsEarly then .ok { operands := w :: ws }
      else do
        let o ← t.read fuel ws
        return { o with operands := w :: o.operands }

def ofArguments (t : OptionTable) (ws : List String) : Except String Options :=
  t.read (ws.foldl (fun n w => n + w.length + 1) 1) ws

end OptionTable

abbrev Work := Context → Act Nat

namespace Context

def suggestHelp (c : Context) (code : Nat) : Act Nat := do
  let _ ← c.send 2 s!"Try '{c.name} --help' for more information.\n"
  return code

def misuse (c : Context) (text : String) (code : Nat) : Act Nat := do
  c.complain text
  c.suggestHelp code

/-- Does what a program does with its options, or complains about them. -/
def withOptions (c : Context) (t : OptionTable) (code : Nat) (work : Options → Act Nat) :
    Act Nat :=
  match t.ofArguments c.arguments with
  | .ok o => work o
  | .error text => c.misuse text code

def missingOperand (c : Context) (code : Nat) : Act Nat := c.misuse "missing operand" code

def extraOperand (c : Context) (w : String) (code : Nat) : Act Nat :=
  c.misuse s!"extra operand '{w}'" code

end Context

end Patchbay
