import Patchbay.Number.Decimal
import Patchbay.Simulation.Programs.Streams
import Patchbay.Simulation.Text.Expression

/-!
# Values of arguments

The arguments are an expression of numbers and texts with operators between them, and its value is
printed.
-/

namespace Patchbay.Programs.Expr

inductive Fault where
  | missing (after : String)
  | unexpected (word : String)
  | notNumber
  | divisionByZero
  | expression (text : String)
  | unclosed (before : Option String)

def Fault.message : Fault → String
  | missing w => s!"syntax error: missing argument after '{w}'"
  | unexpected w => s!"syntax error: unexpected argument '{w}'"
  | notNumber => "non-integer argument"
  | divisionByZero => "division by zero"
  | expression t => t
  | unclosed (some w) => s!"syntax error: expecting ')' instead of '{w}'"
  | unclosed none => "syntax error: expecting ')'"

def number? (t : String) : Option Int :=
  let (minus, ds) :=
    match t.toList with
    | '-' :: ds => (true, ds)
    | ds => (false, ds)
  if ds.isEmpty || !ds.all Char.isDigit then none
  else some (if minus then -(ofDigits ds : Int) else ofDigits ds)

def isNull (t : String) : Bool :=
  t = "" || ((number? t).any (· = 0) && t.toList.all fun c => c = '0' || c = '-')

/-- The value of a text and an expression that has to fit at its start: a group of it, or how many
characters fit. -/
def fit (t p : String) : Except Fault String := do
  match Text.Expression.ofText false p with
  | .error e => throw (.expression e)
  | .ok e =>
    let hasGroup := (p.splitOn "\\(").length > 1
    match e.longestAt false { before := [], rest := t.toList } with
    | some f =>
      if hasGroup then return String.ofList ((f.groups.lookup 1).getD [])
      else return toString f.text.length
    | none => return if hasGroup then "" else "0"

def apply (o a b : String) : Except Fault String := do
  let numbers (f : Int → Int → Except Fault Int) : Except Fault String :=
    match number? a, number? b with
    | some x, some y => do return toString (← f x y)
    | _, _ => throw .notNumber
  let compared (f : Ordering → Bool) : Except Fault String :=
    let order :=
      match number? a, number? b with
      | some x, some y => compare x y
      | _, _ => compare a b
    return if f order then "1" else "0"
  match o with
  | "|" => return if !isNull a then a else if !isNull b then b else "0"
  | "&" => return if isNull a || isNull b then "0" else a
  | "<" => compared (· = .lt)
  | "<=" => compared (· ≠ .gt)
  | "=" | "==" => compared (· = .eq)
  | "!=" => compared (· ≠ .eq)
  | ">=" => compared (· ≠ .lt)
  | ">" => compared (· = .gt)
  | "+" => numbers fun x y => .ok (x + y)
  | "-" => numbers fun x y => .ok (x - y)
  | "*" => numbers fun x y => .ok (x * y)
  | "/" => numbers fun x y => if y = 0 then .error .divisionByZero else .ok (x.tdiv y)
  | "%" => numbers fun x y => if y = 0 then .error .divisionByZero else .ok (x.tmod y)
  | _ => fit a b

/-- Operators by how strongly they bind, the weakest first. -/
def levels : List (List String) :=
  [["|"], ["&"], ["<", "<=", "=", "==", "!=", ">=", ">"], ["+", "-"], ["*", "/", "%"], [":"]]

mutual

/-- The value of operands with operators of a level or stronger ones, and the arguments after
them. -/
def level (fuel : Nat) (before : String) (ops : List (List String)) (ws : List String) :
    Except Fault (String × List String) :=
  match fuel with
  | 0 => throw .notNumber
  | fuel + 1 =>
    match ops with
    | [] => operand fuel before ws
    | o :: stronger => do
      let (a, ws) ← level fuel before stronger ws
      more fuel o stronger a ws

/-- The value with further operators of a level. -/
def more (fuel : Nat) (o : List String) (stronger : List (List String)) (a : String)
    (ws : List String) : Except Fault (String × List String) :=
  match fuel with
  | 0 => throw .notNumber
  | fuel + 1 =>
    match ws with
    | w :: rest =>
      if o.contains w then do
        let (b, rest) ← level fuel w stronger rest
        more fuel o stronger (← apply w a b) rest
      else return (a, ws)
    | [] => return (a, [])

/-- The value of an operand, and the arguments after it. -/
def operand (fuel : Nat) (before : String) (ws : List String) :
    Except Fault (String × List String) :=
  match fuel with
  | 0 => throw .notNumber
  | fuel + 1 =>
    match ws with
    | [] => throw (.missing before)
    | "(" :: rest => do
      let (a, rest) ← level fuel "(" levels rest
      match rest with
      | ")" :: rest => return (a, rest)
      | w :: _ => throw (.unclosed (some w))
      | [] => throw (.unclosed none)
    | "+" :: w :: rest => return (w, rest)
    | "length" :: w :: rest => return (toString w.length, rest)
    | "match" :: t :: p :: rest => return (← fit t p, rest)
    | "index" :: t :: cs :: rest =>
      let n := (t.toList.takeWhile fun c => !cs.toList.contains c).length
      return (if n = t.length then "0" else toString (n + 1), rest)
    | "substr" :: t :: p :: n :: rest =>
      match number? p, number? n with
      | some p, some n =>
        if p < 1 ∨ n < 1 then return ("", rest)
        else return (String.ofList ((t.toList.drop (p.toNat - 1)).take n.toNat), rest)
      | _, _ => return ("", rest)
    | w :: rest => return (w, rest)

end

/-- Prints the value of its arguments. -/
def work : Work := fun c => do
  let ws := if c.arguments.head? = some "--" then c.arguments.tail else c.arguments
  if ws.isEmpty then return ← c.missingOperand 2
  let value : Except Fault String := do
    let (a, rest) ← level (64 * (ws.length + 2)) "" levels ws
    match rest with
    | [] => return a
    | w :: _ => throw (.unexpected w)
  match value with
  | .ok a =>
    c.put (a ++ "\n")
    return if isNull a then 1 else 0
  | .error e =>
    c.complain e.message
    return 2

end Patchbay.Programs.Expr
