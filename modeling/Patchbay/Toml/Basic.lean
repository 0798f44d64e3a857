import Patchbay.Number.Binary
import Patchbay.Text.Keyed

/-!
# Settings tables

The values of a settings file, and laying one table over another. The keys of a table are in
ascending order, each at most once.
-/

namespace Patchbay

/-- A value of a settings file. -/
inductive Toml where
  | string (s : String)
  | integer (n : Int)
  | float (x : Double)
  | boolean (b : Bool)
  /-- A date, a time of day or both, by its text with the letters `T` and `Z`. -/
  | datetime (text : String)
  | array (items : List Toml)
  | table (entries : List (String × Toml))
deriving Repr, Inhabited

namespace Toml

abbrev Table := List (String × Toml)

mutual

/-- A value laid over what stands at its place. Tables are laid over each other key by key;
everything else replaces what was there. -/
def laidOver (below : Option Toml) : Toml → Toml
  | .table upper =>
    match below with
    | some (.table lower) => .table (Table.overlay lower upper)
    | _ => .table upper
  | v => v

/-- A table with the entries of another one laid over it. -/
def Table.overlay (lower : Table) : Table → Table
  | [] => lower
  | (key, v) :: upper =>
    Table.overlay (Keyed.insert key (laidOver (Keyed.get? key lower) v) lower) upper

end

/-- Tables laid over each other, the first at the bottom. -/
def Table.ofLayers (layers : List Table) : Table := layers.foldl Table.overlay []

end Toml

end Patchbay
