/-!
# Keyed lists

A list of pairs with text keys, each key at most once: the members of a free-form object or table.
The keys are in ascending order, or in the order in which they were put.
-/

namespace Patchbay.Keyed

variable {α : Type}

def get? (key : String) : List (String × α) → Option α
  | [] => none
  | (k, v) :: r => if k = key then some v else get? key r

/-- Puts a value under a key of ascending keys, in place of the value that is there. -/
def insert (key : String) (value : α) : List (String × α) → List (String × α)
  | [] => [(key, value)]
  | (k, v) :: r =>
    if key = k then (key, value) :: r
    else if key < k then (key, value) :: (k, v) :: r
    else (k, v) :: insert key value r

/-- Puts every pair in turn, so that the last value of a key stays. -/
def ofList (pairs : List (String × α)) : List (String × α) :=
  pairs.foldl (fun m p => insert p.1 p.2 m) []

/-- Puts a value under a key, in place of the value that is there or after all others. -/
def put (key : String) (value : α) : List (String × α) → List (String × α)
  | [] => [(key, value)]
  | (k, v) :: r => if k = key then (key, value) :: r else (k, v) :: put key value r

def erase (key : String) (pairs : List (String × α)) : List (String × α) :=
  pairs.filter fun p => p.1 ≠ key

end Patchbay.Keyed
