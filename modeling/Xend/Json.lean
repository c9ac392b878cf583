import Mathlib.Algebra.Group.Int.Defs
import Mathlib.Data.List.Basic

/-! Decoded JSON, with the lookups the backend makes in it. A missing field
reads as `null`. -/

namespace Xend

inductive Json where
  | null
  | bool (b : Bool)
  | int (i : Int)
  | float (text : String)
  | str (s : String)
  | arr (items : List Json)
  | obj (fields : List (String × Json))

namespace Json

def get : Json → String → Option Json
  | obj fields, key => fields.lookup key
  | _, _ => none

def field (j : Json) (key : String) : Json := (j.get key).getD null

def item : Json → Nat → Json
  | arr items, i => items.getD i null
  | _, _ => null

def isNull : Json → Bool
  | null => true
  | _ => false

def asStr : Json → Option String
  | str s => some s
  | _ => none

def asU64 : Json → Option Nat
  | int i => if 0 ≤ i ∧ i < 2 ^ 64 then some i.toNat else none
  | _ => none

def asArray : Json → Option (List Json)
  | arr items => some items
  | _ => none

def asOptionalStr : Json → Option (Option String)
  | null => some none
  | str s => some (some s)
  | _ => none

/-- The fields of a record as `serde` looks for them: an object has each of them at most
once, an array all of them in order. -/
def record (keys : List String) : Json → Option (List (Option Json))
  | obj fields => keys.mapM fun key =>
    match fields.filter fun f => f.1 == key with
    | [] => some none
    | [f] => some (some f.2)
    | _ => none
  | arr items => if items.length = keys.length then some (items.map some) else none
  | _ => none

/-- The first `n` items of an array. -/
def truncated (n : Nat) : Json → Json
  | arr items => arr (items.take n)
  | j => j

end Json

def requiredStr (value : Option Json) : Option String := value.bind Json.asStr

def optionalStr (value : Option Json) : Option (Option String) :=
  value.elim (some none) Json.asOptionalStr

end Xend
