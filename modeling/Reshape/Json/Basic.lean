import Reshape.Floating.Basic

/-!
# JSON values

A number is held as an integer or as a finite floating-point number, and the two
stay apart.  The members of an object are kept in the order of their keys, with
one member for each key.
-/

namespace Reshape

inductive Json.Number where
  | integer (value : Int) (inRange : -2 ^ 63 ≤ value ∧ value < 2 ^ 64)
  | float (value : Floating.Finite .double)
  deriving DecidableEq

inductive Json where
  | null
  | bool (value : Bool)
  | number (value : Json.Number)
  | string (value : String)
  | array (items : List Json)
  | object (members : List (String × Json))

namespace Json

instance : Inhabited Json := ⟨.null⟩

def kind : Json → String
  | .null => "null"
  | .bool _ => "boolean"
  | .number _ => "number"
  | .string _ => "string"
  | .array _ => "array"
  | .object _ => "object"

/-! ## Members -/

/-- Adds a member in the order of the keys, in place of an older one with its key. -/
def insertMember {α : Type} (key : String) (value : α) :
    List (String × α) → List (String × α)
  | [] => [(key, value)]
  | (otherKey, other) :: members =>
      if key < otherKey then (key, value) :: (otherKey, other) :: members
      else if key = otherKey then (key, value) :: members
      else (otherKey, other) :: insertMember key value members

def ofMembers (members : List (String × Json)) : Json :=
  .object (members.foldl (fun object (key, value) => insertMember key value object) [])

/-! ## Equality of values -/

/-- An integer never equals a floating-point number. -/
def Number.same : Number → Number → Bool
  | .integer left _, .integer right _ => left == right
  | .float left, .float right => left.same right
  | _, _ => false

mutual

/-- Equality where numbers are compared as numbers, so that the two zeros are equal. -/
def same : Json → Json → Bool
  | .null, .null => true
  | .bool left, .bool right => left == right
  | .number left, .number right => left.same right
  | .string left, .string right => left == right
  | .array left, .array right => sameItems left right
  | .object left, .object right => sameMembers left right
  | _, _ => false

def sameItems : List Json → List Json → Bool
  | [], [] => true
  | left :: lefts, right :: rights => same left right && sameItems lefts rights
  | _, _ => false

def sameMembers : List (String × Json) → List (String × Json) → Bool
  | [], [] => true
  | (leftKey, left) :: lefts, (rightKey, right) :: rights =>
      leftKey == rightKey && same left right && sameMembers lefts rights
  | _, _ => false

end

end Json

end Reshape
