import Reshape.FieldType.Basic
import Reshape.Floating.Basic
import Reshape.Json.Basic
import Reshape.Timestamp.Basic
import Reshape.Uuid

/-!
# Values

The values that the fields of a record hold.  A field of an option type holds
`null` or a value of the item type.  `Value.zero` is what a field holds when
nothing was assigned to it.
-/

namespace Reshape

inductive Value where
  | null
  | bool (value : Bool)
  | int (type : IntType) (value : type.Carrier)
  | f32 (value : Single)
  | f64 (value : Double)
  | string (value : String)
  | uuid (value : Uuid)
  | timestamp (value : Timestamp)
  | json (value : Json)
  | list (items : List Value)

namespace Value

def kind : Value → String
  | .null => "null"
  | .bool _ => "bool"
  | .int type _ => type.name
  | .f32 _ => "f32"
  | .f64 _ => "f64"
  | .string _ => "string"
  | .uuid _ => "uuid"
  | .timestamp _ => "timestamp"
  | .json _ => "json"
  | .list _ => "list"

def isNull : Value → Bool
  | .null => true
  | _ => false

def toInt? : Value → Option Int
  | .int _ value => some value.val
  | _ => none

def toText? : Value → Option String
  | .string value => some value
  | _ => none

def zero : FieldType → Value
  | .bool => .bool false
  | .int type => .int type type.zero
  | .f32 => .f32 (Floating.zero _)
  | .f64 => .f64 (Floating.zero _)
  | .string => .string ""
  | .uuid => .uuid Uuid.nil
  | .timestamp => .timestamp Timestamp.epoch
  | .json => .json .null
  | .list _ => .list []
  | .option _ => .null

/-! ## Equality of values -/

mutual

/-- Equality where floating-point numbers are compared as numbers. -/
def same : Value → Value → Bool
  | .null, .null => true
  | .bool left, .bool right => left == right
  | .int leftType left, .int rightType right =>
      leftType == rightType && left.val == right.val
  | .f32 left, .f32 right => left.same right
  | .f64 left, .f64 right => left.same right
  | .string left, .string right => left == right
  | .uuid left, .uuid right => left == right
  | .timestamp left, .timestamp right => left == right
  | .json left, .json right => left.same right
  | .list left, .list right => sameItems left right
  | _, _ => false

def sameItems : List Value → List Value → Bool
  | [], [] => true
  | left :: lefts, right :: rights => same left right && sameItems lefts rights
  | _, _ => false

end

end Value

end Reshape
