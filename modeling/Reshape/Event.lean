import Reshape.FieldType.Basic
import Reshape.Schema.Lookup

/-!
# Events

What a transformation tells of its course.
-/

namespace Reshape

inductive Level where
  | info
  | debug
  | trace
  deriving DecidableEq, Repr

inductive Event where
  | configResolved (schemas mappings : Nat)
  | fieldResolved (destination source : String) (kind : MatchKind)
  | fieldUnresolved (record field lookup : String)
  | coercionSkipped (record field : String) (source target : FieldType)
  deriving DecidableEq, Repr

namespace Event

def level : Event → Level
  | .configResolved _ _ => .info
  | .fieldResolved _ _ _ => .trace
  | .fieldUnresolved _ _ _ | .coercionSkipped _ _ _ _ => .debug

def message : Event → String
  | .configResolved _ _ => "transform config resolved"
  | .fieldResolved _ _ _ => "field resolved"
  | .fieldUnresolved _ _ _ => "no source field, left at zero value"
  | .coercionSkipped _ _ _ _ => "no applicable coercion, left at zero value"

end Event

end Reshape
