import Reshape.Json.Basic
import Reshape.Json.Fault

/-!
# Drafts

A draft is what a text shows when it is taken apart as JSON from left to right:
the tree of its values, with every fault at the place where it stands.  Whether a
fault matters depends on what is done with the place.  A value that is skipped
may hold a lone surrogate, a number that is too large, or values nested to any
depth; a value that is read may not.
-/

namespace Reshape.Json

inductive Draft where
  | null
  | bool (value : Bool)
  | number (value : Except Fault Number)
  | string (value : Except Fault String)
  /-- The items that a text shows, and what is wrong after the last of them. -/
  | array (items : List Draft) (ending : Option Damage)
  /-- The members that a text shows, and what is wrong after the last of them. -/
  | object (members : List (Except Fault String × Draft)) (ending : Option Damage)
  /-- The text breaks off before the value is complete. -/
  | cut (damage : Damage)

namespace Draft

/-! ## Skipping -/

mutual

/-- The first fault that matters to one who skips the value. -/
def skipFault? : Draft → Option Fault
  | .array items ending => (skipItemsFault? items).or (ending.map (·.skip))
  | .object members ending => (skipMembersFault? members).or (ending.map (·.skip))
  | .cut damage => some damage.skip
  | _ => none

def skipItemsFault? : List Draft → Option Fault
  | [] => none
  | item :: items => (skipFault? item).or (skipItemsFault? items)

def skipMembersFault? : List (Except Fault String × Draft) → Option Fault
  | [] => none
  | (_, value) :: members => (skipFault? value).or (skipMembersFault? members)

end

/-! ## Reading -/

mutual

/-- The value of a draft, in which arrays and objects may be nested `depth` deep. -/
def read (depth : Nat) : Draft → Except Fault Json
  | .null => .ok .null
  | .bool value => .ok (.bool value)
  | .number value => value.map .number
  | .string value => value.map .string
  | .cut damage => .error damage.read
  | .array items ending =>
      match depth with
      | 0 => .error .recursionLimit
      | depth + 1 =>
          match readItems depth items, ending with
          | .error fault, _ => .error fault
          | .ok _, some damage => .error damage.read
          | .ok values, none => .ok (.array values)
  | .object members ending =>
      match depth with
      | 0 => .error .recursionLimit
      | depth + 1 =>
          match readMembers depth members, ending with
          | .error fault, _ => .error fault
          | .ok _, some damage => .error damage.read
          | .ok values, none => .ok (ofMembers values)

def readItems (depth : Nat) : List Draft → Except Fault (List Json)
  | [] => .ok []
  | item :: items =>
      match read depth item with
      | .error fault => .error fault
      | .ok value => (readItems depth items).map (value :: ·)

def readMembers (depth : Nat) :
    List (Except Fault String × Draft) → Except Fault (List (String × Json))
  | [] => .ok []
  | (.error fault, _) :: _ => .error fault
  | (.ok key, value) :: members =>
      match read depth value with
      | .error fault => .error fault
      | .ok value => (readMembers depth members).map ((key, value) :: ·)

end

end Draft

end Reshape.Json
