import Reshape.Floating.Decimal
import Reshape.Json.Basic
import Reshape.Text.Numeral

/-!
# JSON text, written

Values are written without blanks (`compact`) or one item a line, indented by
two spaces a level (`pretty`).  Of the characters of a string only the quotation
mark, the backslash and the control characters below U+0020 are escaped.
-/

namespace Reshape.Json

def escapedChar (character : Char) : List Char :=
  if character = '"' then ['\\', '"']
  else if character = '\\' then ['\\', '\\']
  else if character = '\x08' then ['\\', 'b']
  else if character = '\x0c' then ['\\', 'f']
  else if character = '\n' then ['\\', 'n']
  else if character = '\r' then ['\\', 'r']
  else if character = '\t' then ['\\', 't']
  else if character.toNat < 0x20 then
    ['\\', 'u'] ++ Text.padded 16 4 character.toNat
  else [character]

def stringText (text : String) : List Char :=
  ['"'] ++ text.toList.flatMap escapedChar ++ ['"']

def Number.text : Number → List Char
  | .integer value _ => (toString value).toList
  | .float value => value.text

def boolText (value : Bool) : List Char :=
  if value then "true".toList else "false".toList

/-! ## Compact text -/

mutual

def compact : Json → List Char
  | .null => "null".toList
  | .bool value => boolText value
  | .number value => value.text
  | .string value => stringText value
  | .array items => ['['] ++ compactItems items ++ [']']
  | .object members => ['\x7b'] ++ compactMembers members ++ ['\x7d']

def compactItems : List Json → List Char
  | [] => []
  | [item] => compact item
  | item :: items => compact item ++ [','] ++ compactItems items

def compactMembers : List (String × Json) → List Char
  | [] => []
  | [(key, value)] => stringText key ++ [':'] ++ compact value
  | (key, value) :: members =>
      stringText key ++ [':'] ++ compact value ++ [','] ++ compactMembers members

end

def render (json : Json) : String := String.ofList json.compact

/-! ## Indented text -/

def newLine (level : Nat) : List Char := '\n' :: List.replicate (2 * level) ' '

mutual

def indented (level : Nat) : Json → List Char
  | .array (item :: items) =>
      ['['] ++ indentedItems (level + 1) (item :: items) ++ newLine level ++ [']']
  | .object (member :: members) =>
      ['\x7b'] ++ indentedMembers (level + 1) (member :: members) ++
        newLine level ++ ['\x7d']
  | .array [] => ['[', ']']
  | .object [] => ['\x7b', '\x7d']
  | .null => "null".toList
  | .bool value => boolText value
  | .number value => value.text
  | .string value => stringText value

def indentedItems (level : Nat) : List Json → List Char
  | [] => []
  | [item] => newLine level ++ indented level item
  | item :: items =>
      newLine level ++ indented level item ++ [','] ++ indentedItems level items

def indentedMembers (level : Nat) : List (String × Json) → List Char
  | [] => []
  | [(key, value)] => newLine level ++ stringText key ++ [':', ' '] ++ indented level value
  | (key, value) :: members =>
      newLine level ++ stringText key ++ [':', ' '] ++ indented level value ++
        [','] ++ indentedMembers level members

end

def pretty (json : Json) : String := String.ofList (json.indented 0)

end Reshape.Json
