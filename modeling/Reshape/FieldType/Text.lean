import Reshape.FieldType.Basic
import Reshape.Text.Blank
import Reshape.Text.Lowercase

/-!
# The text of a field type

`FieldType.text` writes a type, `FieldType.parse` reads one: a base name, or the
word `option` or `list` followed by a type in angle brackets.  Letters count in
either case, blanks may stand around every part, and an option of an option is
refused.
-/

namespace Reshape

/-- Why a text is no field type. -/
inductive TypeTextError where
  | unknown (text : String)
  | nestedOption (text : String)
  deriving DecidableEq, Repr

def TypeTextError.message : TypeTextError → String
  | .unknown text => "unknown field type '" ++ text ++ "'"
  | .nestedOption text => "nested option in '" ++ text ++ "'"

namespace FieldType

/-! ## Writing -/

def spelling : FieldType → List Char
  | .bool => "bool".toList
  | .int type => type.name.toList
  | .f32 => "f32".toList
  | .f64 => "f64".toList
  | .string => "string".toList
  | .uuid => "uuid".toList
  | .timestamp => "timestamp".toList
  | .json => "json".toList
  | .list item => "list<".toList ++ spelling item ++ ['>']
  | .option item => "option<".toList ++ spelling item ++ ['>']

def text (type : FieldType) : String := String.ofList type.spelling

/-! ## Reading -/

/-- The names of the types without an item type; some types have two. -/
def baseNames : List (String × FieldType) :=
  [("bool", .bool), ("boolean", .bool),
    ("i8", .int .i8), ("i16", .int .i16), ("i32", .int .i32), ("i64", .int .i64),
    ("u8", .int .u8), ("u16", .int .u16), ("u32", .int .u32), ("u64", .int .u64),
    ("f32", .f32), ("f64", .f64), ("string", .string), ("text", .string),
    ("uuid", .uuid), ("timestamp", .timestamp), ("timestamptz", .timestamp),
    ("json", .json), ("jsonb", .json)]

def ofBaseName? (name : List Char) : Option FieldType :=
  (baseNames.find? fun entry => entry.1.toList == name).map (·.2)

/-- What stands in the angle brackets that follow `word` and end the text. -/
def bracketed? (word text : List Char) : Option (List Char) :=
  if word.isPrefixOf text then
    match Text.trimStart (text.drop word.length) with
    | '<' :: inner => if inner.getLast? = some '>' then some inner.dropLast else none
    | _ => none
  else none

private theorem length_lt_of_bracketed? {word text inner : List Char}
    (h : bracketed? word text = some inner) : inner.length < text.length := by
  unfold bracketed? at h
  split at h
  · split at h
    · rename_i tail htail
      split at h
      · cases h
        have hlength := Text.length_trimStart_le (text.drop word.length)
        rw [htail] at hlength
        simp only [List.length_cons, List.length_drop, List.length_dropLast] at *
        omega
      · simp at h
    · simp at h
  · simp at h

/--
Reads a type from a text without capitals and without blanks at its ends, which
messages show as `shown`.
-/
def read (shown text : List Char) : Except TypeTextError FieldType :=
  match _found : bracketed? "option".toList text with
  | some inner =>
      match read (Text.trim inner) (Text.trim inner) with
      | .error error => .error error
      | .ok item =>
          if item.isOption then .error (.nestedOption (String.ofList shown))
          else .ok (.option item)
  | none =>
      match _found : bracketed? "list".toList text with
      | some inner => (read (Text.trim inner) (Text.trim inner)).map .list
      | none =>
          match ofBaseName? text with
          | some type => .ok type
          | none => .error (.unknown (String.ofList shown))
  termination_by text.length
  decreasing_by
    · have := length_lt_of_bracketed? _found
      have := Text.length_trim_le inner
      omega
    · have := length_lt_of_bracketed? _found
      have := Text.length_trim_le inner
      omega

def parse (text : String) : Except TypeTextError FieldType :=
  let trimmed := Text.trim text.toList
  read trimmed (Text.lowercase trimmed)

end FieldType

end Reshape
