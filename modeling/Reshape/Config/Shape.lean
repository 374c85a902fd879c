import Reshape.Config.DecodeError
import Reshape.Json.Draft
import Reshape.Json.Scan
import Reshape.Text.Quoted

/-!
# Decoding configuration text

Decoders from drafts of JSON text.  They go through a draft from left to right
and stop at the first thing that is wrong, be the text malformed there or of the
wrong form.  A record is written as an object, whose members may come in any order
and may include unknown ones, or as an array of its fields in their order.
-/

namespace Reshape.Config

open Json

/-! ## Parts of any kind -/

/-- How a message names what it found in a place. -/
def foundText : Draft → Except Fault String
  | .null => .ok "null"
  | .bool value => .ok ("boolean `" ++ (if value then "true" else "false") ++ "`")
  | .number (.ok (.integer value _)) => .ok ("integer `" ++ toString value ++ "`")
  | .number (.ok (.float value)) =>
      .ok ("floating point `" ++ String.ofList value.text ++ "`")
  | .number (.error fault) => .error fault
  | .string value => value.map fun text => "string " ++ Text.quoted text
  | .array _ _ => .ok "sequence"
  | .object _ _ => .ok "map"
  | .cut damage => .error damage.read

def mismatch (draft : Draft) (expected : Expectation) : DecodeError :=
  match foundText draft with
  | .ok found => .invalidType found expected
  | .error fault => .malformed fault

/-- What is read, unless the text is damaged behind it. -/
def unlessDamaged {α : Type} (ending : Option Damage) (value : α) : Except DecodeError α :=
  match ending with
  | some damage => .error (.malformed damage.read)
  | none => .ok value

/-! ## Texts, sequences and maps -/

def decodeText : Draft → Except DecodeError String
  | .string (.ok value) => .ok value
  | draft => .error (mismatch draft .text)

def decodeOptionalText : Draft → Except DecodeError (Option String)
  | .null => .ok none
  | draft => (decodeText draft).map some

def decodeFieldType (draft : Draft) : Except DecodeError FieldType :=
  match decodeText draft with
  | .error error => .error error
  | .ok text =>
      match FieldType.parse text with
      | .ok type => .ok type
      | .error cause => .error (.badFieldType cause)

def decodeSequence {α : Type} (decodeItem : Draft → Except DecodeError α) :
    Draft → Except DecodeError (List α)
  | .array items ending =>
      match items.mapM decodeItem with
      | .error error => .error error
      | .ok values => unlessDamaged ending values
  | draft => .error (mismatch draft .sequence)

/-- The members of a map of texts, in the order of the text. -/
def decodeTextMembers :
    List (Except Fault String × Draft) → Except DecodeError (List (String × String))
  | [] => .ok []
  | (.error fault, _) :: _ => .error (.malformed fault)
  | (.ok key, draft) :: members =>
      match decodeText draft with
      | .error error => .error error
      | .ok value => (decodeTextMembers members).map ((key, value) :: ·)

def decodeTextMap : Draft → Except DecodeError (List (String × String))
  | .object members ending =>
      match decodeTextMembers members with
      | .error error => .error error
      | .ok entries => unlessDamaged ending entries
  | draft => .error (mismatch draft .map)

/-! ## Records -/

/--
The shape of a record in configuration text.  `Parts` holds the fields that have
been read; `finish` makes the record of them or names a field that is missing.
-/
structure Shape (Parts Record : Type) where
  name : String
  keys : List String
  start : Parts
  /-- Reads the value of a known key into the parts. -/
  put : String → Draft → Parts → Option (Except DecodeError Parts)
  finish : Parts → Except String Record

/-- Reads a part that must not have been read before. -/
def putOnce {α Parts : Type} (key : String) (old : Option α)
    (read : Except DecodeError α) (set : α → Parts) :
    Option (Except DecodeError Parts) :=
  some (if old.isSome then .error (.duplicateField key) else read.map set)

namespace Shape

variable {Parts Record : Type} (shape : Shape Parts Record)

def decodeMembers (parts : Parts) :
    List (Except Fault String × Draft) → Except DecodeError Parts
  | [] => .ok parts
  | (.error fault, _) :: _ => .error (.malformed fault)
  | (.ok key, draft) :: members =>
      match shape.put key draft parts with
      | some (.ok parts) => decodeMembers parts members
      | some (.error error) => .error error
      | none =>
          match draft.skipFault? with
          | some fault => .error (.malformed fault)
          | none => decodeMembers parts members

def decodeItems (parts : Parts) : List String → List Draft → Except DecodeError Parts
  | _, [] => .ok parts
  | [], _ :: _ => .error (.malformed .trailingCharacters)
  | key :: keys, draft :: items =>
      match shape.put key draft parts with
      | some (.error error) => .error error
      | some (.ok parts) => decodeItems parts keys items
      | none => decodeItems parts keys items

def decode : Draft → Except DecodeError Record
  | .object members ending => do
      let parts ← shape.decodeMembers shape.start members
      let parts ← unlessDamaged ending parts
      match shape.finish parts with
      | .ok record => .ok record
      | .error key => .error (.missingField key)
  | .array items ending => do
      let parts ← shape.decodeItems shape.start shape.keys items
      match ending with
      | some damage =>
          let complete := items.length == shape.keys.length
          .error (.malformed (if complete then damage.halt else damage.read))
      | none =>
          match shape.finish parts with
          | .ok record => .ok record
          | .error _ =>
              .error (.invalidLength items.length shape.name shape.keys.length)
  | draft => .error (mismatch draft (.record shape.name))

end Shape

/-! ## Whole texts -/

def decodeDocument {α : Type} (decode : Draft → Except DecodeError α) (text : String) :
    Except DecodeError α := do
  let document := Document.ofText text
  let value ← decode document.root
  if document.trailing then .error (.malformed .trailingCharacters) else .ok value

end Reshape.Config
