import Reshape.Text.Numeral
import Reshape.Text.Utf8

/-!
# UUIDs

A UUID is a number of 128 bits.  It is written as 32 hexadecimal digits in five
groups.  It is read from that form, which may stand in braces or after `urn:uuid:`,
and from the bare digits.
-/

namespace Reshape

structure Uuid where
  value : Nat
  value_lt : value < 16 ^ 32
  deriving DecidableEq

/-- Why a text is no UUID.  Lengths and places are counted in UTF-8 octets. -/
inductive UuidError where
  | length (found : Nat)
  | character (found : Char) (index : Nat)
  | groupCount (found : Nat)
  | groupLength (group expected found : Nat)
  deriving DecidableEq, Repr

def UuidError.message : UuidError → String
  | .length found => "invalid length: found " ++ toString found
  | .character found index =>
      "invalid character: found `" ++ found.toString ++ "` at " ++ toString index
  | .groupCount found => "invalid group count: expected 5, found " ++ toString found
  | .groupLength group expected found =>
      "invalid group length in group " ++ toString group ++ ": expected " ++
        toString expected ++ ", found " ++ toString found

namespace Uuid

def nil : Uuid := ⟨0, by decide⟩

/-! ## Writing -/

/-- Puts hyphens between the five groups of 32 digits. -/
def grouped (digits : List Char) : List Char :=
  digits.take 8 ++ '-' :: (digits.drop 8).take 4 ++ '-' :: (digits.drop 12).take 4 ++
    '-' :: (digits.drop 16).take 4 ++ '-' :: digits.drop 20

def text (uuid : Uuid) : String :=
  String.ofList (grouped (Text.padded 16 32 uuid.value))

/-! ## Reading -/

/-- The digits of a text in five groups. -/
def ungrouped? (text : List Char) : Option (List Char) :=
  let digits := text.take 8 ++ (text.drop 9).take 4 ++ (text.drop 14).take 4 ++
    (text.drop 19).take 4 ++ text.drop 24
  if grouped digits = text then some digits else none

def inBraces? : List Char → Option (List Char)
  | '{' :: rest => if rest.getLast? = some '}' then some rest.dropLast else none
  | _ => none

def urnStart : List Char := "urn:uuid:".toList

def afterUrn? (text : List Char) : Option (List Char) :=
  if (text.take urnStart.length).map Char.toLower = urnStart then
    some (text.drop urnStart.length)
  else none

def ofDigits? (digits : List Char) : Option Uuid :=
  if digits.length = 32 then
    match Text.readDigits? 16 digits with
    | some value => if h : value < 16 ^ 32 then some ⟨value, h⟩ else none
    | none => none
  else none

def accept? (text : List Char) : Option Uuid :=
  let body := ((inBraces? text).or (afterUrn? text)).getD text
  (ofDigits? text).or ((ungrouped? body).bind ofDigits?)

/-! ## What is wrong with a text -/

/-- The first character that is neither a digit nor a hyphen, and its place. -/
def firstStranger? (index : Nat) : List Char → Option (Char × Nat)
  | [] => none
  | character :: text =>
      if Text.isHexDigit character || character == '-' then
        firstStranger? (index + character.utf8Size) text
      else some (character, index)

def groupStarts : List Nat := [0, 9, 14, 19, 24]

/--
The first of the groups, whose closing hyphens are at `hyphens`, with a wrong
length; the last group ends with the text at `size`.
-/
def wrongGroup (size group : Nat) : List Nat → UuidError
  | [] => .groupLength group 12 (size - groupStarts.getD group 0)
  | hyphen :: hyphens =>
      let start := groupStarts.getD group 0
      let next := groupStarts.getD (group + 1) 0
      if hyphen + 1 = next then wrongGroup size (group + 1) hyphens
      else .groupLength group (next - 1 - start) (hyphen - start)

/--
The fault of a text of `size` octets whose groups are `body`, which starts at
octet `offset`.
-/
def groupFault (size offset : Nat) (bare : Bool) (body : List Char) : UuidError :=
  match firstStranger? offset body with
  | some (character, index) => .character character index
  | none =>
      let hyphens := body.zipIdx.filterMap fun (character, index) =>
        if character = '-' then some index else none
      if bare ∧ hyphens = [] then .length size
      else if hyphens.length = 4 then wrongGroup size 0 hyphens
      else .groupCount (hyphens.length + 1)

/--
The fault of a text that is not accepted.  A body of the right length in a proper
wrapping is judged as if it stood alone.
-/
def fault (text : List Char) : UuidError :=
  let size := Text.Utf8.octets text
  if size = 0 ∨ 45 < size then .length size
  else if size = 36 then groupFault 36 0 false text
  else
    match inBraces? text, afterUrn? text with
    | some body, _ =>
        if size = 38 then groupFault 36 0 false body else groupFault size 1 false body
    | none, some body =>
        if size = 45 then groupFault 36 0 false body
        else groupFault size urnStart.length false body
    | none, none => groupFault size 0 true text

def parse (text : String) : Except UuidError Uuid :=
  match accept? text.toList with
  | some uuid => .ok uuid
  | none => .error (fault text.toList)

end Uuid

end Reshape
