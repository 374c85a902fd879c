import Reshape.Floating.Decimal
import Reshape.Json.Draft
import Reshape.Text.Numeral
import Reshape.Text.Utf8

/-!
# From text to drafts

A scan takes one part of JSON text from the front and returns what it shows
together with the rest of the text, or without it where the text breaks off.
-/

namespace Reshape.Json

def isSpace (character : Char) : Bool :=
  character == ' ' || character == '\t' || character == '\n' || character == '\r'

def skipSpace (text : List Char) : List Char := text.dropWhile isSpace

/-! ## Words -/

/-- Scans the rest of a word that stands for `value`. -/
def scanWord (value : Draft) : List Char → List Char → Draft × Option (List Char)
  | [], text => (value, some text)
  | _ :: _, [] => (.cut ⟨.endInValue, .endInValue, .expectedValue⟩, none)
  | letter :: word, character :: text =>
      if character = letter then scanWord value word text
      else (.cut ⟨.expectedIdent, .expectedIdent, .expectedValue⟩, none)

/-! ## Strings -/

/-- What stands in a string: a character, or one UTF-16 unit in hexadecimal digits. -/
inductive StringPart where
  | character (value : Char)
  | unit (code : Nat)
  /-- An escape that announces a unit but does not give one. -/
  | brokenUnit
  deriving DecidableEq, Repr

def simpleEscape? : Char → Option Char
  | '"' => some '"'
  | '\\' => some '\\'
  | '/' => some '/'
  | 'b' => some '\x08'
  | 'f' => some '\x0c'
  | 'n' => some '\n'
  | 'r' => some '\r'
  | 't' => some '\t'
  | _ => none

/-- The parts up to the closing quotation mark, and the text after it. -/
def scanParts : List Char → List StringPart × Except Fault (List Char)
  | [] => ([], .error .endInString)
  | '"' :: text => ([], .ok text)
  | ['\\'] => ([], .error .endInString)
  | '\\' :: 'u' :: first :: second :: third :: fourth :: text =>
      match Text.readDigits? 16 [first, second, third, fourth] with
      | some code =>
          let (parts, rest) := scanParts text
          (.unit code :: parts, rest)
      | none => ([.brokenUnit], .error .invalidEscape)
  | '\\' :: 'u' :: text =>
      ([.brokenUnit],
        .error (if Text.Utf8.octets text < 4 then .endInString else .invalidEscape))
  | '\\' :: character :: text =>
      match simpleEscape? character with
      | some value =>
          let (parts, rest) := scanParts text
          (.character value :: parts, rest)
      | none => ([], .error .invalidEscape)
  | character :: text =>
      if character.toNat < 0x20 then ([], .error .controlCharacter)
      else
        let (parts, rest) := scanParts text
        (.character character :: parts, rest)

def isLeading (code : Nat) : Bool := 0xD800 ≤ code && code ≤ 0xDBFF

def isTrailing (code : Nat) : Bool := 0xDC00 ≤ code && code ≤ 0xDFFF

def joinSurrogates (leading trailing : Nat) : Char :=
  Char.ofNat (0x10000 + (leading - 0xD800) * 0x400 + (trailing - 0xDC00))

/--
The characters of the parts of a string whose scan ended with `ending`.  A leading
surrogate has to be followed by the escape of a trailing one.
-/
def joinParts (ending : Option Fault) : List StringPart → Except Fault (List Char)
  | [] => match ending with
      | some fault => .error fault
      | none => .ok []
  | .character value :: parts => (joinParts ending parts).map (value :: ·)
  | .brokenUnit :: _ => .error (ending.getD .invalidEscape)
  | .unit code :: parts =>
      if isTrailing code then .error .loneSurrogate
      else if isLeading code then
        match parts with
        | .unit next :: rest =>
            if isTrailing next then
              (joinParts ending rest).map (joinSurrogates code next :: ·)
            else .error .loneSurrogate
        | .brokenUnit :: _ => .error (ending.getD .invalidEscape)
        | .character _ :: _ => .error .endOfHexEscape
        | [] => .error (if ending = some .endInString then .endInString else .endOfHexEscape)
      else (joinParts ending parts).map (Char.ofNat code :: ·)

inductive StringScan where
  | closed (value : Except Fault String) (rest : List Char)
  | broken (damage : Damage)

/-- Scans a string after its opening quotation mark. -/
def scanString (text : List Char) : StringScan :=
  match scanParts text with
  | (parts, .ok rest) => .closed ((joinParts none parts).map String.ofList) rest
  | (parts, .error fault) =>
      let read := match joinParts (some fault) parts with
        | .error first => first
        | .ok _ => fault
      .broken ⟨read, fault, read⟩

/-! ## Numbers -/

/-- A numeral taken apart: the digits of its parts and the value of its exponent. -/
structure Numeral where
  negative : Bool
  whole : List Char
  fraction : Option (List Char)
  exponent : Option Int
  deriving DecidableEq, Repr

namespace Numeral

/--
So many digits of a numeral are told apart, not counting zeros in front.  No point
halfway between two doubles has more digits than that.
-/
def maxDigits : Nat := 768

/--
The decimal that a numeral is read as.  Zeros at the end of the fraction do not
count as digits; of more digits than `maxDigits`, a single 1 stands for the rest.
-/
def decimal (numeral : Numeral) : Floating.Decimal :=
  let fraction := ((numeral.fraction.getD []).reverse.dropWhile (· = '0')).reverse
  let digits := (numeral.whole ++ fraction).dropWhile (· = '0')
  let kept := if digits.length ≤ maxDigits then digits else digits.take maxDigits ++ ['1']
  ⟨(Text.readDigits? 10 kept).getD 0,
    numeral.exponent.getD 0 + digits.length - kept.length - fraction.length⟩

/--
A numeral with a fraction or an exponent, or too large for an integer, is read as the double
nearest to its decimal.  A reader that multiplies the digits by a power of ten in double
precision instead, as JSON readers do that are not asked for exact decimals, may give a
neighbour of that double when the digits are many.
-/
def value (numeral : Numeral) : Except Fault Number :=
  let asFloat : Except Fault Number :=
    match Floating.ofDecimal .double numeral.negative numeral.decimal with
    | .finite nearest => .ok (.float nearest)
    | _ => .error .numberOutOfRange
  if numeral.fraction.isSome || numeral.exponent.isSome then asFloat
  else
    let digits := (Text.readDigits? 10 numeral.whole).getD 0
    let integer : Int := if numeral.negative then -digits else digits
    if numeral.negative && digits == 0 then asFloat
    else if h : -2 ^ 63 ≤ integer ∧ integer < 2 ^ 64 then .ok (.integer integer h)
    else asFloat

end Numeral

/-- Damage in a numeral: one that ends too early is to one who reads the end of the text. -/
def numeralDamage (rest : List Char) : Damage :=
  ⟨if rest = [] then .endInValue else .invalidNumber, .invalidNumber, .expectedValue⟩

def scanDigits (text : List Char) : List Char × List Char :=
  (text.takeWhile Text.isDigit, text.dropWhile Text.isDigit)

def scanFraction : List Char → Except Damage (Option (List Char) × List Char)
  | '.' :: text =>
      match scanDigits text with
      | ([], rest) => .error (numeralDamage rest)
      | (digits, rest) => .ok (some digits, rest)
  | text => .ok (none, text)

def scanExponent : List Char → Except Damage (Option Int × List Char)
  | [] => .ok (none, [])
  | mark :: text =>
      if mark = 'e' ∨ mark = 'E' then
        let (negative, text) := match text with
          | '+' :: text => (false, text)
          | '-' :: text => (true, text)
          | text => (false, text)
        match scanDigits text with
        | ([], rest) => .error (numeralDamage rest)
        | (digits, rest) =>
            let size : Int := (Text.readDigits? 10 digits).getD 0
            .ok (some (if negative then -size else size), rest)
      else .ok (none, mark :: text)

def scanNumeral (text : List Char) : Except Damage (Numeral × List Char) :=
  let (negative, text) := match text with
    | '-' :: text => (true, text)
    | text => (false, text)
  match scanDigits text with
  | ([], rest) => .error (numeralDamage rest)
  | ('0' :: _ :: _, _) => .error ⟨.invalidNumber, .invalidNumber, .expectedValue⟩
  | (whole, text) =>
      match scanFraction text with
      | .error damage => .error damage
      | .ok (fraction, text) =>
          match scanExponent text with
          | .error damage => .error damage
          | .ok (exponent, text) => .ok (⟨negative, whole, fraction, exponent⟩, text)

/-! ## Values -/

/-- The text ends where a value should start. -/
def endOfText : Damage := { read := .endInValue }

mutual

/-- Scans a value.  The number of steps bounds the nesting of the calls. -/
def scanValue : Nat → List Char → Draft × Option (List Char)
  | 0, _ => (.cut endOfText, none)
  | steps + 1, text =>
      match skipSpace text with
      | [] => (.cut endOfText, none)
      | 'n' :: text => scanWord .null "ull".toList text
      | 't' :: text => scanWord (.bool true) "rue".toList text
      | 'f' :: text => scanWord (.bool false) "alse".toList text
      | '"' :: text =>
          match scanString text with
          | .closed value rest => (.string value, some rest)
          | .broken damage => (.cut damage, none)
      | '[' :: text =>
          match skipSpace text with
          | [] => (.array [] (some { read := .endInList }), none)
          | ']' :: rest => (.array [] none, some rest)
          | text =>
              let (items, ending, rest) := scanItems steps text
              (.array items ending, rest)
      | '\x7b' :: text =>
          match skipSpace text with
          | [] => (.object [] (some { read := .endInObject }), none)
          | '\x7d' :: rest => (.object [] none, some rest)
          | '"' :: text =>
              let (members, ending, rest) := scanMembers steps text
              (.object members ending, rest)
          | _ => (.object [] (some { read := .keyNotString }), none)
      | character :: text =>
          if character = '-' ∨ Text.isDigit character then
            match scanNumeral (character :: text) with
            | .ok (numeral, rest) => (.number numeral.value, some rest)
            | .error damage => (.cut damage, none)
          else (.cut { read := .expectedValue }, none)

/-- Scans the items of an array from the start of one of them. -/
def scanItems : Nat → List Char → List Draft × Option Damage × Option (List Char)
  | 0, _ => ([], some { read := .endInList }, none)
  | steps + 1, text =>
      match scanValue steps text with
      | (item, none) => ([item], none, none)
      | (item, some text) =>
          match skipSpace text with
          | [] => ([item], some { read := .endInList }, none)
          | ']' :: rest => ([item], none, some rest)
          | ',' :: text =>
              match skipSpace text with
              | [] =>
                  ([item], some ⟨.endInValue, .endInValue, .trailingCharacters⟩, none)
              | ']' :: _ =>
                  ([item], some ⟨.trailingComma, .expectedValue, .trailingComma⟩, none)
              | text =>
                  let (items, ending, rest) := scanItems steps text
                  (item :: items, ending, rest)
          | _ =>
              ([item],
                some ⟨.expectedCommaOrBracket, .expectedCommaOrBracket,
                  .trailingCharacters⟩, none)

/-- Scans the members of an object from the text of the key of one of them. -/
def scanMembers : Nat → List Char →
    List (Except Fault String × Draft) × Option Damage × Option (List Char)
  | 0, _ => ([], some { read := .endInObject }, none)
  | steps + 1, text =>
      match scanString text with
      | .broken damage => ([], some damage, none)
      | .closed key text =>
          match skipSpace text with
          | [] => ([(key, .cut { read := .endInObject })], none, none)
          | ':' :: text =>
              match scanValue steps text with
              | (value, none) => ([(key, value)], none, none)
              | (value, some text) =>
                  match skipSpace text with
                  | [] => ([(key, value)], some { read := .endInObject }, none)
                  | '\x7d' :: rest => ([(key, value)], none, some rest)
                  | ',' :: text =>
                      match skipSpace text with
                      | [] =>
                          ([(key, value)],
                            some ⟨.endInValue, .endInObject, .expectedValue⟩, none)
                      | '"' :: text =>
                          let (members, ending, rest) := scanMembers steps text
                          ((key, value) :: members, ending, rest)
                      | '\x7d' :: _ =>
                          ([(key, value)],
                            some ⟨.trailingComma, .keyNotString, .expectedValue⟩, none)
                      | _ =>
                          ([(key, value)],
                            some ⟨.keyNotString, .keyNotString, .expectedValue⟩, none)
                  | _ =>
                      ([(key, value)],
                        some ⟨.expectedCommaOrBrace, .expectedCommaOrBrace,
                          .expectedValue⟩, none)
          | _ => ([(key, .cut { read := .expectedColon })], none, none)

end

/-! ## Whole texts -/

/-- A draft of the value of a text, and whether something follows it. -/
structure Document where
  root : Draft
  trailing : Bool

def Document.ofText (text : String) : Document :=
  let characters := text.toList
  match scanValue (2 * characters.length + 2) characters with
  | (root, some rest) => ⟨root, !(skipSpace rest).isEmpty⟩
  | (root, none) => ⟨root, false⟩

/-- Arrays and objects may be nested so deep in a value that is read. -/
def maxDepth : Nat := 127

def parse (text : String) : Except Fault Json :=
  let document := Document.ofText text
  match document.root.read maxDepth with
  | .error fault => .error fault
  | .ok value => if document.trailing then .error .trailingCharacters else .ok value

end Reshape.Json
