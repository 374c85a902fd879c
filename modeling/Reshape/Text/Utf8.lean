/-!
# UTF-8

Texts as octets.  `encode` writes a text.  `pieces` reads octets: each
well-formed sequence gives its character, and each maximal part that starts a
sequence without completing one gives `none`, as does an octet that starts no
sequence.  From the pieces come a strict reading, which refuses ill-formed
octets, and a lossy one, which puts U+FFFD in the place of each ill-formed part.
-/

namespace Reshape.Text.Utf8

abbrev Octet := UInt8

/-! ## Writing -/

def encodeChar (character : Char) : List Octet :=
  let code := character.toNat
  if code < 0x80 then [.ofNat code]
  else if code < 0x800 then [.ofNat (0xC0 + code / 0x40), .ofNat (0x80 + code % 0x40)]
  else if code < 0x10000 then
    [.ofNat (0xE0 + code / 0x1000), .ofNat (0x80 + code / 0x40 % 0x40),
      .ofNat (0x80 + code % 0x40)]
  else
    [.ofNat (0xF0 + code / 0x40000), .ofNat (0x80 + code / 0x1000 % 0x40),
      .ofNat (0x80 + code / 0x40 % 0x40), .ofNat (0x80 + code % 0x40)]

def encode (text : String) : List Octet := text.toList.flatMap encodeChar

def octets (text : List Char) : Nat :=
  text.foldr (fun character size => character.utf8Size + size) 0

/-! ## Reading -/

/-- What the first octet of a sequence announces. -/
structure Lead where
  /-- The bits of the code point that the octet carries. -/
  bits : Nat
  /-- The bounds of each octet that has to follow. -/
  tails : List (Nat × Nat)

def lead? (octet : Octet) : Option Lead :=
  let code := octet.toNat
  let tail := (0x80, 0xBF)
  if code < 0x80 then some ⟨code, []⟩
  else if code < 0xC2 then none
  else if code < 0xE0 then some ⟨code - 0xC0, [tail]⟩
  else if code = 0xE0 then some ⟨0, [(0xA0, 0xBF), tail]⟩
  else if code = 0xED then some ⟨code - 0xE0, [(0x80, 0x9F), tail]⟩
  else if code < 0xF0 then some ⟨code - 0xE0, [tail, tail]⟩
  else if code = 0xF0 then some ⟨0, [(0x90, 0xBF), tail, tail]⟩
  else if code < 0xF4 then some ⟨code - 0xF0, [tail, tail, tail]⟩
  else if code = 0xF4 then some ⟨4, [(0x80, 0x8F), tail, tail]⟩
  else none

/--
Reads the octets that `tails` asks for onto `code`.  The result is the code
point if all of them are there, and the octets that were not used.
-/
def readTails (code : Nat) : List (Nat × Nat) → List Octet → Option Nat × List Octet
  | [], octets => (some code, octets)
  | _ :: _, [] => (none, [])
  | (low, high) :: tails, octet :: octets =>
      if low ≤ octet.toNat ∧ octet.toNat ≤ high then
        readTails (code * 0x40 + octet.toNat % 0x40) tails octets
      else (none, octet :: octets)

private theorem length_readTails_le (code : Nat) (tails : List (Nat × Nat))
    (octets : List Octet) :
    (readTails code tails octets).2.length ≤ octets.length := by
  induction tails generalizing code octets with
  | nil => simp [readTails]
  | cons bounds tails ih =>
      cases octets with
      | nil => simp [readTails]
      | cons octet octets =>
          simp only [readTails]
          split
          · exact Nat.le_succ_of_le (ih _ _)
          · simp

def pieces : List Octet → List (Option Char)
  | [] => []
  | octet :: octets =>
      match lead? octet with
      | none => none :: pieces octets
      | some lead =>
          (readTails lead.bits lead.tails octets).1.map Char.ofNat ::
            pieces (readTails lead.bits lead.tails octets).2
  termination_by octets => octets.length
  decreasing_by
    · simp
    · have := length_readTails_le lead.bits lead.tails octets
      simp only [List.length_cons]
      omega

def decode? (octets : List Octet) : Option String :=
  ((pieces octets).mapM id).map String.ofList

def decodeLossy (octets : List Octet) : String :=
  String.ofList ((pieces octets).map (·.getD '\uFFFD'))

end Reshape.Text.Utf8
