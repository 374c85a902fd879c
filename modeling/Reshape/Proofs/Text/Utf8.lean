import Mathlib.Data.List.Forall2
import Reshape.Text.Utf8

/-!
# Well-formed UTF-8

Octets are well formed if they fall into sequences that each stand for one character: in the
shortest form, for no surrogate and for no code point above the last.  Texts are written as
such octets, and all of them are the octets of a text.  The lossy reading gives back the text
that was written, so that it loses nothing of well-formed octets, and it turns all others into
a text that is written differently.
-/

namespace Reshape.Text.Utf8

/-! ## Well-formed octets -/

/-- An octet that is not the first one of its sequence. -/
def IsTail (octet : Octet) : Prop := 0x80 ≤ octet.toNat ∧ octet.toNat < 0xC0

/-- The octets of one character.  What the second octet may be depends on the first one. -/
inductive IsSequence : List Octet → Prop where
  | one {first : Octet} : first.toNat < 0x80 → IsSequence [first]
  | two {first second : Octet} :
      0xC2 ≤ first.toNat → first.toNat < 0xE0 → IsTail second → IsSequence [first, second]
  | three {first second third : Octet} :
      0xE0 ≤ first.toNat → first.toNat < 0xF0 → IsTail second → IsTail third →
      (first.toNat = 0xE0 → 0xA0 ≤ second.toNat) →
      (first.toNat = 0xED → second.toNat < 0xA0) → IsSequence [first, second, third]
  | four {first second third fourth : Octet} :
      0xF0 ≤ first.toNat → first.toNat < 0xF5 → IsTail second → IsTail third → IsTail fourth →
      (first.toNat = 0xF0 → 0x90 ≤ second.toNat) →
      (first.toNat = 0xF4 → second.toNat < 0x90) → IsSequence [first, second, third, fourth]

inductive WellFormed : List Octet → Prop where
  | nil : WellFormed []
  | append {sequence rest : List Octet} :
      IsSequence sequence → WellFormed rest → WellFormed (sequence ++ rest)

/-! ## Sequences and characters -/

theorem toNat_valid (character : Char) :
    character.toNat < 0xD800 ∨ 0xDFFF < character.toNat ∧ character.toNat < 0x110000 :=
  character.valid

private theorem exists_toNat_eq {code : Nat} (h : code.isValidChar) :
    ∃ character : Char, character.toNat = code :=
  ⟨Char.ofNatAux code h, rfl⟩

theorem toNat_ofNat {code : Nat} (h : code < 0x100) : (UInt8.ofNat code).toNat = code :=
  UInt8.toNat_ofNat_of_lt' h

private theorem ofNat_eq {code : Nat} {octet : Octet} (h : octet.toNat = code) :
    UInt8.ofNat code = octet :=
  h ▸ UInt8.ofNat_toNat

private theorem isSequence_encodeChar (character : Char) : IsSequence (encodeChar character) := by
  have hvalid := toNat_valid character
  unfold encodeChar
  generalize character.toNat = code at hvalid ⊢
  dsimp only
  split_ifs
  · exact .one (by rw [UInt8.toNat_ofNat']; omega)
  · refine .two ?_ ?_ ?_ <;> simp only [IsTail, UInt8.toNat_ofNat'] <;> omega
  · refine .three ?_ ?_ ?_ ?_ ?_ ?_ <;> simp only [IsTail, UInt8.toNat_ofNat'] <;> omega
  · refine .four ?_ ?_ ?_ ?_ ?_ ?_ ?_ <;> simp only [IsTail, UInt8.toNat_ofNat'] <;> omega

private theorem IsSequence.exists_encodeChar {octets : List Octet} (h : IsSequence octets) :
    ∃ character, encodeChar character = octets := by
  cases h with
  | @one first hfirst =>
      have hvalid : first.toNat.isValidChar := .inl (by omega)
      obtain ⟨character, hcode⟩ := exists_toNat_eq hvalid
      refine ⟨character, ?_⟩
      rw [encodeChar, hcode, if_pos hfirst, UInt8.ofNat_toNat]
  | @two first second hlow hhigh hsecond =>
      unfold IsTail at hsecond
      have hvalid : ((first.toNat - 0xC0) * 0x40 + (second.toNat - 0x80)).isValidChar := by
        unfold Nat.isValidChar
        omega
      obtain ⟨character, hcode⟩ := exists_toNat_eq hvalid
      refine ⟨character, ?_⟩
      rw [encodeChar, hcode, if_neg (by omega), if_pos (by omega)]
      simp only [List.cons.injEq, and_true]
      exact ⟨ofNat_eq (by omega), ofNat_eq (by omega)⟩
  | @three first second third hlow hhigh hsecond hthird hshortest hsurrogate =>
      unfold IsTail at hsecond hthird
      have hvalid : ((first.toNat - 0xE0) * 0x1000 + (second.toNat - 0x80) * 0x40 +
          (third.toNat - 0x80)).isValidChar := by
        unfold Nat.isValidChar
        omega
      obtain ⟨character, hcode⟩ := exists_toNat_eq hvalid
      refine ⟨character, ?_⟩
      rw [encodeChar, hcode, if_neg (by omega), if_neg (by omega), if_pos (by omega)]
      simp only [List.cons.injEq, and_true]
      exact ⟨ofNat_eq (by omega), ofNat_eq (by omega), ofNat_eq (by omega)⟩
  | @four first second third fourth hlow hhigh hsecond hthird hfourth hshortest hlast =>
      unfold IsTail at hsecond hthird hfourth
      have hvalid : ((first.toNat - 0xF0) * 0x40000 + (second.toNat - 0x80) * 0x1000 +
          (third.toNat - 0x80) * 0x40 + (fourth.toNat - 0x80)).isValidChar := by
        unfold Nat.isValidChar
        omega
      obtain ⟨character, hcode⟩ := exists_toNat_eq hvalid
      refine ⟨character, ?_⟩
      rw [encodeChar, hcode, if_neg (by omega), if_neg (by omega), if_neg (by omega)]
      simp only [List.cons.injEq, and_true]
      exact ⟨ofNat_eq (by omega), ofNat_eq (by omega), ofNat_eq (by omega),
        ofNat_eq (by omega)⟩

/-! ## Texts -/

theorem wellFormed_encode (text : String) : WellFormed (encode text) := by
  unfold encode
  induction text.toList with
  | nil => exact .nil
  | cons character characters ih =>
      rw [List.flatMap_cons]
      exact .append (isSequence_encodeChar character) ih

theorem WellFormed.exists_encode {octets : List Octet} (h : WellFormed octets) :
    ∃ text, encode text = octets := by
  induction h with
  | nil => exact ⟨"", rfl⟩
  | append hsequence _ ih =>
      obtain ⟨character, rfl⟩ := hsequence.exists_encodeChar
      obtain ⟨text, rfl⟩ := ih
      exact ⟨.ofList (character :: text.toList), by simp [encode]⟩

/-! ## Reading -/

def Within (octet : Octet) (bounds : Nat × Nat) : Prop :=
  bounds.1 ≤ octet.toNat ∧ octet.toNat ≤ bounds.2

/-- The code point that the octets after the first one complete. -/
def codePoint (bits : Nat) (tails : List Octet) : Nat :=
  tails.foldl (fun code octet => code * 0x40 + octet.toNat % 0x40) bits

/-- The first octet announces the others, which complete the code point. -/
def Announces (code : Nat) : List Octet → Prop
  | [] => False
  | first :: tails => ∃ lead, lead? first = some lead ∧
      List.Forall₂ Within tails lead.tails ∧ codePoint lead.bits tails = code

private theorem readTails_append {code : Nat} {tails : List Octet} {bounds : List (Nat × Nat)}
    (h : List.Forall₂ Within tails bounds) (rest : List Octet) :
    readTails code bounds (tails ++ rest) = (some (codePoint code tails), rest) := by
  induction h generalizing code with
  | nil => rfl
  | @cons octet bound tails bounds hoctet _ ih =>
      have hwithin : bound.1 ≤ octet.toNat ∧ octet.toNat ≤ bound.2 := hoctet
      rw [List.cons_append, readTails, if_pos hwithin, ih]
      rfl

private theorem Announces.pieces_append {code : Nat} {octets : List Octet}
    (h : Announces code octets) (rest : List Octet) :
    pieces (octets ++ rest) = some (.ofNat code) :: pieces rest := by
  cases octets with
  | nil => exact h.elim
  | cons first tails =>
      obtain ⟨lead, hlead, htails, rfl⟩ := h
      rw [List.cons_append, pieces]
      simp only [hlead, readTails_append htails, Option.map_some]

private theorem announces_one {code : Nat} (h : code < 0x80) : Announces code [.ofNat code] := by
  exact ⟨⟨code, []⟩, by rw [lead?, toNat_ofNat (by omega), if_pos h], .nil, rfl⟩

private theorem announces_two {code : Nat} (hlow : 0x80 ≤ code) (hhigh : code < 0x800) :
    Announces code [.ofNat (0xC0 + code / 0x40), .ofNat (0x80 + code % 0x40)] := by
  have hlead : lead? (.ofNat (0xC0 + code / 0x40)) = some ⟨code / 0x40, [(0x80, 0xBF)]⟩ := by
    rw [lead?, toNat_ofNat (by omega), if_neg (by omega), if_neg (by omega),
      if_pos (by omega), Nat.add_sub_cancel_left]
  refine ⟨_, hlead, .cons ?_ .nil, ?_⟩
  all_goals
    simp only [Within, codePoint, List.foldl_cons, List.foldl_nil, UInt8.toNat_ofNat']
    omega

private theorem announces_three {code : Nat} (hlow : 0x800 ≤ code) (hhigh : code < 0x10000)
    (hvalid : code < 0xD800 ∨ 0xDFFF < code) :
    Announces code [.ofNat (0xE0 + code / 0x1000), .ofNat (0x80 + code / 0x40 % 0x40),
      .ofNat (0x80 + code % 0x40)] := by
  have hlead : ∃ bounds, lead? (.ofNat (0xE0 + code / 0x1000)) =
        some ⟨code / 0x1000, [bounds, (0x80, 0xBF)]⟩ ∧
      Within (.ofNat (0x80 + code / 0x40 % 0x40)) bounds := by
    simp only [Within, UInt8.toNat_ofNat']
    by_cases hshort : code / 0x1000 = 0
    · exact ⟨(0xA0, 0xBF), by rw [hshort]; rfl, by omega⟩
    by_cases hsurrogate : code / 0x1000 = 0xD
    · exact ⟨(0x80, 0x9F), by rw [hsurrogate]; rfl, by omega⟩
    · refine ⟨(0x80, 0xBF), ?_, by omega⟩
      rw [lead?, toNat_ofNat (by omega), if_neg (by omega), if_neg (by omega),
        if_neg (by omega), if_neg (by omega), if_neg (by omega), if_pos (by omega),
        Nat.add_sub_cancel_left]
  obtain ⟨bounds, hlead, hsecond⟩ := hlead
  refine ⟨_, hlead, .cons hsecond (.cons ?_ .nil), ?_⟩
  all_goals
    simp only [Within, codePoint, List.foldl_cons, List.foldl_nil, UInt8.toNat_ofNat']
    omega

private theorem announces_four {code : Nat} (hlow : 0x10000 ≤ code) (hhigh : code < 0x110000) :
    Announces code [.ofNat (0xF0 + code / 0x40000), .ofNat (0x80 + code / 0x1000 % 0x40),
      .ofNat (0x80 + code / 0x40 % 0x40), .ofNat (0x80 + code % 0x40)] := by
  have hlead : ∃ bounds, lead? (.ofNat (0xF0 + code / 0x40000)) =
        some ⟨code / 0x40000, [bounds, (0x80, 0xBF), (0x80, 0xBF)]⟩ ∧
      Within (.ofNat (0x80 + code / 0x1000 % 0x40)) bounds := by
    simp only [Within, UInt8.toNat_ofNat']
    by_cases hshort : code / 0x40000 = 0
    · exact ⟨(0x90, 0xBF), by rw [hshort]; rfl, by omega⟩
    by_cases hlast : code / 0x40000 = 4
    · exact ⟨(0x80, 0x8F), by rw [hlast]; rfl, by omega⟩
    · refine ⟨(0x80, 0xBF), ?_, by omega⟩
      rw [lead?, toNat_ofNat (by omega), if_neg (by omega), if_neg (by omega),
        if_neg (by omega), if_neg (by omega), if_neg (by omega), if_neg (by omega),
        if_neg (by omega), if_pos (by omega), Nat.add_sub_cancel_left]
  obtain ⟨bounds, hlead, hsecond⟩ := hlead
  refine ⟨_, hlead, .cons hsecond (.cons ?_ (.cons ?_ .nil)), ?_⟩
  all_goals
    simp only [Within, codePoint, List.foldl_cons, List.foldl_nil, UInt8.toNat_ofNat']
    omega

private theorem announces_encodeChar (character : Char) :
    Announces character.toNat (encodeChar character) := by
  have hvalid := toNat_valid character
  unfold encodeChar
  generalize character.toNat = code at hvalid ⊢
  dsimp only
  split_ifs with hone htwo hthree
  · exact announces_one hone
  · exact announces_two (by omega) htwo
  · exact announces_three (by omega) hthree (by omega)
  · exact announces_four (by omega) (by omega)

theorem pieces_encode (text : String) : pieces (encode text) = text.toList.map some := by
  unfold encode
  induction text.toList with
  | nil => rw [List.flatMap_nil, pieces, List.map_nil]
  | cons character characters ih =>
      rw [List.flatMap_cons, (announces_encodeChar character).pieces_append, ih,
        Char.ofNat_toNat, List.map_cons]

theorem decodeLossy_encode (text : String) : decodeLossy (encode text) = text := by
  rw [decodeLossy, pieces_encode, List.map_map]
  exact (congrArg String.ofList (List.map_id text.toList)).trans String.ofList_toList

theorem encode_decodeLossy_iff {octets : List Octet} :
    encode (decodeLossy octets) = octets ↔ WellFormed octets := by
  constructor
  · intro h
    rw [← h]
    exact wellFormed_encode _
  · intro h
    obtain ⟨text, rfl⟩ := h.exists_encode
    rw [decodeLossy_encode]

instance (octets : List Octet) : Decidable (WellFormed octets) :=
  decidable_of_iff _ encode_decodeLossy_iff

/-! ## The octets of strings -/

private theorem encodeChar_eq (character : Char) :
    encodeChar character = String.utf8EncodeChar character := by
  have hvalid := toNat_valid character
  have hcode : character.val.toNat = character.toNat := rfl
  rw [encodeChar, String.utf8EncodeChar, hcode]
  generalize character.toNat = code at hvalid ⊢
  simp only [Nat.le_iff_lt_add_one, Nat.reduceAdd]
  -- The bits above those of the first octet are zero, so that masking them off changes nothing.
  split_ifs
  · rfl
  all_goals
    simp only [List.cons.injEq, and_true]
    and_intros <;> exact congrArg UInt8.ofNat (by omega)

theorem toByteArray_encode (text : String) : (encode text).toByteArray = text.toByteArray := by
  rw [← String.utf8Encode_toList, List.utf8Encode, encode]
  congr 2
  exact funext encodeChar_eq

/-- The octets are those that a string of the core library can be made of. -/
theorem wellFormed_iff_isValidUTF8 {octets : List Octet} :
    WellFormed octets ↔ octets.toByteArray.IsValidUTF8 := by
  constructor
  · intro h
    obtain ⟨text, rfl⟩ := h.exists_encode
    rw [toByteArray_encode]
    exact text.isValidUTF8
  · intro h
    have hencode := toByteArray_encode (.ofByteArray octets.toByteArray h)
    have hlist := congrArg (fun array => array.data.toList) hencode
    simp only [List.toList_data_toByteArray] at hlist
    rw [← hlist]
    exact wellFormed_encode _

end Reshape.Text.Utf8
