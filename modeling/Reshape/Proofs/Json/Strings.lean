import Reshape.Json.Printer
import Reshape.Json.Scan
import Reshape.Proofs.Text.Numeral

/-!
# Strings, scanned

A string is written one character after the other, and each of them is scanned as a part
that stands for it.
-/

namespace Reshape.Json

/-! ## Parts -/

/-- A part of a string that adds one character to it, whatever comes after. -/
def StringPart.StandsFor (part : StringPart) (character : Char) : Prop :=
  ∀ ending parts, joinParts ending (part :: parts) =
    (joinParts ending parts).map (character :: ·)

private theorem standsFor_character (character : Char) :
    (StringPart.character character).StandsFor character := by
  intro ending parts
  rw [joinParts]

private theorem standsFor_unit {character : Char} (h : character.toNat < 0x20) :
    (StringPart.unit character.toNat).StandsFor character := by
  intro ending parts
  have htrailing : isTrailing character.toNat = false := by
    simp only [isTrailing, Bool.and_eq_false_iff, decide_eq_false_iff_not]
    omega
  have hleading : isLeading character.toNat = false := by
    simp only [isLeading, Bool.and_eq_false_iff, decide_eq_false_iff_not]
    omega
  rw [joinParts.eq_def]
  simp [htrailing, hleading, Char.ofNat_toNat]

/-! ## Escapes -/

private theorem scanParts_simple {mark character : Char} (h : simpleEscape? mark = some character)
    (text : List Char) :
    scanParts ('\\' :: mark :: text) =
      (.character character :: (scanParts text).1, (scanParts text).2) := by
  have hmark : mark ≠ 'u' := by
    rintro rfl
    cases h
  rw [scanParts]
  · simp only [h]
  · exact fun _ _ _ _ _ hunit _ => hmark hunit
  · exact hmark

private theorem scanParts_plain {character : Char} (hquote : character ≠ '"')
    (hslash : character ≠ '\\') (hcode : ¬character.toNat < 0x20) (text : List Char) :
    scanParts (character :: text) =
      (.character character :: (scanParts text).1, (scanParts text).2) := by
  rw [scanParts]
  · simp only [hcode, if_false]
  all_goals simp [hquote, hslash]

private theorem scanParts_unit {code : Nat} (h : code < 16 ^ 4) (text : List Char) :
    scanParts ('\\' :: 'u' :: (Text.padded 16 4 code ++ text)) =
      (.unit code :: (scanParts text).1, (scanParts text).2) := by
  have hread := Text.readDigits?_padded (by decide) h
  have hlength := Text.length_padded 16 4 code
  match Text.padded 16 4 code, hlength, hread with
  | [first, second, third, fourth], _, hread => simp [scanParts, hread]

/-- A character is written as a mark after a backslash, by its code, or as itself. -/
private theorem escapedChar_cases (character : Char) :
    (∃ mark, simpleEscape? mark = some character ∧ escapedChar character = ['\\', mark]) ∨
      (character.toNat < 0x20 ∧
        escapedChar character = '\\' :: 'u' :: Text.padded 16 4 character.toNat) ∨
      (character ≠ '"' ∧ character ≠ '\\' ∧ ¬character.toNat < 0x20 ∧
        escapedChar character = [character]) := by
  by_cases hescape : character ∈ ['"', '\\', '\x08', '\x0c', '\n', '\r', '\t']
  · left
    simp only [List.mem_cons, List.not_mem_nil, or_false] at hescape
    rcases hescape with rfl | rfl | rfl | rfl | rfl | rfl | rfl <;> exact ⟨_, rfl, rfl⟩
  · simp only [List.mem_cons, List.not_mem_nil, or_false, not_or] at hescape
    right
    by_cases hcontrol : character.toNat < 0x20
    · simp [escapedChar, hescape, hcontrol]
    · simp [escapedChar, hescape, hcontrol]

/-- The escape of a character is scanned as one part. -/
private theorem exists_part (character : Char) :
    ∃ part : StringPart, part.StandsFor character ∧ ∀ text,
      scanParts (escapedChar character ++ text) =
        (part :: (scanParts text).1, (scanParts text).2) := by
  rcases escapedChar_cases character with
    ⟨mark, hmark, htext⟩ | ⟨hcontrol, htext⟩ | ⟨hquote, hslash, hcode, htext⟩
  · refine ⟨_, standsFor_character character, fun text => ?_⟩
    rw [htext]
    exact scanParts_simple hmark text
  · refine ⟨_, standsFor_unit hcontrol, fun text => ?_⟩
    rw [htext]
    exact scanParts_unit (Nat.lt_trans hcontrol (by decide)) text
  · refine ⟨_, standsFor_character character, fun text => ?_⟩
    rw [htext]
    exact scanParts_plain hquote hslash hcode text

/-! ## Strings -/

private theorem exists_parts (characters rest : List Char) :
    ∃ parts, scanParts (characters.flatMap escapedChar ++ '"' :: rest) = (parts, .ok rest) ∧
      joinParts none parts = .ok characters := by
  induction characters with
  | nil => exact ⟨[], by simp [scanParts], rfl⟩
  | cons character characters ih =>
      obtain ⟨parts, hscan, hjoin⟩ := ih
      obtain ⟨part, hstands, hpart⟩ := exists_part character
      refine ⟨part :: parts, ?_, ?_⟩
      · rw [List.flatMap_cons, List.append_assoc, hpart, hscan]
      · rw [hstands, hjoin]
        rfl

theorem scanString_escaped (text : String) (rest : List Char) :
    scanString (text.toList.flatMap escapedChar ++ '"' :: rest) =
      .closed (.ok text) rest := by
  obtain ⟨parts, hscan, hjoin⟩ := exists_parts text.toList rest
  simp [scanString, hscan, hjoin, Except.map]

theorem stringText_append (value : String) (rest : List Char) :
    stringText value ++ rest = '"' :: (value.toList.flatMap escapedChar ++ '"' :: rest) := by
  simp [stringText]

end Reshape.Json
