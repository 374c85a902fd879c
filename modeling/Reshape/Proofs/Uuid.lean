import Reshape.Proofs.Text.Numeral
import Reshape.Uuid

/-!
# UUIDs read back

The text of a UUID is neither a row of bare digits nor a wrapped one, so that it is
read as five groups of digits, and these are the digits that were written.
-/

namespace Reshape.Uuid

private theorem take_append_drop_add {α : Type} (items : List α) (start size : Nat) :
    (items.drop start).take size ++ items.drop (start + size) = items.drop start := by
  rw [← List.drop_drop, List.take_append_drop]

private theorem ungrouped?_grouped {digits : List Char} (h : digits.length = 32) :
    ungrouped? (grouped digits) = some digits := by
  have hgroups : (grouped digits).take 8 ++ ((grouped digits).drop 9).take 4 ++
      ((grouped digits).drop 14).take 4 ++ ((grouped digits).drop 19).take 4 ++
      (grouped digits).drop 24 =
        digits.take 8 ++ ((digits.drop 8).take 4 ++ ((digits.drop 12).take 4 ++
          ((digits.drop 16).take 4 ++ digits.drop 20))) := by
    simp [grouped, List.drop_append, List.drop_take, h]
  have hdigits : digits.take 8 ++ ((digits.drop 8).take 4 ++ ((digits.drop 12).take 4 ++
      ((digits.drop 16).take 4 ++ digits.drop 20))) = digits := by
    rw [take_append_drop_add digits 16 4, take_append_drop_add digits 12 4,
      take_append_drop_add digits 8 4, List.take_append_drop]
  simp only [ungrouped?, hgroups, hdigits, if_true]

/-- A digit starts neither a pair of braces nor a prefix. -/
private theorem inBraces?_digit {value : Nat} (h : value < 16) (rest : List Char) :
    inBraces? (Nat.digitChar value :: rest) = none := by
  have hdigits : ∀ value < 16, Nat.digitChar value ≠ '{' := by decide
  simp [inBraces?, hdigits value h]

private theorem afterUrn?_digit {value : Nat} (h : value < 16) (rest : List Char) :
    afterUrn? (Nat.digitChar value :: rest) = none := by
  have hdigits : ∀ value < 16, (Nat.digitChar value).toLower ≠ 'u' := by decide
  have hstart : urnStart = 'u' :: urnStart.tail := by decide
  unfold afterUrn?
  rw [if_neg]
  rw [hstart]
  simp [hdigits value h]

theorem parse_text (uuid : Uuid) : parse uuid.text = .ok uuid := by
  have hlength : (Text.padded 16 32 uuid.value).length = 32 := Text.length_padded ..
  have hread : ofDigits? (Text.padded 16 32 uuid.value) = some uuid := by
    simp only [ofDigits?, if_pos hlength,
      Text.readDigits?_padded (by decide : 16 ≤ 16) uuid.value_lt, dif_pos uuid.value_lt]
  have hlong : (grouped (Text.padded 16 32 uuid.value)).length = 36 := by
    simp [grouped, hlength]
  have hbare : ofDigits? (grouped (Text.padded 16 32 uuid.value)) = none := by
    simp [ofDigits?, hlong]
  obtain ⟨digit, digits, hdigits⟩ :=
    List.exists_cons_of_length_pos (show 0 < (Text.padded 16 32 uuid.value).length by omega)
  obtain ⟨value, hvalue, rfl⟩ := Text.mem_padded (by decide : 0 < 16)
    (hdigits ▸ List.mem_cons_self : digit ∈ Text.padded 16 32 uuid.value)
  obtain ⟨rest, hrest⟩ : ∃ rest, grouped (Text.padded 16 32 uuid.value) =
      Nat.digitChar value :: rest := by
    rw [hdigits]
    exact ⟨_, rfl⟩
  have haccept : accept? (grouped (Text.padded 16 32 uuid.value)) = some uuid := by
    have hbraces := inBraces?_digit hvalue rest
    have hurn := afterUrn?_digit hvalue rest
    rw [← hrest] at hbraces hurn
    simp only [accept?, hbare, hbraces, hurn, Option.none_or, Option.getD_none,
      ungrouped?_grouped hlength, Option.bind_some, hread]
  simp only [parse, text, String.toList_ofList, haccept]

end Reshape.Uuid
