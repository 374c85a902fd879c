import Reshape.Proofs.Sequence
import Reshape.Proofs.Text.Numeral
import Reshape.Proofs.Timestamp.Calendar
import Reshape.Timestamp.Text

/-!
# Timestamps read back

Each part of the text of a timestamp is read back by the reader of that part, whatever
follows it.  A year of other than four digits has a sign, which is not read.
-/

namespace Reshape.Timestamp

/-! ## Numbers and separators -/

theorem readNumber_padded {width number : Nat} (h : number < 10 ^ width)
    (rest : List Char) :
    readNumber width (Text.padded 10 width number ++ rest) = .ok (number, rest) := by
  have hlength := Text.length_padded 10 width number
  simp [readNumber, hlength, Text.readDigits?_padded (by decide) h]

theorem readOneOf_cons {allowed : List Char} {character : Char} (h : character ∈ allowed)
    (rest : List Char) : readOneOf allowed (character :: rest) = .ok rest := by
  simp [readOneOf, h]

/-! ## Dates -/

private theorem readDate_text {date : Date} (hexists : date.Exists) (hlow : 0 ≤ date.year)
    (hhigh : date.year ≤ 9999) (rest : List Char) :
    readDate (yearText date.year ++ '-' :: (Text.padded 10 2 date.month ++
      '-' :: (Text.padded 10 2 date.day ++ rest))) = .ok (date, rest) := by
  obtain ⟨year, month, day⟩ := date
  have hdays : Date.daysInMonth year month ≤ 31 := by
    unfold Date.daysInMonth
    split
    · split <;> omega
    · split <;> omega
  have hmonth : month < 10 ^ 2 := Nat.lt_of_le_of_lt hexists.2.1 (by decide)
  have hday : day < 10 ^ 2 :=
    Nat.lt_of_le_of_lt (Nat.le_trans hexists.2.2.2 hdays) (by decide)
  have hyear : year.toNat < 10 ^ 4 := by
    simp only at hlow hhigh
    omega
  have hback : (year.toNat : Int) = year := Int.toNat_of_nonneg hlow
  simp only [readDate, yearText, if_pos (And.intro hlow hhigh), readNumber_padded hyear,
    readNumber_padded hmonth, readNumber_padded hday, readOneOf_cons List.mem_cons_self,
    Sequence.ok_bind, hback, if_pos hexists]

/-! ## Times -/

private theorem readFraction_padded {width number : Nat} (hpositive : 0 < width)
    (hwidth : width ≤ 9) (h : number < 10 ^ width) (rest : List Char) :
    readFraction ('.' :: (Text.padded 10 width number ++ '+' :: rest)) =
      .ok (number * 10 ^ (9 - width), '+' :: rest) := by
  have hlength := Text.length_padded 10 width number
  have hplus : Text.isDigit '+' = false := by decide
  have htake : (Text.padded 10 width number ++ '+' :: rest).takeWhile Text.isDigit =
      Text.padded 10 width number := by
    rw [List.takeWhile_append_of_pos fun _ => Text.isDigit_of_mem_padded]
    simp [hplus]
  have hdrop : (Text.padded 10 width number ++ '+' :: rest).dropWhile Text.isDigit =
      '+' :: rest := by
    rw [List.dropWhile_append_of_pos fun _ => Text.isDigit_of_mem_padded]
    simp [hplus]
  have hdigits : Text.padded 10 width number ≠ [] := by
    rw [← List.length_pos_iff, hlength]
    exact hpositive
  have hnanos : number * 10 ^ (9 - width) < 10 ^ 9 := by
    calc number * 10 ^ (9 - width)
        < 10 ^ width * 10 ^ (9 - width) :=
          Nat.mul_lt_mul_of_pos_right h (Nat.pow_pos (by decide))
      _ = 10 ^ 9 := by rw [← Nat.pow_add, Nat.add_sub_cancel' hwidth]
  have hfull : ((Text.padded 10 width number).take 9).rightpad 9 '0' =
      Text.padded 10 9 (number * 10 ^ (9 - width)) := by
    have hshort : (Text.padded 10 width number).length ≤ 9 := by omega
    rw [List.take_of_length_le hshort, List.rightpad, hlength,
      Text.padded_append_zeros (by decide), Nat.add_sub_cancel' hwidth]
  simp only [readFraction, htake, hdrop, if_neg hdigits, hfull,
    Text.readDigits?_padded (by decide : 10 ≤ 16) hnanos]

private theorem readFraction_text {nanos : Nat} (h : nanos < 1000000000) (rest : List Char) :
    readFraction (fractionText nanos ++ '+' :: rest) = .ok (nanos, '+' :: rest) := by
  unfold fractionText
  split
  · rename_i hzero
    rw [hzero]
    rfl
  · split
    · rename_i hmillis
      rw [List.cons_append, readFraction_padded (by decide) (by decide) (by omega)]
      congr 2
      omega
    · split
      · rename_i hmicros
        rw [List.cons_append, readFraction_padded (by decide) (by decide) (by omega)]
        congr 2
        omega
      · rw [List.cons_append, readFraction_padded (by decide) (by decide) (by omega)]
        congr 2
        omega

private theorem readTime_text {second nanos : Nat} (hsecond : second < 86400)
    (hnanos : nanos < 1000000000 ∨ nanos < 2000000000 ∧ second % 60 = 59)
    (rest : List Char) :
    readTime (Text.padded 10 2 (second / 3600) ++
      ':' :: (Text.padded 10 2 (second / 60 % 60) ++
      ':' :: (Text.padded 10 2 (second % 60 + nanos / 1000000000) ++
        (fractionText (nanos % 1000000000) ++ '+' :: rest)))) =
      .ok ((second, nanos), '+' :: rest) := by
  have hhour : second / 3600 < 10 ^ 2 := by omega
  have hminute : second / 60 % 60 < 10 ^ 2 := by omega
  have hrest : second % 60 + nanos / 1000000000 < 10 ^ 2 := by omega
  have hinRange : ¬ (23 < second / 3600 ∨ 59 < second / 60 % 60 ∨
      60 < second % 60 + nanos / 1000000000) := by omega
  simp only [readTime, readNumber_padded hhour, readNumber_padded hminute,
    readNumber_padded hrest, readOneOf_cons List.mem_cons_self, Sequence.ok_bind,
    readFraction_text (Nat.mod_lt nanos (by decide)), if_neg hinRange]
  split
  · congr 3
    · omega
    · omega
  · congr 3
    · omega
    · omega

/-! ## Whole texts -/

private theorem length_le_octets (text : List Char) : text.length ≤ Text.Utf8.octets text := by
  induction text with
  | nil => exact Nat.le_refl _
  | cons character text ih =>
      have hsize := character.utf8Size_pos
      simp only [Text.Utf8.octets, List.foldr_cons, List.length_cons] at ih ⊢
      omega

private theorem readOffset_utc : readOffset ('+' :: "00:00".toList) = .ok (0, []) := by
  decide

/-- The year, in UTC, of the text of a timestamp. -/
def year (timestamp : Timestamp) : Int :=
  (Date.ofDayNumber (timestamp.seconds / 86400)).year

theorem spelling_eq (timestamp : Timestamp) :
    timestamp.spelling =
      let date := Date.ofDayNumber (timestamp.seconds / 86400)
      let second := (timestamp.seconds % 86400).toNat
      yearText date.year ++ '-' :: (Text.padded 10 2 date.month ++
        '-' :: (Text.padded 10 2 date.day ++
        'T' :: (Text.padded 10 2 (second / 3600) ++
        ':' :: (Text.padded 10 2 (second / 60 % 60) ++
        ':' :: (Text.padded 10 2 (second % 60 + timestamp.nanos / 1000000000) ++
          (fractionText (timestamp.nanos % 1000000000) ++ '+' :: "00:00".toList)))))) := by
  have hoffset : "+00:00".toList = '+' :: "00:00".toList := by decide
  simp only [spelling, hoffset, List.append_assoc, List.cons_append]

theorem parse_text {timestamp : Timestamp} (hlow : 0 ≤ timestamp.year)
    (hhigh : timestamp.year ≤ 9999) : parse timestamp.text = .ok timestamp := by
  have hdate := Date.ofDayNumber_exists (timestamp.seconds / 86400)
  have hnumber := Date.dayNumber_ofDayNumber (timestamp.seconds / 86400)
  obtain ⟨second, hsecond⟩ : ∃ second, second = (timestamp.seconds % 86400).toNat :=
    ⟨_, rfl⟩
  have hinDay : second < 86400 := by omega
  have hinSecond : timestamp.nanos < 1000000000 ∨
      timestamp.nanos < 2000000000 ∧ second % 60 = 59 := by
    have := timestamp.inSecond
    omega
  have hyear : (yearText timestamp.year).length = 4 := by
    simp [yearText, hlow, hhigh, Text.length_padded]
  have hlong : ¬ Text.Utf8.octets timestamp.spelling < 19 := by
    have hoctets := length_le_octets timestamp.spelling
    have hlength : 19 ≤ timestamp.spelling.length := by
      rw [year] at hyear
      simp [spelling_eq, Text.length_padded, hyear]
      omega
    omega
  have htimestamp : ofParts? timestamp.seconds timestamp.nanos = some timestamp := by
    simp [ofParts?, timestamp.inRange, timestamp.inSecond]
  have hseconds : 86400 * (timestamp.seconds / 86400) + (second : Int) - 0 =
      timestamp.seconds := by omega
  simp only [parse, text, String.toList_ofList, if_neg hlong]
  rw [spelling_eq]
  simp only [← hsecond, readDate_text hdate hlow hhigh, Sequence.ok_bind,
    readOneOf_cons List.mem_cons_self, readTime_text hinDay hinSecond, readOffset_utc,
    hnumber, hseconds, htimestamp]
  rfl

private theorem readNumber_of_stranger {width : Nat} {character : Char}
    (h : Text.digitValue? 10 character = none) (rest : List Char) :
    readNumber (width + 1) (character :: rest) = .error .invalid := by
  simp only [readNumber, List.take_succ_cons, Text.readDigits?, Text.readDigitsFrom?, h]
  split <;> rfl

theorem parse_text_of_signed {timestamp : Timestamp}
    (hyear : ¬ (0 ≤ timestamp.year ∧ timestamp.year ≤ 9999)) :
    ∃ error, parse timestamp.text = .error error := by
  obtain ⟨sign, rest, hsign, hspelling⟩ : ∃ sign rest,
      Text.digitValue? 10 sign = none ∧ timestamp.spelling = sign :: rest := by
    rw [year] at hyear
    rw [spelling_eq]
    simp only [yearText, if_neg hyear]
    refine ⟨_, _, ?_, rfl⟩
    split <;> decide
  simp only [parse, text, String.toList_ofList, hspelling]
  split
  · exact ⟨_, rfl⟩
  · simp only [readDate, readNumber_of_stranger hsign, Sequence.error_bind]
    exact ⟨_, rfl⟩

end Reshape.Timestamp
