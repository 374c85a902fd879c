import Reshape.Proofs.Text.Parts
import Reshape.Text.Lowercase

/-!
# Lower case

Lower-casing takes a capital of ASCII to its small letter and leaves blanks as they are.  A
character outside ASCII has no letter of ASCII for its lower case, but for two of them: the
Kelvin sign becomes `k`, and the capital I with a dot becomes `i` with a combining dot.  So a
text of blanks and of ASCII without `k` is the lower case of nothing but itself in other case.
No lower case has another lower case, so that a part of a lower-cased text is its own.
-/

namespace Reshape.Text

/-! ## Letters of ASCII -/

theorem forall_ascii {p : Char → Prop} (h : ∀ code < 0x80, p (Char.ofNat code))
    {character : Char} (hascii : character.toNat < 0x80) : p character := by
  have hcharacter := h character.toNat hascii
  rwa [Char.ofNat_toNat] at hcharacter

theorem toLower_of_not_ascii {character : Char} (h : ¬character.toNat < 0x80) :
    character.toLower = character := by
  refine dif_neg fun hcapital => h ?_
  have hlast : character.toNat ≤ 'Z'.toNat := hcapital.2
  exact Nat.lt_of_le_of_lt hlast (by decide)

theorem isBlank_toLower (character : Char) :
    isBlank character.toLower = isBlank character := by
  by_cases hascii : character.toNat < 0x80
  · exact forall_ascii (p := fun character => isBlank character.toLower = isBlank character)
      (by decide +kernel) hascii
  · rw [toLower_of_not_ascii hascii]

private theorem toLower_of_isBlank {character : Char} (h : isBlank character = true) :
    character.toLower = character := by
  by_cases hascii : character.toNat < 0x80
  · exact forall_ascii
      (p := fun character => isBlank character = true → character.toLower = character)
      (by decide +kernel) hascii h
  · exact toLower_of_not_ascii hascii

private theorem toLower_toLower (character : Char) :
    character.toLower.toLower = character.toLower := by
  by_cases hascii : character.toNat < 0x80
  · exact forall_ascii
      (p := fun character => character.toLower.toLower = character.toLower)
      (by decide +kernel) hascii
  · rw [toLower_of_not_ascii hascii, toLower_of_not_ascii hascii]

theorem eq_of_toLower_eq_bracket {character : Char} :
    (character.toLower = '<' → character = '<') ∧
      (character.toLower = '>' → character = '>') := by
  by_cases hascii : character.toNat < 0x80
  · exact forall_ascii
      (p := fun character => (character.toLower = '<' → character = '<') ∧
        (character.toLower = '>' → character = '>'))
      (by decide +kernel) hascii
  · rw [toLower_of_not_ascii hascii]
    exact ⟨id, id⟩

theorem map_toLower_map_toLower (text : List Char) :
    (text.map Char.toLower).map Char.toLower = text.map Char.toLower := by
  rw [List.map_map]
  exact List.map_congr_left fun character _ => toLower_toLower character

/-- A blank, or a character of ASCII other than `k`. -/
def isSettled (character : Char) : Bool :=
  (character.toNat < 0x80 && character != 'k') || isBlank character

theorem isSettled_iff {character : Char} :
    isSettled character = true ↔
      (character.toNat < 0x80 ∧ character ≠ 'k') ∨ isBlank character = true := by
  simp [isSettled]

theorem AllBlank.isSettled {text : List Char} (h : AllBlank text) :
    ∀ character ∈ text, isSettled character = true :=
  fun character hcharacter => isSettled_iff.mpr (.inr (h character hcharacter))

theorem ascii_or_blank_of_isSettled {character : Char} (h : isSettled character = true) :
    character.toNat < 0x80 ∨ isBlank character = true :=
  (isSettled_iff.mp h).imp_left And.left

theorem isSettled_of_toLower {character : Char} (h : isSettled character.toLower = true) :
    isSettled character = true := by
  by_cases hascii : character.toNat < 0x80
  · exact forall_ascii
      (p := fun character => isSettled character.toLower = true → isSettled character = true)
      (by decide +kernel) hascii h
  · rwa [toLower_of_not_ascii hascii] at h

/-! ## Texts in other case -/

private theorem allBlank_map_toLower_iff {text : List Char} :
    AllBlank (text.map Char.toLower) ↔ AllBlank text := by
  simp only [AllBlank, List.forall_mem_map, isBlank_toLower]

theorem AllBlank.of_toLower_eq {text other : List Char} (h : AllBlank text)
    (hsame : other.map Char.toLower = text.map Char.toLower) : AllBlank other := by
  rw [← allBlank_map_toLower_iff] at h ⊢
  rwa [hsame]

theorem AllBlank.map_toLower {text : List Char} (h : AllBlank text) :
    text.map Char.toLower = text := by
  have hfixed : ∀ character ∈ text, character.toLower = id character :=
    fun character hcharacter => toLower_of_isBlank (h character hcharacter)
  rw [List.map_congr_left hfixed, List.map_id]

private theorem Trimmed.map_toLower {text : List Char} (h : Trimmed text) :
    Trimmed (text.map Char.toLower) := by
  refine ⟨fun lower hlower => ?_, fun lower hlower => ?_⟩
  · rw [List.head?_map, Option.mem_def, Option.map_eq_some_iff] at hlower
    obtain ⟨character, hcharacter, rfl⟩ := hlower
    rw [isBlank_toLower]
    exact h.1 character hcharacter
  · rw [List.getLast?_map, Option.mem_def, Option.map_eq_some_iff] at hlower
    obtain ⟨character, hcharacter, rfl⟩ := hlower
    rw [isBlank_toLower]
    exact h.2 character hcharacter

theorem trim_map_toLower (text : List Char) :
    trim (text.map Char.toLower) = (trim text).map Char.toLower := by
  obtain ⟨before, after, htext, hbefore, hafter⟩ := exists_trim text
  refine trim_eq_iff.mpr ⟨(trimmed_trim text).map_toLower, before, after, ?_, hbefore, hafter⟩
  conv_lhs => rw [htext]
  rw [List.map_append, List.map_append, hbefore.map_toLower, hafter.map_toLower]

/-! ## Single characters -/

/-- The runs other than that of the Kelvin sign lead to characters outside ASCII that are no
blanks. -/
private theorem lowerRuns_targets : ∀ run ∈ lowerRuns,
    (run.first = 0x212A ∧ run.last = 0x212A ∧ run.offset = -8383) ∨
      (0x80 ≤ run.first + run.offset ∧
        (run.last + run.offset < 0xD800 ∨
          (0xDFFF < run.first + run.offset ∧ run.last + run.offset < 0x110000)) ∧
        ∀ range ∈ blank.ranges,
          run.last + run.offset < range.1 ∨ range.2 < run.first + run.offset) := by
  decide +kernel

private theorem blank_ranges : ∀ range ∈ blank.ranges,
    (0x130 < range.1 ∨ range.2 < 0x130) ∧
      ∀ run ∈ lowerRuns, range.2 < run.first ∨ run.last < range.1 := by
  decide +kernel

theorem LowerRun.contains_iff {run : LowerRun} {code : Nat} :
    run.contains code = true ↔
      (run.first ≤ code ∧ code ≤ run.last) ∧ (code - run.first) % run.stride = 0 := by
  simp [contains]

theorem LowerRun.le_of_contains {run : LowerRun} {code : Nat} (h : run.contains code = true) :
    run.first ≤ code ∧ code ≤ run.last :=
  (contains_iff.mp h).1

theorem LowerRun.of_find? {run : LowerRun} {code : Nat}
    (h : lowerRuns.find? (·.contains code) = some run) :
    run ∈ lowerRuns ∧ run.contains code = true :=
  ⟨List.mem_of_find?_eq_some h, by simpa using List.find?_some h⟩

/-- What the run takes a code point to that it contains. -/
def LowerRun.lower (run : LowerRun) (code : Nat) : Nat := (code + run.offset).toNat

theorem toNat_ofNat {code : Nat} (h : code.isValidChar) : (Char.ofNat code).toNat = code := by
  rw [Char.ofNat, dif_pos h]
  rfl

/-- The Kelvin sign apart, a lower case is a character outside ASCII that is no blank. -/
theorem LowerRun.lower_cases {run : LowerRun} (hrun : run ∈ lowerRuns) {code : Nat}
    (hcode : run.contains code = true) :
    run.lower code = 'k'.toNat ∨
      (0x80 ≤ run.lower code ∧ (run.lower code).isValidChar ∧
        ∀ range ∈ blank.ranges, run.lower code < range.1 ∨ range.2 < run.lower code) := by
  obtain ⟨hfirst, hlast⟩ := LowerRun.le_of_contains hcode
  unfold lower Nat.isValidChar
  rcases lowerRuns_targets run hrun with ⟨hlow, hhigh, hoffset⟩ | ⟨hascii, hvalid, hblank⟩
  · obtain rfl : code = 0x212A := by omega
    rw [hoffset]
    exact .inl rfl
  · refine .inr ⟨by omega, by omega, fun range hrange => ?_⟩
    have hapart := hblank range hrange
    omega

private theorem not_isSettled_lower {run : LowerRun} (hrun : run ∈ lowerRuns) {code : Nat}
    (hcode : run.contains code = true) :
    isSettled (Char.ofNat (run.lower code)) = false := by
  rcases LowerRun.lower_cases hrun hcode with hkelvin | ⟨hascii, hvalid, hblank⟩
  · rw [hkelvin]
    decide
  · rw [← Bool.not_eq_true, isSettled_iff, toNat_ofNat hvalid]
    rintro (⟨hlow, -⟩ | hheld)
    · omega
    · obtain ⟨range, hrange, hbounds⟩ := (CharClass.contains_iff _ _).mp hheld
      rw [toNat_ofNat hvalid] at hbounds
      have hapart := hblank range hrange
      omega

private theorem lowerChar_of_isBlank {character : Char} (h : isBlank character = true) :
    lowerChar character = [character.toLower] := by
  by_cases hascii : character.toNat < 0x80
  · rw [lowerChar, if_pos hascii]
  · obtain ⟨range, hrange, hbounds⟩ := (CharClass.contains_iff _ _).mp h
    obtain ⟨hdotted, hruns⟩ := blank_ranges range hrange
    have hrun : lowerRuns.find? (·.contains character.toNat) = none := by
      rw [List.find?_eq_none]
      intro run hrun hcontains
      have hapart := hruns run hrun
      have hheld := LowerRun.le_of_contains hcontains
      omega
    rw [lowerChar, if_neg hascii, if_neg (by omega), hrun, toLower_of_not_ascii hascii]

private theorem lowerChar_of_ascii_or_blank {character : Char}
    (h : character.toNat < 0x80 ∨ isBlank character = true) :
    lowerChar character = [character.toLower] := by
  rcases h with hascii | hblank
  · rw [lowerChar, if_pos hascii]
  · exact lowerChar_of_isBlank hblank

private theorem lowerChar_eq_toLower {character : Char}
    (h : ∀ lower ∈ lowerChar character, isSettled lower = true) :
    lowerChar character = [character.toLower] := by
  by_cases hascii : character.toNat < 0x80
  · rw [lowerChar, if_pos hascii]
  · rw [toLower_of_not_ascii hascii]
    rw [lowerChar, if_neg hascii] at h ⊢
    by_cases hdotted : character.toNat = 0x130
    · rw [if_pos hdotted] at h
      exact absurd (h '\u0307' (by simp)) (by decide)
    · rw [if_neg hdotted] at h ⊢
      cases hrun : lowerRuns.find? (·.contains character.toNat) with
      | none => rfl
      | some run =>
          rw [hrun] at h
          obtain ⟨hmem, hcontains⟩ := LowerRun.of_find? hrun
          have hlower := not_isSettled_lower hmem hcontains
          rw [LowerRun.lower] at hlower
          simp [hlower] at h

/-! ## Texts -/

theorem lowercaseAfter_cons {character : Char} (h : character ≠ 'Σ')
    (before text : List Char) :
    lowercaseAfter before (character :: text) =
      lowerChar character ++ lowercaseAfter (character :: before) text := by
  rw [lowercaseAfter, if_neg h]

private theorem lowercaseAfter_of_ascii_or_blank {before text : List Char}
    (h : ∀ character ∈ text, character.toNat < 0x80 ∨ isBlank character = true) :
    lowercaseAfter before text = text.map Char.toLower := by
  induction text generalizing before with
  | nil => rfl
  | cons character text ih =>
      rw [List.forall_mem_cons] at h
      have hsigma : character ≠ 'Σ' := by
        rintro rfl
        exact absurd h.1 (by decide)
      rw [lowercaseAfter_cons hsigma, lowerChar_of_ascii_or_blank h.1, ih h.2]
      rfl

theorem lowercase_of_ascii_or_blank {text : List Char}
    (h : ∀ character ∈ text, character.toNat < 0x80 ∨ isBlank character = true) :
    lowercase text = text.map Char.toLower :=
  lowercaseAfter_of_ascii_or_blank h

/-- The lower cases of the capital sigma are outside ASCII, so that its rule plays no part. -/
private theorem lowercaseAfter_eq_map {before text : List Char}
    (h : ∀ lower ∈ lowercaseAfter before text, isSettled lower = true) :
    lowercaseAfter before text = text.map Char.toLower := by
  induction text generalizing before with
  | nil => rfl
  | cons character text ih =>
      have hsigma : character ≠ 'Σ' := by
        rintro rfl
        rw [lowercaseAfter, if_pos rfl] at h
        split at h
        · exact absurd (h 'ς' (by simp)) (by decide)
        · exact absurd (h 'σ' (by simp)) (by decide)
      rw [lowercaseAfter_cons hsigma, List.forall_mem_append] at h
      rw [lowercaseAfter_cons hsigma, lowerChar_eq_toLower h.1, ih h.2]
      rfl

theorem lowercase_eq_map {text : List Char}
    (h : ∀ lower ∈ lowercase text, isSettled lower = true) :
    lowercase text = text.map Char.toLower :=
  lowercaseAfter_eq_map h

/-! ## Lower-cased texts -/

/-- No code point of `other` is a lower case of `run`: those come before or after, or between
the code points of a run of stride two. -/
def LowerRun.avoids (run other : LowerRun) : Bool :=
  Nat.blt (run.lower run.last) other.first || Nat.blt other.last (run.lower run.first) ||
    (Nat.beq other.stride 2 && (Nat.beq run.stride 2 || Nat.beq run.first run.last) &&
      Nat.beq ((run.lower run.first + other.first) % 2) 1)

/-- U+0130, which has a lower case of two characters, counts as a run here. -/
theorem lowerRuns_avoid : ∀ run ∈ lowerRuns, 0 ≤ run.first + run.offset ∧
    run.avoids ⟨0x130, 0x130, 1, 0⟩ = true ∧ lowerRuns.all run.avoids = true := by
  decide +kernel

theorem LowerRun.not_contains_lower {run other : LowerRun} (havoids : run.avoids other = true)
    (hoffset : 0 ≤ run.first + run.offset) {code : Nat} (hcode : run.contains code = true) :
    other.contains (run.lower code) = false := by
  rw [← Bool.not_eq_true, contains_iff]
  rintro ⟨⟨hlow, hhigh⟩, hmultiple⟩
  obtain ⟨⟨hfirst, hlast⟩, hrun⟩ := contains_iff.mp hcode
  have hlower : run.lower run.first ≤ run.lower code ∧ run.lower code ≤ run.lower run.last := by
    unfold lower
    omega
  simp only [avoids, Bool.or_eq_true, Bool.and_eq_true, Nat.blt_eq, Nat.beq_eq] at havoids
  rcases havoids with (hbefore | hafter) | ⟨⟨hother, hstride | hsingle⟩, hodd⟩
  · omega
  · omega
  · -- Both runs have stride two, so that the parities of the code points tell them apart.
    rw [hother] at hmultiple
    rw [hstride] at hrun
    unfold lower at *
    omega
  · rw [hother] at hmultiple
    obtain rfl : code = run.first := by omega
    omega

private theorem lowerRuns_find?_lower {run : LowerRun} (hrun : run ∈ lowerRuns) {code : Nat}
    (hcode : run.contains code = true) :
    lowerRuns.find? (·.contains (run.lower code)) = none := by
  obtain ⟨hoffset, -, havoids⟩ := lowerRuns_avoid run hrun
  rw [List.find?_eq_none]
  intro other hother
  rw [LowerRun.not_contains_lower (List.all_eq_true.mp havoids other hother) hoffset hcode]
  simp

private theorem lowerChar_lower {run : LowerRun} (hrun : run ∈ lowerRuns) {code : Nat}
    (hcode : run.contains code = true) :
    lowerChar (Char.ofNat (run.lower code)) = [Char.ofNat (run.lower code)] := by
  rcases LowerRun.lower_cases hrun hcode with hkelvin | ⟨hascii, hvalid, -⟩
  · rw [hkelvin]
    decide
  · have hdotted : run.lower code ≠ 0x130 := by
      obtain ⟨hoffset, havoids, -⟩ := lowerRuns_avoid run hrun
      intro hdotted
      have hapart := LowerRun.not_contains_lower havoids hoffset hcode
      rw [hdotted] at hapart
      cases hapart
    rw [lowerChar, toNat_ofNat hvalid, if_neg (Nat.not_lt.mpr hascii), if_neg hdotted,
      lowerRuns_find?_lower hrun hcode]

/-- A lower case has no other lower case than itself. -/
theorem lowerChar_of_mem_lowerChar {character lower : Char}
    (h : lower ∈ lowerChar character) : lowerChar lower = [lower] := by
  by_cases hascii : character.toNat < 0x80
  · rw [lowerChar, if_pos hascii, List.mem_singleton] at h
    subst h
    exact forall_ascii (p := fun character => lowerChar character.toLower = [character.toLower])
      (by decide +kernel) hascii
  · by_cases hdotted : character.toNat = 0x130
    · rw [lowerChar, if_neg hascii, if_pos hdotted, List.mem_pair] at h
      rcases h with rfl | rfl
      · decide
      · decide +kernel
    · rw [lowerChar, if_neg hascii, if_neg hdotted] at h
      cases hrun : lowerRuns.find? (·.contains character.toNat) with
      | none =>
          rw [hrun, List.mem_singleton] at h
          subst h
          rw [lowerChar, if_neg hascii, if_neg hdotted, hrun]
      | some run =>
          rw [hrun, List.mem_singleton] at h
          subst h
          obtain ⟨hmem, hcontains⟩ := LowerRun.of_find? hrun
          exact lowerChar_lower hmem hcontains

private theorem lowerChar_of_mem_lowercaseAfter {before text : List Char} {character : Char}
    (h : character ∈ lowercaseAfter before text) : lowerChar character = [character] := by
  induction text generalizing before with
  | nil => cases h
  | cons first text ih =>
      rw [lowercaseAfter] at h
      rcases List.mem_append.mp h with hfirst | hrest
      · split at hfirst
        · split at hfirst
          · obtain rfl := List.mem_singleton.mp hfirst
            decide +kernel
          · obtain rfl := List.mem_singleton.mp hfirst
            decide +kernel
        · exact lowerChar_of_mem_lowerChar hfirst
      · exact ih hrest

private theorem lowercaseAfter_of_lower {before text : List Char}
    (h : ∀ character ∈ text, lowerChar character = [character]) :
    lowercaseAfter before text = text := by
  induction text generalizing before with
  | nil => rfl
  | cons character text ih =>
      rw [List.forall_mem_cons] at h
      have hsigma : character ≠ 'Σ' := by
        rintro rfl
        exact absurd h.1 (by decide +kernel)
      rw [lowercaseAfter_cons hsigma, h.1, ih h.2]
      rfl

/-- Lower-casing changes nothing in a part of a lower-cased text. -/
theorem lowercase_of_subset {text part : List Char} (h : part ⊆ lowercase text) :
    lowercase part = part :=
  lowercaseAfter_of_lower fun _ hcharacter => lowerChar_of_mem_lowercaseAfter (h hcharacter)

end Reshape.Text
