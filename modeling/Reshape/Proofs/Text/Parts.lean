import Mathlib.Data.List.DropRight
import Reshape.Text.Blank

/-!
# Parts of texts

A text is cut at the first place where a character stands, or trimmed of the blanks at its two
ends.  What is left is the only part before that character without it, or the only part with
nothing but blanks around it that neither begins nor ends with one.
-/

namespace Reshape.Text

/-! ## Before a character -/

/-- `part` is what stands in `text` before the first `mark`. -/
def CutsTo (mark : Char) (text part : List Char) : Prop :=
  mark ∉ part ∧ (text = part ∨ ∃ rest, text = part ++ mark :: rest)

theorem takeWhile_eq_iff {mark : Char} {text part : List Char} :
    text.takeWhile (· != mark) = part ↔ CutsTo mark text part := by
  constructor
  · rintro rfl
    have htext : text = text.takeWhile (· != mark) ++ text.dropWhile (· != mark) :=
      List.takeWhile_append_dropWhile.symm
    have hhead := List.head?_dropWhile_not (· != mark) text
    refine ⟨fun hmark => ?_, ?_⟩
    · have hkept := List.mem_takeWhile_imp hmark
      simp at hkept
    · cases hrest : text.dropWhile (· != mark) with
      | nil =>
          rw [hrest, List.append_nil] at htext
          exact .inl htext
      | cons character rest =>
          rw [hrest] at htext hhead
          obtain rfl : character = mark := by simpa using hhead
          exact .inr ⟨rest, htext⟩
  · rintro ⟨hmark, hpart⟩
    have hkept : ∀ character ∈ part, (character != mark) = true := by
      intro character hcharacter
      rw [bne_iff_ne]
      rintro rfl
      exact hmark hcharacter
    rcases hpart with rfl | ⟨rest, rfl⟩
    · exact List.takeWhile_eq_self_iff.mpr hkept
    · rw [List.takeWhile_append_of_pos hkept, List.takeWhile_cons_of_neg (by simp),
        List.append_nil]

theorem append_cons_inj_of_not_mem {mark : Char} {part rest part' rest' : List Char}
    (hpart : mark ∉ part) (hpart' : mark ∉ part')
    (h : part ++ mark :: rest = part' ++ mark :: rest') : part = part' ∧ rest = rest' := by
  have hcut : CutsTo mark (part ++ mark :: rest) part := ⟨hpart, .inr ⟨rest, rfl⟩⟩
  have hcut' : CutsTo mark (part ++ mark :: rest) part' := ⟨hpart', .inr ⟨rest', h⟩⟩
  obtain rfl : part = part' := by
    rw [← takeWhile_eq_iff.mpr hcut, takeWhile_eq_iff.mpr hcut']
  exact ⟨rfl, List.cons_inj_right mark |>.mp (List.append_cancel_left h)⟩

/-! ## Between blanks -/

def AllBlank (text : List Char) : Prop := ∀ character ∈ text, isBlank character = true

/-- No blank stands at an end of the text. -/
def Trimmed (text : List Char) : Prop :=
  (∀ character ∈ text.head?, isBlank character = false) ∧
    ∀ character ∈ text.getLast?, isBlank character = false

/-- `core` is what the blanks at the ends of `text` stand around. -/
def TrimsTo (text core : List Char) : Prop :=
  Trimmed core ∧
    ∃ before after, text = before ++ core ++ after ∧ AllBlank before ∧ AllBlank after

instance (text : List Char) : Decidable (AllBlank text) :=
  decidable_of_iff (text.all isBlank = true) List.all_eq_true

theorem allBlank_nil : AllBlank [] := List.forall_mem_nil _

theorem AllBlank.append {left right : List Char} (hleft : AllBlank left)
    (hright : AllBlank right) : AllBlank (left ++ right) :=
  List.forall_mem_append.mpr ⟨hleft, hright⟩

theorem trimmed_of_forall {text : List Char}
    (h : ∀ character ∈ text, isBlank character = false) : Trimmed text :=
  ⟨fun character hcharacter => h character (List.mem_of_mem_head? hcharacter),
    fun character hcharacter => h character (List.mem_of_mem_getLast? hcharacter)⟩

/-! ## One end -/

theorem trimStart_append {before : List Char} (hbefore : AllBlank before)
    (text : List Char) : trimStart (before ++ text) = trimStart text :=
  List.dropWhile_append_of_pos hbefore

theorem trimEnd_append {after : List Char} (hafter : AllBlank after) (text : List Char) :
    trimEnd (text ++ after) = trimEnd text := by
  have hreverse : AllBlank after.reverse := by simpa [AllBlank] using hafter
  rw [trimEnd, List.reverse_append, List.dropWhile_append_of_pos hreverse]
  rfl

theorem trimStart_of_head {text : List Char}
    (h : ∀ character ∈ text.head?, isBlank character = false) : trimStart text = text := by
  cases text with
  | nil => rfl
  | cons character text => exact List.dropWhile_cons_of_neg (by simp [h character rfl])

theorem trimEnd_of_getLast {text : List Char}
    (h : ∀ character ∈ text.getLast?, isBlank character = false) : trimEnd text = text := by
  have hreverse : trimStart text.reverse = text.reverse :=
    trimStart_of_head (by rwa [List.head?_reverse])
  rw [trimStart] at hreverse
  rw [trimEnd, hreverse, List.reverse_reverse]

theorem exists_trimStart (text : List Char) :
    ∃ before, text = before ++ trimStart text ∧ AllBlank before :=
  ⟨text.takeWhile isBlank, List.takeWhile_append_dropWhile.symm,
    fun _ hcharacter => List.mem_takeWhile_imp hcharacter⟩

theorem exists_trimEnd (text : List Char) :
    ∃ after, text = trimEnd text ++ after ∧ AllBlank after :=
  ⟨text.rtakeWhile isBlank, (List.rdropWhile_append_rtakeWhile ..).symm,
    fun _ hcharacter => List.mem_rtakeWhile_imp hcharacter⟩

/-! ## Both ends -/

theorem trim_of_trimmed {text : List Char} (h : Trimmed text) : trim text = text := by
  rw [trim, trimStart_of_head h.1, trimEnd_of_getLast h.2]

theorem trim_append {before after : List Char} (hbefore : AllBlank before)
    (hafter : AllBlank after) {core : List Char} (hcore : Trimmed core) :
    trim (before ++ core ++ after) = core := by
  cases core with
  | nil =>
      have hblank : trimStart (before ++ [] ++ after) = [] := by
        rw [List.append_nil, trimStart_append hbefore, ← List.append_nil after,
          trimStart_append hafter]
        rfl
      rw [trim, hblank]
      rfl
  | cons first rest =>
      have hstart : trimStart (first :: rest ++ after) = first :: rest ++ after :=
        trimStart_of_head hcore.1
      rw [trim, List.append_assoc, trimStart_append hbefore, hstart, trimEnd_append hafter,
        trimEnd_of_getLast hcore.2]

/-- Where a text that is not blank begins and ends is determined. -/
theorem append_inj_of_trimmed {before core after before' core' after' : List Char}
    (hbefore : AllBlank before) (hafter : AllBlank after) (hcore : Trimmed core)
    (hbefore' : AllBlank before') (hafter' : AllBlank after') (hcore' : Trimmed core')
    (hne : core ≠ []) (h : before ++ core ++ after = before' ++ core' ++ after') :
    before = before' ∧ core = core' ∧ after = after' := by
  obtain rfl : core = core' := by
    rw [← trim_append hbefore hafter hcore, h, trim_append hbefore' hafter' hcore']
  obtain ⟨first, rest, rfl⟩ := List.exists_cons_of_ne_nil hne
  have hfirst : ¬isBlank first = true := by simp [hcore.1 first rfl]
  have hrun {blanks : List Char} (hblanks : AllBlank blanks) (text : List Char) :
      (blanks ++ (first :: rest ++ text)).takeWhile isBlank = blanks := by
    rw [List.takeWhile_append_of_pos hblanks, List.cons_append,
      List.takeWhile_cons_of_neg hfirst, List.append_nil]
  rw [List.append_assoc, List.append_assoc] at h
  obtain rfl : before = before' := by
    rw [← hrun hbefore after, h, hrun hbefore' after']
  exact ⟨rfl, rfl, List.append_cancel_left (List.append_cancel_left h)⟩

theorem exists_trim (text : List Char) :
    ∃ before after, text = before ++ trim text ++ after ∧ AllBlank before ∧
      AllBlank after := by
  obtain ⟨before, hstart, hbefore⟩ := exists_trimStart text
  obtain ⟨after, hend, hafter⟩ := exists_trimEnd (trimStart text)
  refine ⟨before, after, ?_, hbefore, hafter⟩
  rw [trim, List.append_assoc, ← hend, ← hstart]

theorem mem_of_mem_trim {text : List Char} {character : Char} (h : character ∈ trim text) :
    character ∈ text := by
  obtain ⟨before, after, htext, -, -⟩ := exists_trim text
  rw [htext]
  simp [h]

theorem trimmed_trim (text : List Char) : Trimmed (trim text) := by
  have hlast : ∀ character ∈ (trim text).getLast?, isBlank character = false := by
    have hhead := List.head?_dropWhile_not isBlank (trimStart text).reverse
    rw [trim, trimEnd, List.getLast?_reverse]
    intro character hcharacter
    rw [Option.mem_def.mp hcharacter] at hhead
    exact hhead
  refine ⟨?_, hlast⟩
  obtain ⟨after, hend, -⟩ := exists_trimEnd (trimStart text)
  intro character hcharacter
  -- What is left at the start is what the trimmed text begins with.
  have hstart : character ∈ (trimStart text).head? := by
    rw [hend, List.head?_append, ← trim, Option.mem_def.mp hcharacter]
    rfl
  have hhead := List.head?_dropWhile_not isBlank text
  rw [trimStart] at hstart
  rw [Option.mem_def.mp hstart] at hhead
  exact hhead

theorem trim_eq_iff {text core : List Char} : trim text = core ↔ TrimsTo text core := by
  constructor
  · rintro rfl
    exact ⟨trimmed_trim text, exists_trim text⟩
  · rintro ⟨hcore, before, after, rfl, hbefore, hafter⟩
    exact trim_append hbefore hafter hcore

end Reshape.Text
