import Reshape.FieldType.Text
import Reshape.Proofs.Sequence
import Reshape.Proofs.Text.Lowercase

/-!
# Types read back from their texts

The text of a type has neither capitals nor blanks, and what it has in angle brackets is
the text of the item type.  Hence a type is read back from its text, unless an option
stands directly in an option somewhere in it; then its text is refused.  Any text is parsed
by parsing what it has in angle brackets.
-/

namespace Reshape

/-! ## Texts without capitals and blanks -/

namespace Text

/-- The characters that lower-casing and trimming leave as they are. -/
def isPlain (character : Char) : Bool :=
  character.toNat < 0x80 && character.toLower == character && !isBlank character

theorem isPlain_iff {character : Char} :
    isPlain character = true ↔
      (character.toNat < 0x80 ∧ character.toLower = character) ∧
        isBlank character = false := by
  simp [isPlain]

private theorem lowercase_of_isPlain {text : List Char}
    (h : ∀ character ∈ text, isPlain character = true) : lowercase text = text := by
  have hascii : ∀ character ∈ text, character.toNat < 0x80 ∨ isBlank character = true :=
    fun character hcharacter => .inl (isPlain_iff.mp (h character hcharacter)).1.1
  have hlower : ∀ character ∈ text, character.toLower = id character :=
    fun character hcharacter => (isPlain_iff.mp (h character hcharacter)).1.2
  rw [lowercase_of_ascii_or_blank hascii, List.map_congr_left hlower, List.map_id]

private theorem trim_of_isPlain {text : List Char}
    (h : ∀ character ∈ text, isPlain character = true) : trim text = text :=
  trim_of_trimmed
    (trimmed_of_forall fun character hcharacter => (isPlain_iff.mp (h character hcharacter)).2)

end Text

namespace FieldType

/-! ## Nested options -/

/-- Whether an option stands directly in an option, at any depth. -/
def nestsOption : FieldType → Bool
  | .option item => item.isOption || item.nestsOption
  | .list item => item.nestsOption
  | _ => false

/-! ## Texts of types -/

theorem spelling_list (item : FieldType) :
    spelling (.list item) = "list".toList ++ '<' :: (item.spelling ++ ['>']) := by
  have hword : "list<".toList = "list".toList ++ ['<'] := by decide +kernel
  calc spelling (.list item) = "list<".toList ++ item.spelling ++ ['>'] := rfl
    _ = _ := by rw [hword, List.append_assoc, List.append_assoc, List.singleton_append]

theorem spelling_option (item : FieldType) :
    spelling (.option item) = "option".toList ++ '<' :: (item.spelling ++ ['>']) := by
  have hword : "option<".toList = "option".toList ++ ['<'] := by decide +kernel
  calc spelling (.option item) = "option<".toList ++ item.spelling ++ ['>'] := rfl
    _ = _ := by rw [hword, List.append_assoc, List.append_assoc, List.singleton_append]

private theorem isPlain_bracketed {word inner : List Char}
    (hword : ∀ character ∈ word, Text.isPlain character = true)
    (hinner : ∀ character ∈ inner, Text.isPlain character = true) :
    ∀ character ∈ word ++ '<' :: (inner ++ ['>']), Text.isPlain character = true := by
  have hbrackets : Text.isPlain '<' = true ∧ Text.isPlain '>' = true := by decide
  intro character hcharacter
  simp only [List.mem_append, List.mem_cons, List.not_mem_nil, or_false] at hcharacter
  rcases hcharacter with hcharacter | rfl | hcharacter | rfl
  · exact hword character hcharacter
  · exact hbrackets.1
  · exact hinner character hcharacter
  · exact hbrackets.2

theorem isPlain_spelling (type : FieldType) :
    ∀ character ∈ type.spelling, Text.isPlain character = true := by
  induction type with
  | int type => cases type <;> exact List.all_eq_true.mp (by decide +kernel)
  | bool | f32 | f64 | string | uuid | timestamp | json =>
      exact List.all_eq_true.mp (by decide +kernel)
  | list item ih =>
      rw [spelling_list]
      exact isPlain_bracketed (List.all_eq_true.mp (by decide +kernel)) ih
  | option item ih =>
      rw [spelling_option]
      exact isPlain_bracketed (List.all_eq_true.mp (by decide +kernel)) ih

theorem trim_spelling (type : FieldType) : Text.trim type.spelling = type.spelling :=
  Text.trim_of_isPlain type.isPlain_spelling

/-! ## Steps of the reader -/

theorem bracketed?_gap (word : List Char) {gap : List Char} (hgap : Text.AllBlank gap)
    (inner : List Char) :
    bracketed? word (word ++ gap ++ '<' :: (inner ++ ['>'])) = some inner := by
  have hstart : Text.trimStart (gap ++ '<' :: (inner ++ ['>'])) = '<' :: (inner ++ ['>']) := by
    rw [Text.trimStart_append hgap]
    exact List.dropWhile_cons_of_neg (by decide)
  simp [bracketed?, List.append_assoc, hstart]

theorem bracketed?_append (word inner : List Char) :
    bracketed? word (word ++ '<' :: (inner ++ ['>'])) = some inner := by
  have hnone : Text.AllBlank [] := by simp [Text.AllBlank]
  have hgap := bracketed?_gap word hnone inner
  rwa [List.append_nil] at hgap

theorem exists_of_bracketed? {word text inner : List Char}
    (h : bracketed? word text = some inner) :
    ∃ gap, Text.AllBlank gap ∧ text = word ++ gap ++ '<' :: (inner ++ ['>']) := by
  unfold bracketed? at h
  split at h
  · rename_i hword
    obtain ⟨rest, rfl⟩ := List.isPrefixOf_iff_prefix.mp hword
    rw [List.drop_left] at h
    obtain ⟨gap, hrest, hgap⟩ := Text.exists_trimStart rest
    split at h
    · rename_i tail htail
      split at h
      · rename_i hlast
        cases h
        refine ⟨gap, hgap, ?_⟩
        rw [List.dropLast_append_getLast? _ hlast, ← htail, List.append_assoc, ← hrest]
      · cases h
    · cases h
  · cases h

/-- The words begin with letters of their own. -/
theorem bracketed?_option_list (inner : List Char) :
    bracketed? "option".toList ("list".toList ++ inner) = none := by
  simp [bracketed?]

theorem read_of_option {shown text inner : List Char}
    (h : bracketed? "option".toList text = some inner) :
    read shown text =
      match read (Text.trim inner) (Text.trim inner) with
      | .error error => .error error
      | .ok item =>
          if item.isOption then .error (.nestedOption (String.ofList shown))
          else .ok (.option item) := by
  rw [read]
  split
  · rename_i held hheld
    cases h.symm.trans hheld
    rfl
  · rename_i hnone
    cases h.symm.trans hnone

theorem read_of_list {shown text inner : List Char}
    (hoption : bracketed? "option".toList text = none)
    (h : bracketed? "list".toList text = some inner) :
    read shown text = (read (Text.trim inner) (Text.trim inner)).map .list := by
  rw [read]
  split
  · rename_i hheld
    cases hoption.symm.trans hheld
  · split
    · rename_i held hheld
      cases h.symm.trans hheld
      rfl
    · rename_i hnone
      cases h.symm.trans hnone

theorem read_of_base {shown text : List Char}
    (hoption : bracketed? "option".toList text = none)
    (hlist : bracketed? "list".toList text = none) :
    read shown text =
      match ofBaseName? text with
      | some type => .ok type
      | none => .error (.unknown (String.ofList shown)) := by
  rw [read]
  split
  · rename_i hheld
    cases hoption.symm.trans hheld
  · split
    · rename_i hheld
      cases hlist.symm.trans hheld
    · rfl

theorem read_baseName {name : String} {type : FieldType} (h : (name, type) ∈ baseNames)
    (shown : List Char) : read shown name.toList = .ok type := by
  have hnames : ∀ entry ∈ baseNames,
      bracketed? "option".toList entry.1.toList = none ∧
        bracketed? "list".toList entry.1.toList = none ∧
        ofBaseName? entry.1.toList = some entry.2 := by
    decide +kernel
  obtain ⟨hoption, hlist, hbase⟩ := hnames _ h
  rw [read_of_base hoption hlist, hbase]

/-! ## The reader as a recursion -/

private theorem subset_of_bracketed? {word text inner : List Char}
    (h : bracketed? word text = some inner) : inner ⊆ text := by
  obtain ⟨gap, -, rfl⟩ := exists_of_bracketed? h
  intro character hcharacter
  simp [hcharacter]

/-- What stands in the brackets of a lower-cased text is in lower case. -/
private theorem parse_of_bracketed? {word text inner : List Char}
    (h : bracketed? word (Text.lowercase text) = some inner) :
    parse (String.ofList inner) = read (Text.trim inner) (Text.trim inner) := by
  have hlower : Text.trim inner ⊆ Text.lowercase text := fun _ hcharacter =>
    subset_of_bracketed? h (Text.mem_of_mem_trim hcharacter)
  rw [parse, String.toList_ofList, Text.lowercase_of_subset hlower]

/-- A text is trimmed and lower-cased, and what stands in its brackets is parsed in the same
way, although it is in lower case by then. -/
theorem parse_eq (text : String) :
    let trimmed := Text.trim text.toList
    let lower := Text.lowercase trimmed
    parse text =
      match bracketed? "option".toList lower with
      | some inner =>
          match parse (String.ofList inner) with
          | .error error => .error error
          | .ok item =>
              if item.isOption then .error (.nestedOption (String.ofList trimmed))
              else .ok (.option item)
      | none =>
          match bracketed? "list".toList lower with
          | some inner => (parse (String.ofList inner)).map .list
          | none =>
              match ofBaseName? lower with
              | some type => .ok type
              | none => .error (.unknown (String.ofList trimmed)) := by
  intro trimmed lower
  have hparse : parse text = read trimmed lower := rfl
  cases hoption : bracketed? "option".toList lower with
  | some inner => rw [hparse, read_of_option hoption, ← parse_of_bracketed? hoption]
  | none =>
      cases hlist : bracketed? "list".toList lower with
      | some inner => rw [hparse, read_of_list hoption hlist, ← parse_of_bracketed? hlist]
      | none => rw [hparse, read_of_base hoption hlist]

/-! ## Reading back -/

theorem read_spelling {type : FieldType} (h : type.nestsOption = false)
    (shown : List Char) : read shown type.spelling = .ok type := by
  induction type generalizing shown with
  | bool | f32 | f64 | string | uuid | timestamp | json =>
      exact read_baseName (by decide +kernel) shown
  | int type => cases type <;> exact read_baseName (by decide +kernel) shown
  | list item ih =>
      rw [spelling_list, read_of_list (bracketed?_option_list _) (bracketed?_append _ _),
        trim_spelling, ih h]
      rfl
  | option item ih =>
      simp only [nestsOption, Bool.or_eq_false_iff] at h
      rw [spelling_option, read_of_option (bracketed?_append _ _), trim_spelling, ih h.2]
      simp [h.1]

private theorem read_spelling_of_nestsOption {type : FieldType} (h : type.nestsOption = true)
    (shown : List Char) : ∃ text, read shown type.spelling = .error (.nestedOption text) := by
  induction type generalizing shown with
  | bool | int _ | f32 | f64 | string | uuid | timestamp | json => cases h
  | list item ih =>
      obtain ⟨text, hitem⟩ := ih h item.spelling
      rw [spelling_list, read_of_list (bracketed?_option_list _) (bracketed?_append _ _),
        trim_spelling, hitem]
      exact ⟨text, rfl⟩
  | option item ih =>
      rw [spelling_option, read_of_option (bracketed?_append _ _), trim_spelling]
      cases hitem : item.nestsOption with
      | true =>
          obtain ⟨text, herror⟩ := ih hitem item.spelling
          exact ⟨text, by rw [herror]⟩
      | false =>
          simp only [nestsOption, hitem, Bool.or_false] at h
          rw [read_spelling hitem]
          exact ⟨String.ofList shown, by simp [h]⟩

theorem parse_text_eq_read (type : FieldType) :
    parse type.text = read type.spelling type.spelling := by
  rw [parse, text, String.toList_ofList, trim_spelling,
    Text.lowercase_of_isPlain type.isPlain_spelling]

theorem parse_text_eq_ok {type : FieldType} (h : type.nestsOption = false) :
    parse type.text = .ok type := by
  rw [parse_text_eq_read, read_spelling h]

theorem parse_text_eq_error {type : FieldType} (h : type.nestsOption = true) :
    ∃ text, parse type.text = .error (.nestedOption text) := by
  rw [parse_text_eq_read]
  exact read_spelling_of_nestsOption h type.spelling

/-! ## What is read -/

private theorem nestsOption_of_ofBaseName? {name : List Char} {type : FieldType}
    (h : ofBaseName? name = some type) : type.nestsOption = false := by
  have hbase : ∀ entry ∈ baseNames, entry.2.nestsOption = false := by decide
  obtain ⟨entry, hentry, rfl⟩ := Option.map_eq_some_iff.mp h
  exact hbase entry (List.mem_of_find?_eq_some hentry)

private theorem nestsOption_of_read {shown text : List Char} {type : FieldType}
    (h : read shown text = .ok type) : type.nestsOption = false := by
  fun_induction read shown text generalizing type with
  | case1 | case2 | case6 => cases h
  | case3 shown text inner found item hitem hplain ih =>
      cases h
      simpa [nestsOption, ih hitem] using hplain
  | case4 shown text hoption inner found ih =>
      obtain ⟨item, hitem, rfl⟩ := Sequence.map_eq_ok_iff.mp h
      have hflat : item.nestsOption = false := ih hitem
      exact hflat
  | case5 shown text hoption hlist base hbase =>
      cases h
      exact nestsOption_of_ofBaseName? hbase

theorem nestsOption_of_parse {text : String} {type : FieldType}
    (h : parse text = .ok type) : type.nestsOption = false :=
  nestsOption_of_read h

/-! ## Round trips -/

theorem parse_text_eq_ok_iff {type : FieldType} :
    parse type.text = .ok type ↔ type.nestsOption = false :=
  ⟨nestsOption_of_parse, parse_text_eq_ok⟩

theorem exists_parse_text_eq_error_iff {type : FieldType} :
    (∃ shown, parse type.text = .error (.nestedOption shown)) ↔ type.nestsOption = true := by
  refine ⟨fun ⟨shown, herror⟩ => ?_, parse_text_eq_error⟩
  cases hnests : type.nestsOption with
  | true => rfl
  | false =>
      rw [parse_text_eq_ok hnests] at herror
      cases herror

/-- Types that can be read differ in their texts. -/
theorem text_injective {first second : FieldType} (hfirst : first.nestsOption = false)
    (hsecond : second.nestsOption = false) (h : first.text = second.text) : first = second := by
  have hparse := parse_text_eq_ok hfirst
  rw [h, parse_text_eq_ok hsecond] at hparse
  exact (Except.ok.inj hparse).symm

theorem parse_undoes_text :
    (∀ type : FieldType, parse type.text = .ok type ↔ type.nestsOption = false) ∧
    (∀ type : FieldType, (∃ shown, parse type.text = .error (.nestedOption shown)) ↔
      type.nestsOption = true) ∧
    (∀ type : FieldType, (∃ text, parse text = .ok type) ↔ type.nestsOption = false) ∧
    (∀ (left right : String) (first second : FieldType), parse left = .ok first →
      parse right = .ok second → first.text = second.text → first = second) ∧
    ∀ (text : String) (type : FieldType), parse text = .ok type →
      parse type.text = .ok type := by
  refine ⟨fun _ => parse_text_eq_ok_iff, fun _ => exists_parse_text_eq_error_iff, ?_, ?_, ?_⟩
  · intro type
    exact ⟨fun ⟨_, h⟩ => nestsOption_of_parse h, fun h => ⟨type.text, parse_text_eq_ok h⟩⟩
  · intro left right first second hfirst hsecond
    exact text_injective (nestsOption_of_parse hfirst) (nestsOption_of_parse hsecond)
  · intro text type h
    exact parse_text_eq_ok (nestsOption_of_parse h)

/-- The synonym and the capitals are not written again; the list of nested options is written
but not read. -/
theorem parse_undoes_text_synonym :
    parse " Option< TIMESTAMPTZ>" = .ok (.option .timestamp) ∧
      FieldType.text (.option .timestamp) = "option<timestamp>" ∧
      parse (FieldType.text (.option .timestamp)) = .ok (.option .timestamp) ∧
      ∃ shown, parse (FieldType.text (.list (.option (.option .bool)))) =
        .error (.nestedOption shown) := by
  obtain ⟨-, hrefuses, -, -, hagain⟩ := parse_undoes_text
  have hread : parse " Option< TIMESTAMPTZ>" = .ok (.option .timestamp) := by decide +kernel
  exact ⟨hread, by decide +kernel, hagain _ _ hread, (hrefuses _).mpr rfl⟩

end FieldType

end Reshape
