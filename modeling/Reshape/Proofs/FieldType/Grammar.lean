import Reshape.Proofs.FieldType.Text

/-!
# The grammar of type texts

A text of a field type is a base name, or the word `option` or `list` followed by such a text
in angle brackets, with blanks around each part and the letters in either case.  The reader
accepts the texts of this grammar and no others: what it takes for the brackets of a type are
the first and the last one, and lower-casing makes no word out of other letters.
-/

namespace Reshape.FieldType

open Reshape.Text

/-! ## Words -/

def isBase : FieldType → Bool
  | .list _ | .option _ => false
  | _ => true

/-- Second names of base types. -/
def synonyms : List (String × FieldType) :=
  [("boolean", .bool), ("text", .string), ("timestamptz", .timestamp), ("jsonb", .json)]

/-- The names of the types without an item type. -/
inductive BaseName : String → FieldType → Prop where
  | own (type : FieldType) : type.isBase = true → BaseName type.text type
  | synonym {name : String} {type : FieldType} : (name, type) ∈ synonyms → BaseName name type

/-- The words before angle brackets, with the type that stands in them and the whole type. -/
inductive Wraps : String → FieldType → FieldType → Prop where
  | list (item : FieldType) : Wraps "list" item (.list item)
  | option {item : FieldType} : item.isOption = false → Wraps "option" item (.option item)

theorem baseName_iff {name : String} {type : FieldType} :
    BaseName name type ↔ (name, type) ∈ baseNames := by
  constructor
  · intro h
    cases h with
    | own type hbase =>
        cases type with
        | list item => cases hbase
        | option item => cases hbase
        | int type => cases type <;> decide +kernel
        | bool | f32 | f64 | string | uuid | timestamp | json => decide +kernel
    | synonym hname =>
        have hnames : ∀ entry ∈ synonyms, entry ∈ baseNames := by decide +kernel
        exact hnames _ hname
  · intro h
    have hnames : ∀ entry ∈ baseNames,
        (entry.2.isBase = true ∧ entry.2.text = entry.1) ∨ entry ∈ synonyms := by
      decide +kernel
    rcases hnames _ h with ⟨hbase, htext⟩ | hsynonym
    · obtain rfl : type.text = name := htext
      exact .own type hbase
    · exact .synonym hsynonym

/-- What a word is made of. -/
structure IsWord (word : List Char) : Prop where
  ne_nil : word ≠ []
  settled : ∀ character ∈ word, isSettled character = true
  solid : ∀ character ∈ word, isBlank character = false
  unbracketed : '<' ∉ word

theorem isWord_iff {word : List Char} :
    IsWord word ↔
      word ≠ [] ∧ word.all isSettled = true ∧ word.any isBlank = false ∧ '<' ∉ word := by
  rw [List.all_eq_true, List.any_eq_false]
  simp only [Bool.not_eq_true]
  exact ⟨fun h => ⟨h.ne_nil, h.settled, h.solid, h.unbracketed⟩,
    fun ⟨hne, hsettled, hsolid, hbracket⟩ => ⟨hne, hsettled, hsolid, hbracket⟩⟩

instance (word : List Char) : Decidable (IsWord word) := decidable_of_iff _ isWord_iff.symm

theorem BaseName.isWord {name : String} {type : FieldType} (h : BaseName name type) :
    IsWord name.toList := by
  have hnames : ∀ entry ∈ baseNames, IsWord entry.1.toList := by decide +kernel
  exact hnames _ (baseName_iff.mp h)

theorem Wraps.isWord {name : String} {item type : FieldType} (h : Wraps name item type) :
    IsWord name.toList := by
  cases h with
  | list => decide +kernel
  | option => decide +kernel

/-- A word in other case is a word. -/
theorem IsWord.of_map_toLower {word : List Char} (h : IsWord (word.map Char.toLower)) :
    IsWord word where
  ne_nil := by
    rintro rfl
    exact h.ne_nil rfl
  settled character hcharacter :=
    isSettled_of_toLower (h.settled _ (List.mem_map_of_mem hcharacter))
  solid character hcharacter := by
    rw [← isBlank_toLower]
    exact h.solid _ (List.mem_map_of_mem hcharacter)
  unbracketed hbracket := h.unbracketed (List.mem_map_of_mem (f := Char.toLower) hbracket)

theorem IsWord.trimmed {word : List Char} (h : IsWord word) : Trimmed word :=
  trimmed_of_forall h.solid

private theorem IsWord.ascii {word : List Char} (h : IsWord word) :
    ∀ character ∈ word, character.toNat < 0x80 := by
  intro character hcharacter
  rcases isSettled_iff.mp (h.settled character hcharacter) with ⟨hascii, -⟩ | hblank
  · exact hascii
  · rw [h.solid character hcharacter] at hblank
    cases hblank

/-! ## Words with a bracketed text -/

theorem map_toLower_bracketed (word gap inner : List Char) :
    (word ++ gap ++ '<' :: (inner ++ ['>'])).map Char.toLower =
      word.map Char.toLower ++ gap.map Char.toLower ++
        '<' :: (inner.map Char.toLower ++ ['>']) := by
  rw [List.map_append, List.map_append, List.map_cons, List.map_append]
  rfl

private theorem exists_bracketed {text word gap inner : List Char}
    (h : text.map Char.toLower =
      word.map Char.toLower ++ gap.map Char.toLower ++
        '<' :: (inner.map Char.toLower ++ ['>'])) :
    ∃ word' gap' inner', text = word' ++ gap' ++ '<' :: (inner' ++ ['>']) ∧
      word'.map Char.toLower = word.map Char.toLower ∧
      gap'.map Char.toLower = gap.map Char.toLower ∧
      inner'.map Char.toLower = inner.map Char.toLower := by
  obtain ⟨start, rest, rfl, hstart, hrest⟩ := List.map_eq_append_iff.mp h
  obtain ⟨word', gap', rfl, hword, hgap⟩ := List.map_eq_append_iff.mp hstart
  obtain ⟨first, tail, rfl, hfirst, htail⟩ := List.map_eq_cons_iff.mp hrest
  obtain ⟨inner', closing, rfl, hinner, hclosing⟩ := List.map_eq_append_iff.mp htail
  obtain ⟨last, rfl, hlast⟩ := List.map_eq_singleton_iff.mp hclosing
  obtain rfl := eq_of_toLower_eq_bracket.1 hfirst
  obtain rfl := eq_of_toLower_eq_bracket.2 hlast
  exact ⟨word', gap', inner', rfl, hword, hgap, hinner⟩

theorem trimmed_bracketed {word : List Char} (hword : IsWord word) (gap inner : List Char) :
    Trimmed (word ++ gap ++ '<' :: (inner ++ ['>'])) := by
  obtain ⟨first, rest, rfl⟩ := List.exists_cons_of_ne_nil hword.ne_nil
  refine ⟨fun character hcharacter => ?_, fun character hcharacter => ?_⟩
  · obtain rfl : first = character := by simpa using hcharacter
    exact hword.solid first (by simp)
  · rw [← List.cons_append, ← List.append_assoc, List.getLast?_concat] at hcharacter
    cases hcharacter
    decide

/-- The first opening bracket is where the bracketed text begins. -/
private theorem bracketed_inj {word gap inner word' gap' inner' : List Char} (hword : IsWord word)
    (hgap : AllBlank gap) (hword' : IsWord word') (hgap' : AllBlank gap')
    (h : word ++ gap ++ '<' :: (inner ++ ['>']) = word' ++ gap' ++ '<' :: (inner' ++ ['>'])) :
    word = word' ∧ gap = gap' ∧ inner = inner' := by
  have hopen {word gap : List Char} (hword : IsWord word) (hgap : AllBlank gap) :
      '<' ∉ word ++ gap := by
    rw [List.mem_append]
    rintro (hmark | hmark)
    · exact hword.unbracketed hmark
    · exact absurd (hgap _ hmark) (by decide)
  obtain ⟨hstart, hrest⟩ :=
    append_cons_inj_of_not_mem (hopen hword hgap) (hopen hword' hgap') h
  obtain ⟨-, hwords, hgaps⟩ := append_inj_of_trimmed allBlank_nil hgap hword.trimmed
    allBlank_nil hgap' hword'.trimmed hword.ne_nil hstart
  exact ⟨hwords, hgaps, List.append_cancel_right hrest⟩

/-! ## Phrases -/

/-- A type as it stands in a text: its words, and what is between them. -/
inductive Phrase where
  | base (before word after : List Char)
  | wrapped (before word gap : List Char) (item : Phrase) (after : List Char)

namespace Phrase

def text : Phrase → List Char
  | .base before word after => before ++ word ++ after
  | .wrapped before word gap item after =>
      before ++ (word ++ gap ++ '<' :: (item.text ++ ['>'])) ++ after

/-- The words and the angle brackets. -/
def marks : Phrase → List Char
  | .base _ word _ => word
  | .wrapped _ word _ item _ => word ++ '<' :: (item.marks ++ ['>'])

/-- The type that a phrase of the grammar stands for. -/
inductive Reads : Phrase → FieldType → Prop where
  | base {before word after : List Char} {name : String} {type : FieldType} :
      AllBlank before → AllBlank after → BaseName name type →
      word.map Char.toLower = name.toList → Reads (.base before word after) type
  | wrapped {before word gap after : List Char} {name : String} {inner : Phrase}
      {item type : FieldType} :
      AllBlank before → AllBlank gap → AllBlank after → Wraps name item type →
      word.map Char.toLower = name.toList → inner.Reads item →
      Reads (.wrapped before word gap inner after) type

/-- The words of `other` are those of `phrase` but for the case of ASCII letters, and nothing
but blanks is between them. -/
inductive Respells : Phrase → Phrase → Prop where
  | base {before word after before' word' after' : List Char} :
      AllBlank before' → AllBlank after' →
      word'.map Char.toLower = word.map Char.toLower →
      Respells (.base before word after) (.base before' word' after')
  | wrapped {before word gap after before' word' gap' after' : List Char}
      {inner inner' : Phrase} :
      AllBlank before' → AllBlank gap' → AllBlank after' →
      word'.map Char.toLower = word.map Char.toLower → inner.Respells inner' →
      Respells (.wrapped before word gap inner after) (.wrapped before' word' gap' inner' after')

variable {phrase other : Phrase} {type : FieldType}

/-! ## Other spellings -/

theorem Reads.respell (h : phrase.Reads type) (hrespells : phrase.Respells other) :
    other.Reads type := by
  induction h generalizing other with
  | base _ _ hname hword =>
      cases hrespells with
      | base hbefore hafter hsame => exact .base hbefore hafter hname (hsame.trans hword)
  | wrapped _ _ _ hwraps hword _ ih =>
      cases hrespells with
      | wrapped hbefore hgap hafter hsame hinner =>
          exact .wrapped hbefore hgap hafter hwraps (hsame.trans hword) (ih hinner)

/-- A text in other case is a phrase in other case. -/
private theorem Reads.exists_respells (h : phrase.Reads type) {text : List Char}
    (htext : text.map Char.toLower = phrase.text.map Char.toLower) :
    ∃ other, phrase.Respells other ∧ other.text = text := by
  induction h generalizing text with
  | base hbefore hafter _ _ =>
      rw [Phrase.text, List.map_append, List.map_append] at htext
      obtain ⟨start, after', rfl, hstart, hafter'⟩ := List.map_eq_append_iff.mp htext
      obtain ⟨before', word', rfl, hbefore', hword'⟩ := List.map_eq_append_iff.mp hstart
      exact ⟨.base before' word' after',
        .base (hbefore.of_toLower_eq hbefore') (hafter.of_toLower_eq hafter') hword', rfl⟩
  | wrapped hbefore hgap hafter _ _ _ ih =>
      rw [Phrase.text, List.map_append, List.map_append, map_toLower_bracketed] at htext
      obtain ⟨start, after', rfl, hstart, hafter'⟩ := List.map_eq_append_iff.mp htext
      obtain ⟨before', core', rfl, hbefore', hcore'⟩ := List.map_eq_append_iff.mp hstart
      obtain ⟨word', gap', inner', rfl, hword', hgap', hinner'⟩ := exists_bracketed hcore'
      obtain ⟨item', hitem', rfl⟩ := ih hinner'
      exact ⟨.wrapped before' word' gap' item' after',
        .wrapped (hbefore.of_toLower_eq hbefore') (hgap.of_toLower_eq hgap')
          (hafter.of_toLower_eq hafter') hword' hitem', rfl⟩

/-! ## Characters -/

theorem Reads.isSettled (h : phrase.Reads type) :
    ∀ character ∈ phrase.text, isSettled character = true := by
  induction h with
  | base hbefore hafter hname hword =>
      have hsettled := (IsWord.of_map_toLower (hword ▸ hname.isWord)).settled
      simp only [Phrase.text, List.forall_mem_append]
      exact ⟨⟨hbefore.isSettled, hsettled⟩, hafter.isSettled⟩
  | wrapped hbefore hgap hafter hwraps hword _ ih =>
      have hsettled := (IsWord.of_map_toLower (hword ▸ hwraps.isWord)).settled
      simp only [Phrase.text, List.forall_mem_append, List.forall_mem_cons]
      exact ⟨⟨hbefore.isSettled, ⟨hsettled, hgap.isSettled⟩, by decide, ih,
        by decide, List.forall_mem_nil _⟩, hafter.isSettled⟩

private theorem Reads.ascii_marks (h : phrase.Reads type) :
    ∀ character ∈ phrase.marks, character.toNat < 0x80 := by
  induction h with
  | base _ _ hname hword => exact (IsWord.of_map_toLower (hword ▸ hname.isWord)).ascii
  | wrapped _ _ _ hwraps hword _ ih =>
      simp only [Phrase.marks, List.forall_mem_append, List.forall_mem_cons]
      exact ⟨(IsWord.of_map_toLower (hword ▸ hwraps.isWord)).ascii, by decide, ih,
        by decide, List.forall_mem_nil _⟩

/-! ## One reading -/

theorem Reads.eq_of_text {otherType : FieldType} (h : phrase.Reads type)
    (hother : other.Reads otherType) (htext : phrase.text = other.text) : phrase = other := by
  induction h generalizing other otherType with
  | base hbefore hafter hname hword =>
      have hisWord := IsWord.of_map_toLower (hword ▸ hname.isWord)
      cases hother with
      | base hbefore' hafter' hname' hword' =>
          have hisWord' := IsWord.of_map_toLower (hword' ▸ hname'.isWord)
          obtain ⟨rfl, rfl, rfl⟩ := append_inj_of_trimmed hbefore hafter hisWord.trimmed
            hbefore' hafter' hisWord'.trimmed hisWord.ne_nil htext
          rfl
      | wrapped hbefore' _ hafter' hwraps' hword' _ =>
          have hisWord' := IsWord.of_map_toLower (hword' ▸ hwraps'.isWord)
          obtain ⟨-, rfl, -⟩ := append_inj_of_trimmed hbefore hafter hisWord.trimmed
            hbefore' hafter' (trimmed_bracketed hisWord' _ _) hisWord.ne_nil htext
          exact absurd (by simp) hisWord.unbracketed
  | wrapped hbefore hgap hafter hwraps hword _ ih =>
      have hisWord := IsWord.of_map_toLower (hword ▸ hwraps.isWord)
      have htrimmed := trimmed_bracketed hisWord
      cases hother with
      | base hbefore' hafter' hname' hword' =>
          have hisWord' := IsWord.of_map_toLower (hword' ▸ hname'.isWord)
          obtain ⟨-, rfl, -⟩ := append_inj_of_trimmed hbefore hafter (htrimmed _ _)
            hbefore' hafter' hisWord'.trimmed (by simp) htext
          exact absurd (by simp) hisWord'.unbracketed
      | wrapped hbefore' hgap' hafter' hwraps' hword' hinner' =>
          have hisWord' := IsWord.of_map_toLower (hword' ▸ hwraps'.isWord)
          obtain ⟨rfl, hcore, rfl⟩ := append_inj_of_trimmed hbefore hafter (htrimmed _ _)
            hbefore' hafter' (trimmed_bracketed hisWord' _ _) (by simp) htext
          obtain ⟨rfl, rfl, hinner⟩ := bracketed_inj hisWord hgap hisWord' hgap' hcore
          rw [ih hinner' hinner]

end Phrase

/-! ## Texts of the grammar -/

def Derives (text : List Char) (type : FieldType) : Prop :=
  ∃ phrase : Phrase, phrase.Reads type ∧ phrase.text = text

/-! ## Reading -/

private theorem Derives.pad {text : List Char} {type : FieldType} (h : Derives text type)
    {before after : List Char} (hbefore : AllBlank before) (hafter : AllBlank after) :
    Derives (before ++ text ++ after) type := by
  obtain ⟨phrase, hreads, rfl⟩ := h
  cases hreads with
  | base hfirst hlast hname hword =>
      exact ⟨_, .base (hbefore.append hfirst) (hlast.append hafter) hname hword,
        by simp only [Phrase.text, List.append_assoc]⟩
  | wrapped hfirst hgap hlast hwraps hword hinner =>
      exact ⟨_, .wrapped (hbefore.append hfirst) hgap (hlast.append hafter) hwraps hword hinner,
        by simp only [Phrase.text, List.append_assoc]⟩

theorem Derives.of_trim {text : List Char} {type : FieldType} (h : Derives (trim text) type) :
    Derives text type := by
  obtain ⟨before, after, htext, hbefore, hafter⟩ := exists_trim text
  rw [htext]
  exact h.pad hbefore hafter

private theorem derives_of_ofBaseName? {text : List Char} {type : FieldType}
    (h : ofBaseName? text = some type) : Derives text type := by
  have hlower : ∀ entry ∈ baseNames, entry.1.toList.map Char.toLower = entry.1.toList := by
    decide +kernel
  obtain ⟨⟨name, base⟩, hentry, rfl⟩ := Option.map_eq_some_iff.mp h
  have hname := List.mem_of_find?_eq_some hentry
  obtain rfl : name.toList = text := by simpa using List.find?_some hentry
  exact ⟨.base [] name.toList [],
    .base allBlank_nil allBlank_nil (baseName_iff.mpr hname) (hlower _ hname),
    by simp [Phrase.text]⟩

private theorem derives_of_bracketed? {name : String} {item type : FieldType}
    (hwraps : Wraps name item type) {text inner : List Char}
    (htext : bracketed? name.toList text = some inner) (h : Derives (trim inner) item) :
    Derives text type := by
  have hlower : name.toList.map Char.toLower = name.toList := by
    cases hwraps <;> decide +kernel
  obtain ⟨gap, hgap, rfl⟩ := exists_of_bracketed? htext
  obtain ⟨phrase, hreads, rfl⟩ := h.of_trim
  exact ⟨.wrapped [] name.toList gap phrase [],
    .wrapped allBlank_nil hgap allBlank_nil hwraps hlower hreads, by simp [Phrase.text]⟩

private theorem derives_of_read {shown text : List Char} {type : FieldType}
    (h : read shown text = .ok type) : Derives text type := by
  fun_induction read shown text generalizing type with
  | case1 | case2 | case6 => cases h
  | case3 shown text inner found item hitem hplain ih =>
      cases h
      exact derives_of_bracketed? (.option (by simpa using hplain)) found (ih hitem)
  | case4 shown text hoption inner found ih =>
      obtain ⟨item, hitem, rfl⟩ := Sequence.map_eq_ok_iff.mp h
      exact derives_of_bracketed? (.list item) found (ih hitem)
  | case5 shown text hoption hlist base hbase =>
      cases h
      exact derives_of_ofBaseName? hbase

private theorem Wraps.read_eq {name : String} {item type : FieldType} (h : Wraps name item type)
    {gap inner : List Char} (hgap : AllBlank gap)
    (hinner : ∀ shown, read shown (trim inner) = .ok item) (shown : List Char) :
    read shown (name.toList ++ gap ++ '<' :: (inner ++ ['>'])) = .ok type := by
  cases h with
  | list =>
      have hoption : bracketed? "option".toList
          ("list".toList ++ gap ++ '<' :: (inner ++ ['>'])) = none := by
        rw [List.append_assoc]
        exact bracketed?_option_list _
      rw [read_of_list hoption (bracketed?_gap _ hgap _), hinner]
      rfl
  | option hplain =>
      rw [read_of_option (bracketed?_gap _ hgap _), hinner]
      simp [hplain]

theorem Phrase.Reads.read_eq {phrase : Phrase} {type : FieldType} (h : phrase.Reads type)
    (shown : List Char) : read shown (trim (phrase.text.map Char.toLower)) = .ok type := by
  induction h generalizing shown with
  | base hbefore hafter hname hword =>
      rw [text, List.map_append, List.map_append, hbefore.map_toLower, hafter.map_toLower, hword,
        trim_append hbefore hafter hname.isWord.trimmed]
      exact read_baseName (baseName_iff.mp hname) shown
  | wrapped hbefore hgap hafter hwraps hword _ ih =>
      rw [text, List.map_append, List.map_append, hbefore.map_toLower, hafter.map_toLower,
        map_toLower_bracketed, hgap.map_toLower, hword,
        trim_append hbefore hafter (trimmed_bracketed hwraps.isWord _ _)]
      exact hwraps.read_eq hgap ih shown

theorem Derives.of_toLower_eq {text other : List Char} {type : FieldType}
    (h : Derives text type) (hsame : other.map Char.toLower = text.map Char.toLower) :
    Derives other type := by
  obtain ⟨phrase, hreads, rfl⟩ := h
  obtain ⟨respelled, hrespells, rfl⟩ := hreads.exists_respells hsame
  exact ⟨respelled, hreads.respell hrespells, rfl⟩

private theorem Derives.of_lowercase {text : List Char} {type : FieldType}
    (h : Derives (lowercase text) type) : Derives text type := by
  have hsettled : ∀ lower ∈ lowercase text, isSettled lower = true := by
    obtain ⟨phrase, hreads, htext⟩ := h
    rw [← htext]
    exact hreads.isSettled
  rw [lowercase_eq_map hsettled] at h
  exact h.of_toLower_eq (map_toLower_map_toLower text).symm

private theorem Derives.parse_eq {text : String} {type : FieldType} (h : Derives text.toList type) :
    parse text = .ok type := by
  obtain ⟨phrase, hreads, htext⟩ := h
  have hascii : ∀ character ∈ trim text.toList,
      character.toNat < 0x80 ∨ isBlank character = true := by
    rw [← htext]
    exact fun character hcharacter =>
      ascii_or_blank_of_isSettled (hreads.isSettled character (mem_of_mem_trim hcharacter))
  rw [parse, lowercase_of_ascii_or_blank hascii, ← trim_map_toLower, ← htext]
  exact hreads.read_eq _

theorem parse_eq_ok_iff {text : String} {type : FieldType} :
    parse text = .ok type ↔ Derives text.toList type :=
  ⟨fun h => (derives_of_read h).of_lowercase.of_trim, Derives.parse_eq⟩

theorem parse_grammar :
    (∀ text type, parse text = .ok type ↔ Derives text.toList type) ∧
    (∀ text, (∃ error, parse text = .error error) ↔ ¬∃ type, Derives text.toList type) ∧
    (∀ (first second : Phrase) (type other : FieldType), first.Reads type →
      second.Reads other → first.text = second.text → first = second ∧ type = other) ∧
    (∀ left right : String, left.toList.map Char.toLower = right.toList.map Char.toLower →
      ∀ type, parse left = .ok type ↔ parse right = .ok type) ∧
    (∀ (phrase other : Phrase) (type : FieldType), phrase.Reads type →
      phrase.Respells other →
      parse (String.ofList phrase.text) = .ok type ∧
        parse (String.ofList other.text) = .ok type) ∧
    (∀ (phrase : Phrase) (type : FieldType), phrase.Reads type →
      ∀ character ∈ phrase.marks, character.toNat < 0x80) ∧
    ∀ text type, parse text = .ok type → type.nestsOption = false := by
  refine ⟨fun _ _ => parse_eq_ok_iff, ?_, ?_, ?_, ?_, fun _ _ h => h.ascii_marks,
    fun _ _ => nestsOption_of_parse⟩
  · intro text
    simp only [← parse_eq_ok_iff]
    cases parse text with
    | ok type => simp
    | error error => simp
  · intro first second type other hfirst hsecond htext
    have hsame : Except.ok type = (.ok other : Except TypeTextError FieldType) := by
      rw [← hfirst.read_eq [], htext, hsecond.read_eq []]
    exact ⟨hfirst.eq_of_text hsecond htext, Except.ok.inj hsame⟩
  · intro left right hsame type
    rw [parse_eq_ok_iff, parse_eq_ok_iff]
    exact ⟨fun h => h.of_toLower_eq hsame.symm, fun h => h.of_toLower_eq hsame⟩
  · intro phrase other type hreads hrespells
    have hparse {phrase : Phrase} (h : phrase.Reads type) :
        parse (String.ofList phrase.text) = .ok type :=
      parse_eq_ok_iff.mpr ⟨phrase, h, String.toList_ofList.symm⟩
    exact ⟨hparse hreads, hparse (hreads.respell hrespells)⟩

/-- Capitals and blanks at each place where they may stand. -/
theorem parse_grammar_spaced :
    let name : Phrase := .base ['\t'] "U8".toList [' ']
    let phrase : Phrase := .wrapped [] "List".toList ['\u00a0'] name ['\n']
    let plain : Phrase := .wrapped [] "list".toList [] (.base [] "u8".toList []) []
    phrase.Reads (.list (.int .u8)) ∧ phrase.Respells plain ∧
      parse "List\u00a0<\tU8 >\n" = .ok (.list (.int .u8)) ∧
      parse "list<u8>" = .ok (.list (.int .u8)) ∧
      ∀ character ∈ phrase.marks, character.toNat < 0x80 := by
  intro name phrase plain
  obtain ⟨-, -, -, -, hrespelled, hmarks, -⟩ := parse_grammar
  have hname : name.Reads (.int .u8) :=
    .base (by decide) (by decide) (.own (.int .u8) rfl) (by decide +kernel)
  have hphrase : phrase.Reads (.list (.int .u8)) :=
    .wrapped (by decide) (by decide) (by decide) (.list _) (by decide +kernel) hname
  have hplain : phrase.Respells plain :=
    .wrapped (by decide) (by decide) (by decide) (by decide +kernel)
      (.base (by decide) (by decide) (by decide +kernel))
  obtain ⟨hfirst, hsecond⟩ := hrespelled _ _ _ hphrase hplain
  exact ⟨hphrase, hplain, hfirst, hsecond, hmarks _ _ hphrase⟩

end Reshape.FieldType
