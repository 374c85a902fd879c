import Reshape.Json.Printer
import Reshape.Json.Scan

/-!
# Texts of JSON values

A value can be written with blanks between any two of its parts.  The compact and the
indented text are two of its texts.  Only values made of nulls and strings are dealt with.
-/

namespace Reshape.Json

/-! ## Grammar -/

def Gap (text : List Char) : Prop := ∀ character ∈ text, isSpace character = true

/-- The texts of a list whose elements have the texts `bodies`, up to its closing bracket. -/
inductive Listed (close : Char) : List (List Char) → List Char → Prop where
  | none {gap : List Char} : Gap gap → Listed close [] (gap ++ [close])
  | last {before body after : List Char} :
      Gap before → Gap after → Listed close [body] (before ++ (body ++ (after ++ [close])))
  | more {before body after next others : List Char} {bodies : List (List Char)} :
      Gap before → Gap after → Listed close (next :: bodies) others →
      Listed close (body :: next :: bodies) (before ++ (body ++ (after ++ ',' :: others)))

/-- The texts of a key with the colon after it. -/
def SpellsKey (key : String) (text : List Char) : Prop :=
  ∃ before after, Gap before ∧ Gap after ∧
    text = stringText key ++ (before ++ ':' :: after)

mutual

def Spells : Json → List Char → Prop
  | .null, text => text = "null".toList
  | .string value, text => text = stringText value
  | .array items, text =>
      ∃ bodies inner, SpellsItems items bodies ∧ Listed ']' bodies inner ∧
        text = '[' :: inner
  | .object members, text =>
      ∃ bodies inner, SpellsMembers members bodies ∧ Listed '\x7d' bodies inner ∧
        text = '\x7b' :: inner
  | .bool _, _ | .number _, _ => False

def SpellsItems : List Json → List (List Char) → Prop
  | [], bodies => bodies = []
  | item :: items, bodies =>
      ∃ body others, Spells item body ∧ SpellsItems items others ∧ bodies = body :: others

def SpellsMembers : List (String × Json) → List (List Char) → Prop
  | [], bodies => bodies = []
  | (key, value) :: members, bodies =>
      ∃ name body others, SpellsKey key name ∧ Spells value body ∧
        SpellsMembers members others ∧ bodies = (name ++ body) :: others

end

theorem gap_nil : Gap [] := by simp [Gap]

theorem gap_spaces (count : Nat) : Gap (List.replicate count ' ') := by
  intro character hcharacter
  rw [List.eq_of_mem_replicate hcharacter]
  decide

private theorem gap_newLine (level : Nat) : Gap (newLine level) :=
  List.forall_mem_cons.mpr ⟨by decide, gap_spaces (2 * level)⟩

/-! ## Starts of texts -/

/-- A text starts with neither a blank nor a closing bracket. -/
theorem Spells.first {json : Json} {text : List Char} (h : json.Spells text) :
    ∃ first others, text = first :: others ∧ isSpace first = false ∧ first ≠ ']' := by
  cases json with
  | bool _ | number _ => simp [Spells] at h
  | null =>
      rw [Spells] at h
      exact ⟨'n', "ull".toList, by simp [h], by decide, by decide⟩
  | string value =>
      rw [Spells] at h
      exact ⟨'"', value.toList.flatMap escapedChar ++ ['"'], by simp [h, stringText],
        by decide, by decide⟩
  | array items =>
      obtain ⟨-, inner, -, -, rfl⟩ := h
      exact ⟨'[', inner, rfl, by decide, by decide⟩
  | object members =>
      obtain ⟨-, inner, -, -, rfl⟩ := h
      exact ⟨'\x7b', inner, rfl, by decide, by decide⟩

theorem Listed.start {close : Char} {body text : List Char} {bodies : List (List Char)}
    (h : Listed close (body :: bodies) text) :
    ∃ before others, Gap before ∧ text = before ++ (body ++ others) ∧
      Listed close (body :: bodies) (body ++ others) := by
  cases h with
  | last hbefore hafter => exact ⟨_, _, hbefore, rfl, .last gap_nil hafter⟩
  | more hbefore hafter hothers => exact ⟨_, _, hbefore, rfl, .more gap_nil hafter hothers⟩

/-! ## Lists, written -/

/-- The bodies with commas between them and `before` in front of each. -/
def joined (before : List Char) : List (List Char) → List Char
  | [] => []
  | [body] => before ++ body
  | body :: bodies => before ++ body ++ [','] ++ joined before bodies

theorem listed_joined {close : Char} {before after : List Char} (hbefore : Gap before)
    (hafter : Gap after) (bodies : List (List Char)) :
    Listed close bodies (joined before bodies ++ (after ++ [close])) := by
  induction bodies with
  | nil => exact .none hafter
  | cons body bodies ih =>
      cases bodies with
      | nil => simpa [joined] using Listed.last hbefore hafter
      | cons next bodies => simpa [joined] using Listed.more hbefore gap_nil ih

private theorem compactItems_eq (items : List Json) :
    compactItems items = joined [] (items.map compact) := by
  induction items with
  | nil => rfl
  | cons item items ih =>
      cases items with
      | nil => simp [compactItems, joined]
      | cons next items => simpa [compactItems, joined] using ih

private theorem compactMembers_eq (members : List (String × Json)) :
    compactMembers members =
      joined [] (members.map fun member =>
        stringText member.1 ++ [':'] ++ member.2.compact) := by
  induction members with
  | nil => rfl
  | cons member members ih =>
      cases members with
      | nil => simp [compactMembers, joined]
      | cons next members => simpa [compactMembers, joined] using ih

private theorem indentedItems_eq (level : Nat) (items : List Json) :
    indentedItems level items = joined (newLine level) (items.map (indented level)) := by
  induction items with
  | nil => rfl
  | cons item items ih =>
      cases items with
      | nil => simp [indentedItems, joined]
      | cons next items => simpa [indentedItems, joined] using ih

private theorem indentedMembers_eq (level : Nat) (members : List (String × Json)) :
    indentedMembers level members =
      joined (newLine level) (members.map fun member =>
        stringText member.1 ++ [':', ' '] ++ member.2.indented level) := by
  induction members with
  | nil => rfl
  | cons member members ih =>
      cases members with
      | nil => simp [indentedMembers, joined]
      | cons next members => simpa [indentedMembers, joined] using ih

/-! ## Values, written -/

/-- Values without numbers and truth values. -/
inductive Textual : Json → Prop where
  | null : Textual .null
  | string (value : String) : Textual (.string value)
  | array {items : List Json} : (∀ item ∈ items, Textual item) → Textual (.array items)
  | object {members : List (String × Json)} :
      (∀ member ∈ members, Textual member.2) → Textual (.object members)

theorem spellsItems_map {items : List Json} {write : Json → List Char}
    (h : ∀ item ∈ items, item.Spells (write item)) : SpellsItems items (items.map write) := by
  induction items with
  | nil => rfl
  | cons item items ih =>
      rw [List.forall_mem_cons] at h
      exact ⟨_, _, h.1, ih h.2, rfl⟩

theorem spellsMembers_map {members : List (String × Json)} {write : Json → List Char}
    {gap : List Char} (hgap : Gap gap) (h : ∀ member ∈ members, member.2.Spells (write member.2)) :
    SpellsMembers members
      (members.map fun member => stringText member.1 ++ (':' :: gap) ++ write member.2) := by
  induction members with
  | nil => rfl
  | cons member members ih =>
      rw [List.forall_mem_cons] at h
      exact ⟨_, _, _, ⟨[], gap, gap_nil, hgap, rfl⟩, h.1, ih h.2, rfl⟩

theorem Textual.spells_compact {json : Json} (h : json.Textual) : json.Spells json.compact := by
  induction h with
  | null => rw [Spells, compact]
  | string value => rw [Spells, compact]
  | @array items _ ih =>
      refine ⟨_, _, spellsItems_map ih, listed_joined gap_nil gap_nil _, ?_⟩
      simp [compact, compactItems_eq]
  | @object members _ ih =>
      refine ⟨_, _, spellsMembers_map gap_nil ih, listed_joined gap_nil gap_nil _, ?_⟩
      simp [compact, compactMembers_eq]

theorem Textual.spells_indented {json : Json} (h : json.Textual) (level : Nat) :
    json.Spells (json.indented level) := by
  induction h generalizing level with
  | null => rw [Spells, indented]
  | string value => rw [Spells, indented]
  | @array items _ ih =>
      cases items with
      | nil => exact ⟨[], [']'], rfl, .none gap_nil, rfl⟩
      | cons item items =>
          have hvalues : ∀ held ∈ item :: items, held.Spells (held.indented (level + 1)) :=
            fun held hheld => ih held hheld (level + 1)
          refine ⟨_, _, spellsItems_map hvalues,
            listed_joined (gap_newLine (level + 1)) (gap_newLine level) _, ?_⟩
          simp [indented, indentedItems_eq]
  | @object members _ ih =>
      cases members with
      | nil => exact ⟨[], ['\x7d'], rfl, .none gap_nil, rfl⟩
      | cons member members =>
          have hvalues : ∀ held ∈ member :: members,
              held.2.Spells (held.2.indented (level + 1)) := fun held hheld =>
            ih held hheld (level + 1)
          refine ⟨_, _, spellsMembers_map (gap_spaces 1) hvalues,
            listed_joined (gap_newLine (level + 1)) (gap_newLine level) _, ?_⟩
          simp [indented, indentedMembers_eq]

end Reshape.Json
