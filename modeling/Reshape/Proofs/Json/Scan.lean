import Mathlib.Data.List.TakeWhile
import Reshape.Proofs.Json.Spelling
import Reshape.Proofs.Json.Strings

/-!
# Texts of JSON values, scanned

The scan of a text of a value gives the draft of the value, without a fault, and leaves
what follows the text.  Each nested call of the scan has gone past a character at least of
the text, so that twice its length is a sufficient number of steps.
-/

namespace Reshape.Json

/-! ## Drafts of values -/

mutual

/-- The draft of a value from a text without faults. -/
def Draft.ofJson : Json → Draft
  | .null => .null
  | .bool value => .bool value
  | .number value => .number (.ok value)
  | .string value => .string (.ok value)
  | .array items => .array (ofItems items) none
  | .object members => .object (ofMembers members) none

def Draft.ofItems : List Json → List Draft
  | [] => []
  | item :: items => ofJson item :: ofItems items

def Draft.ofMembers : List (String × Json) → List (Except Fault String × Draft)
  | [] => []
  | (key, value) :: members => (.ok key, ofJson value) :: ofMembers members

end

/-! ## Starts of values -/

section Starts

variable {steps : Nat} {gap inner rest : List Char} {first : Char}

theorem skipSpace_gap (h : Gap gap) (hfirst : isSpace first = false) :
    skipSpace (gap ++ first :: rest) = first :: rest := by
  rw [skipSpace, List.dropWhile_append_of_pos h,
    List.dropWhile_cons_of_neg (by simp [hfirst])]

private theorem scanValue_null (h : Gap gap) :
    scanValue (steps + 1) (gap ++ ("null".toList ++ rest)) = (.null, some rest) := by
  have htext : "null".toList ++ rest = 'n' :: ("ull".toList ++ rest) := by simp
  rw [htext, scanValue, skipSpace_gap h (by decide)]
  rfl

private theorem scanValue_string (h : Gap gap) (value : String) :
    scanValue (steps + 1) (gap ++ (stringText value ++ rest)) =
      (.string (.ok value), some rest) := by
  rw [stringText_append, scanValue, skipSpace_gap h (by decide)]
  simp only [scanString_escaped]

private theorem scanValue_array_nil (h : Gap gap) (hinner : Gap inner) :
    scanValue (steps + 1) (gap ++ '[' :: (inner ++ ']' :: rest)) =
      (.array [] none, some rest) := by
  have hclose : skipSpace (inner ++ ']' :: rest) = ']' :: rest :=
    skipSpace_gap hinner (by decide)
  rw [scanValue, skipSpace_gap h (by decide)]
  simp only [hclose]

theorem scanValue_array_cons (h : Gap gap) (hinner : Gap inner)
    (hfirst : isSpace first = false) (hopen : first ≠ ']') :
    scanValue (steps + 1) (gap ++ '[' :: (inner ++ first :: rest)) =
      match scanItems steps (first :: rest) with
      | (items, ending, rest) => (.array items ending, rest) := by
  rw [scanValue, skipSpace_gap h (by decide)]
  simp only [skipSpace_gap hinner hfirst]
  split
  · rename_i hnil
    cases hnil
  · rename_i hclose
    cases hclose
    exact absurd rfl hopen
  · rfl

private theorem scanValue_object_nil (h : Gap gap) (hinner : Gap inner) :
    scanValue (steps + 1) (gap ++ '\x7b' :: (inner ++ '\x7d' :: rest)) =
      (.object [] none, some rest) := by
  have hclose : skipSpace (inner ++ '\x7d' :: rest) = '\x7d' :: rest :=
    skipSpace_gap hinner (by decide)
  rw [scanValue, skipSpace_gap h (by decide)]
  simp only [hclose]

theorem scanValue_object_cons (h : Gap gap) (hinner : Gap inner) :
    scanValue (steps + 1) (gap ++ '\x7b' :: (inner ++ '"' :: rest)) =
      match scanMembers steps rest with
      | (members, ending, rest) => (.object members ending, rest) := by
  have hquote : skipSpace (inner ++ '"' :: rest) = '"' :: rest :=
    skipSpace_gap hinner (by decide)
  rw [scanValue, skipSpace_gap h (by decide)]
  simp only [hquote]

end Starts

/-! ## Elements of lists -/

section Elements

variable {steps : Nat} {before after text others rest : List Char} {first : Char}
  {draft : Draft}

private theorem scanItems_last (h : scanValue steps text = (draft, some (after ++ ']' :: rest)))
    (hafter : Gap after) : scanItems (steps + 1) text = ([draft], none, some rest) := by
  have hclose : skipSpace (after ++ ']' :: rest) = ']' :: rest :=
    skipSpace_gap hafter (by decide)
  simp only [scanItems, h, hclose]

private theorem scanItems_more
    (h : scanValue steps text = (draft, some (after ++ ',' :: (before ++ first :: others))))
    (hafter : Gap after) (hbefore : Gap before) (hfirst : isSpace first = false)
    (hopen : first ≠ ']') :
    scanItems (steps + 1) text =
      match scanItems steps (first :: others) with
      | (items, ending, rest) => (draft :: items, ending, rest) := by
  have hcomma : skipSpace (after ++ ',' :: (before ++ first :: others)) =
      ',' :: (before ++ first :: others) :=
    skipSpace_gap hafter (by decide)
  simp only [scanItems, h, hcomma, skipSpace_gap hbefore hfirst]
  split
  · rename_i hnil
    cases hnil
  · rename_i hclose
    cases hclose
    exact absurd rfl hopen
  · rfl

private theorem scanMembers_last (key : String) (hbefore : Gap before) (hafter : Gap after)
    (h : scanValue steps text = (draft, some (after ++ '\x7d' :: rest))) :
    scanMembers (steps + 1)
        (key.toList.flatMap escapedChar ++ '"' :: (before ++ ':' :: text)) =
      ([(.ok key, draft)], none, some rest) := by
  have hcolon : skipSpace (before ++ ':' :: text) = ':' :: text :=
    skipSpace_gap hbefore (by decide)
  have hclose : skipSpace (after ++ '\x7d' :: rest) = '\x7d' :: rest :=
    skipSpace_gap hafter (by decide)
  simp only [scanMembers, scanString_escaped, hcolon, h, hclose]

private theorem scanMembers_more (key : String) (hbefore : Gap before) (hafter : Gap after)
    {space : List Char} (hspace : Gap space)
    (h : scanValue steps text = (draft, some (after ++ ',' :: (space ++ '"' :: others)))) :
    scanMembers (steps + 1)
        (key.toList.flatMap escapedChar ++ '"' :: (before ++ ':' :: text)) =
      match scanMembers steps others with
      | (members, ending, rest) => ((.ok key, draft) :: members, ending, rest) := by
  have hcolon : skipSpace (before ++ ':' :: text) = ':' :: text :=
    skipSpace_gap hbefore (by decide)
  have hcomma : skipSpace (after ++ ',' :: (space ++ '"' :: others)) =
      ',' :: (space ++ '"' :: others) :=
    skipSpace_gap hafter (by decide)
  have hquote : skipSpace (space ++ '"' :: others) = '"' :: others :=
    skipSpace_gap hspace (by decide)
  simp only [scanMembers, scanString_escaped, hcolon, h, hcomma, hquote]

end Elements

/-! ## Values -/

/-- So many steps are enough for the texts of values that are not longer than half of it. -/
def ScansValues (steps : Nat) : Prop :=
  ∀ (json : Json) (text gap rest : List Char), json.Spells text → Gap gap →
    2 * text.length ≤ steps →
    scanValue steps (gap ++ (text ++ rest)) = (.ofJson json, some rest)

def ScansItems (steps : Nat) : Prop :=
  ∀ (items : List Json) (body : List Char) (bodies : List (List Char))
    (text rest : List Char),
    SpellsItems items (body :: bodies) → Listed ']' (body :: bodies) text →
    2 * text.length ≤ steps →
    scanItems steps (text ++ rest) = (Draft.ofItems items, none, some rest)

/-- The quotation mark before the first key has been read. -/
def ScansMembers (steps : Nat) : Prop :=
  ∀ (members : List (String × Json)) (body : List Char) (bodies : List (List Char))
    (text rest : List Char),
    SpellsMembers members (body :: bodies) → Listed '\x7d' (body :: bodies) ('"' :: text) →
    2 * text.length ≤ steps →
    scanMembers steps (text ++ rest) = (Draft.ofMembers members, none, some rest)

private theorem spellsItems_nil {items : List Json} (h : SpellsItems items []) : items = [] := by
  cases items with
  | nil => rfl
  | cons item items =>
      obtain ⟨_, _, _, _, hcons⟩ := h
      cases hcons

private theorem spellsMembers_nil {members : List (String × Json)} (h : SpellsMembers members []) :
    members = [] := by
  cases members with
  | nil => rfl
  | cons member members =>
      obtain ⟨_, _, _, _, _, _, hcons⟩ := h
      cases hcons

theorem exists_of_spellsMembers_cons {key : String} {value : Json}
    {members : List (String × Json)} {bodies : List (List Char)}
    (h : SpellsMembers ((key, value) :: members) bodies) :
    ∃ before after body others, Gap before ∧ Gap after ∧ value.Spells body ∧
      SpellsMembers members others ∧
      bodies = ('"' :: (key.toList.flatMap escapedChar ++
        '"' :: (before ++ ':' :: (after ++ body)))) :: others := by
  obtain ⟨-, body, others, ⟨before, after, hbefore, hafter, rfl⟩, hvalue, hothers, rfl⟩ := h
  exact ⟨before, after, body, others, hbefore, hafter, hvalue, hothers, by simp [stringText]⟩

/-- The text of a member starts with the quotation mark of its key. -/
theorem exists_quote_of_spellsMembers {members : List (String × Json)} {body : List Char}
    {bodies : List (List Char)} (h : SpellsMembers members (body :: bodies)) :
    ∃ inner, body = '"' :: inner := by
  cases members with
  | nil => cases h
  | cons member members =>
      obtain ⟨_, _, _, _, -, -, -, -, hcons⟩ := exists_of_spellsMembers_cons h
      cases hcons
      exact ⟨_, rfl⟩

private theorem Gap.eq_nil {before text others : List Char} (h : Gap before)
    (htext : '"' :: text = before ++ others) : before = [] := by
  cases before with
  | nil => rfl
  | cons first before =>
      obtain ⟨rfl, -⟩ := List.cons_eq_cons.mp htext
      exact absurd (h '"' (by simp)) (by decide)

variable {steps : Nat}

private theorem scansValues_succ (hitems : ScansItems steps) (hmembers : ScansMembers steps) :
    ScansValues (steps + 1) := by
  intro json text gap rest hspells hgap hsteps
  cases json with
  | bool _ | number _ => simp [Spells] at hspells
  | null =>
      rw [Spells] at hspells
      subst hspells
      exact scanValue_null hgap
  | string value =>
      rw [Spells] at hspells
      subst hspells
      exact scanValue_string hgap value
  | array items =>
      obtain ⟨bodies, inner, hbodies, hinner, rfl⟩ := hspells
      cases items with
      | nil =>
          cases hbodies
          obtain ⟨hinner⟩ := hinner
          simpa [Draft.ofJson, Draft.ofItems] using scanValue_array_nil hgap hinner
      | cons item items =>
          obtain ⟨body, bodies, hitem, hrest, rfl⟩ := hbodies
          obtain ⟨before, others, hbefore, rfl, hstart⟩ := hinner.start
          obtain ⟨first, more, rfl, hfirst, hopen⟩ := hitem.first
          have hscan := hitems (item :: items) _ bodies _ rest ⟨_, _, hitem, hrest, rfl⟩
            hstart (by simp at hsteps ⊢; omega)
          simp only [List.append_assoc, List.cons_append] at hscan ⊢
          rw [scanValue_array_cons hgap hbefore hfirst hopen, hscan]
          rfl
  | object members =>
      obtain ⟨bodies, inner, hbodies, hinner, rfl⟩ := hspells
      cases members with
      | nil =>
          cases hbodies
          obtain ⟨hinner⟩ := hinner
          simpa [Draft.ofJson, Draft.ofMembers] using scanValue_object_nil hgap hinner
      | cons member members =>
          obtain ⟨_, _, _, bodies, _, _, _, _, rfl⟩ := exists_of_spellsMembers_cons hbodies
          obtain ⟨before, others, hbefore, rfl, hstart⟩ := hinner.start
          rw [List.cons_append] at hstart
          have hscan := hmembers (member :: members) _ bodies _ rest hbodies hstart
            (by simp at hsteps ⊢; omega)
          simp only [List.append_assoc, List.cons_append] at hscan ⊢
          rw [scanValue_object_cons hgap hbefore, hscan]
          rfl

private theorem scansItems_succ (hvalues : ScansValues steps) (hitems : ScansItems steps) :
    ScansItems (steps + 1) := by
  intro items body bodies text rest hbodies htext hsteps
  cases items with
  | nil => cases hbodies
  | cons item items =>
      obtain ⟨_, others, hitem, hothers, heq⟩ := hbodies
      cases heq
      cases htext with
      | @last before _ after hbefore hafter =>
          obtain rfl := spellsItems_nil hothers
          have hscan := hvalues item body before (after ++ ']' :: rest) hitem hbefore
            (by simp at hsteps; omega)
          simpa [Draft.ofItems] using scanItems_last hscan hafter
      | @more before _ after next text bodies hbefore hafter hmore =>
          obtain ⟨space, tail, hspace, rfl, hstart⟩ := hmore.start
          cases items with
          | nil => cases hothers
          | cons other items =>
              obtain ⟨_, bodies, hother, hrest, heq⟩ := hothers
              cases heq
              obtain ⟨first, more, rfl, hfirst, hopen⟩ := hother.first
              have hscan := hvalues item body before
                (after ++ ',' :: (space ++ first :: (more ++ (tail ++ rest)))) hitem hbefore
                (by simp at hsteps; omega)
              have hitems := hitems (other :: items) _ bodies _ rest
                ⟨_, _, hother, hrest, rfl⟩ hstart (by simp at hsteps ⊢; omega)
              simp only [List.append_assoc, List.cons_append] at hscan hitems ⊢
              rw [scanItems_more hscan hafter hspace hfirst hopen, hitems]
              rfl

private theorem scansMembers_succ (hvalues : ScansValues steps) (hmembers : ScansMembers steps) :
    ScansMembers (steps + 1) := by
  intro members body bodies text rest hbodies htext hsteps
  cases members with
  | nil => cases hbodies
  | cons member members =>
      obtain ⟨key, value⟩ := member
      obtain ⟨colonBefore, colonAfter, held, others, hcolonBefore, hcolonAfter, hvalue,
        hothers, heq⟩ := exists_of_spellsMembers_cons hbodies
      cases heq
      generalize hquoted : '"' :: text = quoted at htext
      cases htext with
      | @last before _ after hbefore hafter =>
          obtain rfl := hbefore.eq_nil hquoted
          obtain rfl := spellsMembers_nil hothers
          rw [List.nil_append, List.cons_append] at hquoted
          obtain ⟨-, rfl⟩ := List.cons_eq_cons.mp hquoted
          have hscan := hvalues value held colonAfter (after ++ '\x7d' :: rest) hvalue
            hcolonAfter (by simp at hsteps; omega)
          simpa [Draft.ofMembers] using scanMembers_last key hcolonBefore hafter hscan
      | @more before _ after next text bodies hbefore hafter hmore =>
          obtain rfl := hbefore.eq_nil hquoted
          obtain ⟨inner, rfl⟩ := exists_quote_of_spellsMembers hothers
          obtain ⟨space, tail, hspace, rfl, hstart⟩ := hmore.start
          rw [List.nil_append, List.cons_append] at hquoted
          rw [List.cons_append] at hstart
          obtain ⟨-, rfl⟩ := List.cons_eq_cons.mp hquoted
          have hscan := hvalues value held colonAfter
            (after ++ ',' :: (space ++ '"' :: (inner ++ (tail ++ rest)))) hvalue hcolonAfter
            (by simp at hsteps; omega)
          have hmembers := hmembers members _ bodies _ rest hothers hstart
            (by simp at hsteps ⊢; omega)
          simp only [List.append_assoc, List.cons_append] at hmembers ⊢
          rw [scanMembers_more key hcolonBefore hafter hspace hscan, hmembers]
          rfl

/-! ## Whole texts -/

private theorem Listed.length_lt {close : Char} {body text : List Char} {bodies : List (List Char)}
    (h : Listed close (body :: bodies) text) : body.length < text.length := by
  cases h with
  | last _ _ | more _ _ _ =>
      simp only [List.length_append, List.length_cons, List.length_nil]
      omega

/-- Nothing is scanned in no steps, but no text is empty. -/
private theorem scans_zero : ScansValues 0 ∧ ScansItems 0 ∧ ScansMembers 0 := by
  refine ⟨?_, ?_, ?_⟩
  · intro json text gap rest hspells _ hsteps
    obtain ⟨first, others, rfl, -, -⟩ := hspells.first
    simp at hsteps
  · intro items body bodies text rest _ htext hsteps
    have hlength := htext.length_lt
    omega
  · intro members body bodies text rest hbodies htext hsteps
    obtain ⟨inner, rfl⟩ := exists_quote_of_spellsMembers hbodies
    have hlength := htext.length_lt
    simp only [List.length_cons] at hlength
    omega

/-- By induction on the number of steps, with the three scans together. -/
private theorem scans (steps : Nat) :
    ScansValues steps ∧ ScansItems steps ∧ ScansMembers steps := by
  induction steps with
  | zero => exact scans_zero
  | succ steps ih =>
      obtain ⟨hvalues, hitems, hmembers⟩ := ih
      exact ⟨scansValues_succ hitems hmembers, scansItems_succ hvalues hitems,
        scansMembers_succ hvalues hmembers⟩

theorem Document.ofText_of_spells {json : Json} {text : String} {before body after : List Char}
    (hbefore : Gap before) (hbody : json.Spells body) (hafter : Gap after)
    (htext : text.toList = before ++ (body ++ after)) :
    Document.ofText text = ⟨.ofJson json, false⟩ := by
  have hscan := (scans (2 * text.toList.length + 2)).1 json body before after hbody hbefore
    (by simp only [htext, List.length_append]; omega)
  have hend : skipSpace after = [] := by
    rw [skipSpace, List.dropWhile_eq_nil_iff]
    exact hafter
  rw [← htext] at hscan
  simp [Document.ofText, hscan, hend]

end Reshape.Json
