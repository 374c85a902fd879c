import Reshape.Proofs.Schema.Lookup
import Reshape.Proofs.Text.Parts

/-!
# The precedence of lookup steps

A name may refer to several fields, and to each of them at several steps.  A lookup takes the
first of the fields to which the name refers at the first step where it refers to any, so that
an earlier step counts for more than an earlier field.
-/

namespace Reshape

/-! ## Aliases -/

/-- The text that a tag value gives: what is before its first comma, without blanks around. -/
def Field.Gives (value shown : String) : Prop :=
  ∃ part, Text.CutsTo ',' value.toList part ∧ Text.TrimsTo part shown.toList

/-- The first tag with this key gives the alias, which is neither empty nor a hyphen. -/
def Field.Declares (field : Field) (key shown : String) : Prop :=
  ∃ earlier value later, field.tags = earlier ++ (key, value) :: later ∧
    (∀ tag ∈ earlier, tag.1 ≠ key) ∧ Field.Gives value shown ∧ shown ≠ "" ∧ shown ≠ "-"

namespace Field

variable {field : Field} {key value shown : String}

private theorem tagValue?_eq_some_iff :
    field.tagValue? key = some value ↔
      ∃ earlier later, field.tags = earlier ++ (key, value) :: later ∧
        ∀ tag ∈ earlier, tag.1 ≠ key := by
  simp only [tagValue?, List.lookup_eq_some_iff, bne_iff_ne, ne_comm (a := key)]

private theorem aliasText_eq_iff : aliasText value = shown ↔ Gives value shown := by
  rw [aliasText, ← String.toList_inj, String.toList_ofList, Text.trim_eq_iff]
  constructor
  · intro h
    exact ⟨_, Text.takeWhile_eq_iff.mp rfl, h⟩
  · rintro ⟨part, hpart, h⟩
    rwa [Text.takeWhile_eq_iff.mpr hpart]

theorem alias?_eq_some_iff : field.alias? key = some shown ↔ field.Declares key shown := by
  unfold alias?
  constructor
  · intro h
    cases hvalue : field.tagValue? key with
    | none => simp [hvalue] at h
    | some value =>
        simp only [hvalue, Option.ite_none_left_eq_some, not_or, Option.some.injEq] at h
        obtain ⟨hshown, rfl⟩ := h
        obtain ⟨earlier, later, htags, hearlier⟩ := tagValue?_eq_some_iff.mp hvalue
        exact ⟨earlier, value, later, htags, hearlier, aliasText_eq_iff.mp rfl, hshown⟩
  · rintro ⟨earlier, value, later, htags, hearlier, hgives, hshown⟩
    rw [tagValue?_eq_some_iff.mpr ⟨earlier, later, htags, hearlier⟩]
    simp [aliasText_eq_iff.mpr hgives, hshown]

end Field

/-! ## Steps -/

/-- The name refers to the field at this step. -/
inductive Field.MatchesAt (field : Field) (name : String) : MatchKind → Prop where
  | exact : field.name = name → MatchesAt field name .exact
  | caseInsensitive :
      Text.foldName field.name = Text.foldName name →
      MatchesAt field name .caseInsensitive
  | jsonAlias (shown : String) :
      field.Declares "json" shown → Text.foldName shown = Text.foldName name →
      MatchesAt field name .jsonAlias
  | dbAlias (shown : String) :
      field.Declares "db" shown → Text.foldName shown = Text.foldName name →
      MatchesAt field name .dbAlias

namespace MatchKind

theorem accepts_iff {kind : MatchKind} {name : String} {field : Field} :
    kind.accepts name field = true ↔ field.MatchesAt name kind := by
  constructor
  · intro h
    cases kind with
    | exact => exact .exact (by simpa [accepts] using h)
    | caseInsensitive => exact .caseInsensitive ((Text.alike_iff _ _).mp h)
    | jsonAlias =>
        obtain ⟨shown, hshown, halike⟩ := (Option.any_eq_true _ _).mp h
        exact .jsonAlias shown (Field.alias?_eq_some_iff.mp hshown)
          ((Text.alike_iff _ _).mp halike)
    | dbAlias =>
        obtain ⟨shown, hshown, halike⟩ := (Option.any_eq_true _ _).mp h
        exact .dbAlias shown (Field.alias?_eq_some_iff.mp hshown)
          ((Text.alike_iff _ _).mp halike)
  · intro h
    cases h with
    | exact hname => simp [accepts, hname]
    | caseInsensitive hname => exact (Text.alike_iff _ _).mpr hname
    | jsonAlias shown hshown hname =>
        exact (Option.any_eq_true _ _).mpr
          ⟨shown, Field.alias?_eq_some_iff.mpr hshown, (Text.alike_iff _ _).mpr hname⟩
    | dbAlias shown hshown hname =>
        exact (Option.any_eq_true _ _).mpr
          ⟨shown, Field.alias?_eq_some_iff.mpr hshown, (Text.alike_iff _ _).mpr hname⟩

/-- The place of a step among the steps of a lookup. -/
def rank : MatchKind → Nat
  | .exact => 0
  | .caseInsensitive => 1
  | .jsonAlias => 2
  | .dbAlias => 3

theorem mem_inOrder (kind : MatchKind) : kind ∈ inOrder := by
  cases kind <;> decide

private theorem pairwise_inOrder :
    inOrder.Pairwise fun earlier later => earlier.rank < later.rank := by
  decide

private theorem mem_earlier_iff {kind earlier : MatchKind} {before after : List MatchKind}
    (h : inOrder = before ++ kind :: after) :
    earlier ∈ before ↔ earlier.rank < kind.rank := by
  have hsorted := pairwise_inOrder
  rw [h, List.pairwise_append, List.pairwise_cons] at hsorted
  obtain ⟨-, ⟨hafter, -⟩, hbefore⟩ := hsorted
  constructor
  · exact fun hearlier => hbefore earlier hearlier kind (by simp)
  · intro hrank
    have hplace : earlier ∈ before ++ kind :: after := h ▸ mem_inOrder earlier
    rcases List.mem_append.mp hplace with hearlier | hlater
    · exact hearlier
    · rcases List.mem_cons.mp hlater with rfl | hlater
      · exact absurd hrank (Nat.lt_irrefl _)
      · exact absurd hrank (Nat.lt_asymm (hafter earlier hlater))

end MatchKind

namespace Schema

private theorem firstAccepted?_eq_some_iff {kind : MatchKind} {name : String} {fields : List Field}
    {index : Nat} {field : Field} :
    firstAccepted? kind name fields = some (index, field) ↔
      fields[index]? = some field ∧ field.MatchesAt name kind ∧
        ∀ earlier ∈ fields.take index, ¬earlier.MatchesAt name kind := by
  induction fields generalizing index with
  | nil => simp [firstAccepted?]
  | cons head fields ih =>
      rw [firstAccepted?]
      by_cases hhead : head.MatchesAt name kind
      · rw [if_pos (MatchKind.accepts_iff.mpr hhead)]
        cases index with
        | zero => simpa using fun heq => heq ▸ hhead
        | succ index => simp [hhead]
      · rw [if_neg (fun haccepts => hhead (MatchKind.accepts_iff.mp haccepts))]
        rw [Option.map_eq_some_iff]
        cases index with
        | zero =>
            constructor
            · rintro ⟨found, -, heq⟩
              cases heq
            · rintro ⟨hfield, hmatch, -⟩
              cases hfield
              exact absurd hmatch hhead
        | succ index =>
            rw [List.getElem?_cons_succ, List.take_succ_cons, List.forall_mem_cons]
            simp only [hhead, not_false_eq_true, true_and, ← ih]
            constructor
            · rintro ⟨found, hfound, heq⟩
              cases heq
              exact hfound
            · intro hfound
              exact ⟨_, hfound, rfl⟩

theorem firstAccepted?_eq_none_iff {kind : MatchKind} {name : String}
    {fields : List Field} :
    firstAccepted? kind name fields = none ↔ ∀ field ∈ fields, ¬field.MatchesAt name kind := by
  induction fields with
  | nil => simp [firstAccepted?]
  | cons head fields ih =>
      rw [firstAccepted?, List.forall_mem_cons, ← ih, ← MatchKind.accepts_iff]
      split
      · rename_i haccepts
        simp [haccepts]
      · rename_i hrefuses
        simp [hrefuses]

/-! ## Lookups -/

/-- The field at `index` is the first one to which the name refers at the first step where
there is any. -/
structure FirstMatch (schema : Schema) (name : String) (found : FieldMatch) : Prop where
  placed : schema.fields[found.index]? = some found.field
  refers : found.field.MatchesAt name found.kind
  first_step : ∀ kind : MatchKind, kind.rank < found.kind.rank →
    ∀ field ∈ schema.fields, ¬field.MatchesAt name kind
  first_field : ∀ earlier ∈ schema.fields.take found.index,
    ¬earlier.MatchesAt name found.kind

theorem resolve?_eq_some_iff {schema : Schema} {name : String} {found : FieldMatch} :
    schema.resolve? name = some found ↔ schema.FirstMatch name found := by
  simp only [resolve?, List.findSome?_eq_some_iff, Option.map_eq_some_iff,
    Option.map_eq_none_iff, firstAccepted?_eq_none_iff]
  constructor
  · rintro ⟨before, kind, after, hsteps, ⟨⟨index, field⟩, hfirst, rfl⟩, hbefore⟩
    obtain ⟨hplace, hmatch, hearlier⟩ := firstAccepted?_eq_some_iff.mp hfirst
    exact ⟨hplace, hmatch, fun earlier hrank =>
      hbefore earlier ((MatchKind.mem_earlier_iff hsteps).mpr hrank), hearlier⟩
  · rintro ⟨hplace, hmatch, hsteps, hearlier⟩
    obtain ⟨before, after, hsplit⟩ := List.append_of_mem found.kind.mem_inOrder
    refine ⟨before, found.kind, after, hsplit, ⟨(found.index, found.field), ?_, rfl⟩, ?_⟩
    · exact firstAccepted?_eq_some_iff.mpr ⟨hplace, hmatch, hearlier⟩
    · exact fun earlier h => hsteps earlier ((MatchKind.mem_earlier_iff hsplit).mp h)

theorem resolve?_eq_none_iff {schema : Schema} {name : String} :
    schema.resolve? name = none ↔
      ∀ field ∈ schema.fields, ∀ kind, ¬field.MatchesAt name kind := by
  simp only [resolve?, List.findSome?_eq_none_iff, Option.map_eq_none_iff,
    firstAccepted?_eq_none_iff]
  constructor
  · exact fun h field hfield kind => h kind kind.mem_inOrder field hfield
  · exact fun h kind _ field hfield => h field hfield kind

theorem resolve?_precedence (schema : Schema) (name : String) :
    (∀ found, schema.resolve? name = some found ↔ schema.FirstMatch name found) ∧
    (schema.resolve? name = none ↔
      ∀ field ∈ schema.fields, ∀ kind, ¬field.MatchesAt name kind) ∧
    ∀ found, schema.resolve? name = some found →
      found.index < schema.fields.length ∧
        schema.fields[found.index]? = some found.field := by
  refine ⟨fun found => resolve?_eq_some_iff, resolve?_eq_none_iff, fun found hfound => ?_⟩
  have hplace := (resolve?_eq_some_iff.mp hfound).placed
  exact ⟨(List.getElem?_eq_some_iff.mp hplace).1, hplace⟩

/-- The alias in JSON counts for more than the earlier alias in storage, and the second tag
for JSON for nothing. -/
theorem resolve?_precedence_alias :
    let stored : Field := ⟨"Stored", .int .i64, [("db", "foo")]⟩
    let shown : Field := ⟨"Shown", .int .i64, [("json", " Foo ,omitempty"), ("json", "bar")]⟩
    let schema : Schema := ⟨"Row", [stored, shown]⟩
    schema.resolve? "fOO" = some ⟨1, shown, .jsonAlias⟩ ∧
      schema.FirstMatch "fOO" ⟨1, shown, .jsonAlias⟩ ∧ 1 < schema.fields.length ∧
      ¬shown.MatchesAt "bar" .jsonAlias := by
  intro stored shown schema
  obtain ⟨hsome, -, hbound⟩ := resolve?_precedence schema "fOO"
  have hfound : schema.resolve? "fOO" = some ⟨1, shown, .jsonAlias⟩ := by decide +kernel
  have hnone : schema.resolve? "bar" = none := by decide +kernel
  exact ⟨hfound, (hsome _).mp hfound, (hbound _ hfound).1,
    (resolve?_precedence schema "bar").2.1.mp hnone shown (by simp [schema]) .jsonAlias⟩

end Schema

end Reshape
