import Reshape.Proofs.Transformer.RoundTrip

/-!
# Narrowing after transforming

A schema narrows another one if the other has all of its fields, by name and type.  What
comes of a field depends on the name and the type of the field and on nothing else of
the destination.  So a record that is transformed to the wide schema and then to the
narrow one is the record that is transformed to the narrow schema at once.
-/

namespace Reshape

/-- Tags do not matter. -/
def Schema.Narrows (narrow wide : Schema) : Prop :=
  ∀ field ∈ narrow.fields, ∃ held ∈ wide.fields,
    held.name = field.name ∧ held.type = field.type

namespace Transformer

variable {source wide narrow : Schema} {table : MappingTable} {record carried : Record}
  {values : List Value} {field held : Field}

/-! ## Fields of two destinations -/

section Fields

variable (hname : held.name = field.name) (htype : held.type = field.type)

include hname htype

theorem outcome_congr :
    Transformer.outcome ⟨source, narrow, table⟩ values field =
      Transformer.outcome ⟨source, wide, table⟩ values held := by
  simp only [outcome, hname, htype]

private theorem filled_congr :
    Transformer.filled ⟨source, narrow, table⟩ values field =
      Transformer.filled ⟨source, wide, table⟩ values held := by
  rw [filled, filled, outcome_congr hname htype, htype]

end Fields

/-- Whether an outcome is an error does not depend on the destination, only what the error
names does. -/
private theorem error?_eq_none_congr (outcome : Outcome) :
    outcome.error? ⟨source, narrow, table⟩ field = none ↔
      outcome.error? ⟨source, wide, table⟩ held = none := by
  cases outcome with
  | leftOut => rfl
  | unresolved lookup => cases hpolicy : table.policy <;> simp [Outcome.error?, hpolicy]
  | valueless found => simp [Outcome.error?]
  | resolved found coercion =>
      cases coercion with
      | assigned _ | absent => rfl
      | skipped => cases hpolicy : table.policy <;> simp [Outcome.error?, hpolicy]

/-! ## Narrowing -/

section Narrow

variable (hnames : wide.DistinctNames) (hnarrow : narrow.Narrows wide)

include hnames

/-- No alias comes before the name of a field. -/
private theorem outcome_of_narrow (policy : Policy) (fill : Field → Value)
    (hmem : held ∈ wide.fields) (hname : held.name = field.name) (htype : held.type = field.type) :
    ∃ found, Transformer.outcome ⟨wide, narrow, { policy }⟩ (wide.fields.map fill) field =
      .resolved found (.assigned (fill held)) := by
  obtain ⟨index, hheld⟩ := List.mem_iff_getElem?.mp hmem
  have hvalue : (wide.fields.map fill)[index]? = some (fill held) := by
    rw [List.getElem?_map, hheld, Option.map_some]
  exact ⟨_, outcome_of_unmapped hnames policy hheld hname htype hvalue⟩

include hnarrow

theorem transform_narrow
    (h : Transformer.transform ⟨source, wide, table⟩ (some record) = .ok carried) :
    ∃ out,
      (∀ policy,
        Transformer.transform ⟨wide, narrow, { policy }⟩ (some carried) = .ok out) ∧
      Transformer.transform ⟨source, narrow, table⟩ (some record) = .ok out := by
  obtain ⟨hschema, herrors, rfl⟩ := transform_eq_ok_iff.mp h
  let fill := Transformer.filled ⟨source, wide, table⟩ record.values
  have hthrough : ∀ policy, ∀ field ∈ narrow.fields,
      Transformer.fieldError? ⟨wide, narrow, { policy }⟩ (wide.fields.map fill) field = none ∧
        Transformer.filled ⟨source, narrow, table⟩ record.values field =
          Transformer.filled ⟨wide, narrow, { policy }⟩ (wide.fields.map fill) field := by
    intro policy field hfield
    obtain ⟨held, hheld, hname, htype⟩ := hnarrow field hfield
    obtain ⟨found, houtcome⟩ := outcome_of_narrow hnames policy fill hheld hname htype
    rw [filled_of_assigned houtcome, filled_congr hname htype]
    exact ⟨fieldError?_of_assigned houtcome, rfl⟩
  have hdirect : ∀ field ∈ narrow.fields,
      Transformer.fieldError? ⟨source, narrow, table⟩ record.values field = none := by
    intro field hfield
    obtain ⟨held, hheld, hname, htype⟩ := hnarrow field hfield
    rw [fieldError?, outcome_congr hname htype, error?_eq_none_congr]
    exact herrors held hheld
  refine ⟨_, fun policy => transform_eq_ok_iff.mpr
    ⟨rfl, fun field hfield => (hthrough policy field hfield).1, ?_⟩,
    transform_eq_ok_iff.mpr ⟨hschema, hdirect, rfl⟩⟩
  congr 1
  exact List.map_congr_left fun field hfield => (hthrough policy field hfield).2

end Narrow

/-- The second table is empty, and its policy does not matter. -/
theorem narrowing_fuses (source wide narrow : Schema) (table : MappingTable)
    (hnames : wide.DistinctNames) (hnarrow : narrow.Narrows wide) :
    (∀ record : Record, record.schema = source → record.Complete →
      ∃ carried out,
        Transformer.transform ⟨source, wide, table.withPolicy .permissive⟩ (some record) =
          .ok carried ∧
        (∀ policy,
          Transformer.transform ⟨wide, narrow, { policy }⟩ (some carried) = .ok out) ∧
        Transformer.transform ⟨source, narrow, table.withPolicy .permissive⟩ (some record) =
          .ok out) ∧
    ∀ record carried : Record,
      Transformer.transform ⟨source, wide, table.withPolicy .strict⟩ (some record) =
        .ok carried →
      ∃ out,
        (∀ policy,
          Transformer.transform ⟨wide, narrow, { policy }⟩ (some carried) = .ok out) ∧
        Transformer.transform ⟨source, narrow, table.withPolicy .strict⟩ (some record) =
          .ok out := by
  constructor
  · intro record hschema hcomplete
    have hwide : Transformer.transform ⟨source, wide, table.withPolicy .permissive⟩
        (some record) = _ := transform_of_permissive rfl hschema hcomplete
    obtain ⟨out, hnarrowed, hdirect⟩ := transform_narrow hnames hnarrow hwide
    exact ⟨_, out, hwide, hnarrowed, hdirect⟩
  · intro record carried hwide
    exact transform_narrow hnames hnarrow hwide

/-- The alias of the field that is left out does not capture the lookup of the number, and
a field without tags stands for a hidden one. -/
theorem narrowing_fuses_aliased :
    let source : Schema := ⟨"Row", [⟨"id", .int .i64, []⟩, ⟨"o", .option .string, []⟩]⟩
    let wide : Schema :=
      ⟨"Cell", [⟨"m", .int .i8, [("json", "n")]⟩, ⟨"n", .int .u8, []⟩, ⟨"o", .string, []⟩]⟩
    let narrow : Schema := ⟨"Lid", [⟨"o", .string, [("json", "-")]⟩, ⟨"n", .int .u8, []⟩]⟩
    let table := (({} : MappingTable).map "n" "id").skip "m"
    let record : Record := ⟨source, [.int .i64 ⟨300, by decide⟩, .null]⟩
    let carried : Record :=
      ⟨wide, [.int .i8 ⟨0, by decide⟩, .int .u8 ⟨44, by decide⟩, .string ""]⟩
    let out : Record := ⟨narrow, [.string "", .int .u8 ⟨44, by decide⟩]⟩
    wide.DistinctNames ∧ narrow.Narrows wide ∧ record.schema = source ∧ record.Complete ∧
      Transformer.transform ⟨source, wide, table.withPolicy .permissive⟩ (some record) =
        .ok carried ∧
      Transformer.transform ⟨source, wide, table.withPolicy .strict⟩ (some record) =
        .ok carried ∧
      Transformer.transform ⟨wide, narrow, {}⟩ (some carried) = .ok out ∧
      Transformer.transform ⟨source, narrow, table.withPolicy .permissive⟩ (some record) =
        .ok out ∧
      Transformer.transform ⟨source, narrow, table.withPolicy .strict⟩ (some record) =
        .ok out := by
  intro source wide narrow table record carried out
  have hnames : wide.DistinctNames := by decide
  have hnarrow : narrow.Narrows wide := by
    intro field hfield
    simp only [narrow, List.mem_cons, List.not_mem_nil, or_false] at hfield
    rcases hfield with rfl | rfl
    · exact ⟨⟨"o", .string, []⟩, by simp [wide], rfl, rfl⟩
    · exact ⟨⟨"n", .int .u8, []⟩, by simp [wide], rfl, rfl⟩
  have hwide : ∀ policy,
      Transformer.transform ⟨source, wide, table.withPolicy policy⟩ (some record) =
        .ok carried := by
    intro policy
    with_unfolding_all rfl
  have hout : Transformer.transform ⟨wide, narrow, {}⟩ (some carried) = .ok out := by
    with_unfolding_all rfl
  obtain ⟨hpermissive, hstrict⟩ := narrowing_fuses source wide narrow table hnames hnarrow
  obtain ⟨through, direct, hthrough, hnarrowed, hdirect⟩ := hpermissive record rfl rfl
  cases (hwide .permissive).symm.trans hthrough
  cases hout.symm.trans (hnarrowed .permissive)
  obtain ⟨strict, hstrictNarrowed, hstrictDirect⟩ := hstrict record carried (hwide .strict)
  cases hout.symm.trans (hstrictNarrowed .permissive)
  exact ⟨hnames, hnarrow, rfl, rfl, hthrough, hwide .strict, hout, hdirect, hstrictDirect⟩

end Transformer

end Reshape
