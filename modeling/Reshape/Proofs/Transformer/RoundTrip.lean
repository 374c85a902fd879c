import Reshape.Proofs.Coercion.Embedding
import Reshape.Proofs.Transformer.Policy

/-!
# There and back

Two schemas are paired by two mapping tables if each field of the left schema has a
partner in the right one that its values can be carried over to and back, and both
tables name the two for each other.  Then what is carried over comes back the same.
The right schema may have further fields, and aliases play no part, since the exact
name of a field always comes first.
-/

namespace Reshape

namespace Transformer

/-- The partner of each left field is populated from it, and populates it. -/
structure Paired (left right : Schema) (partner : Field → Field)
    (forward backward : MappingTable) : Prop where
  mem : ∀ field ∈ left.fields, partner field ∈ right.fields
  embeds : ∀ field ∈ left.fields, field.type.EmbedsIn (partner field).type
  forward_source : ∀ field ∈ left.fields,
    forward.sourceName (partner field).name = field.name
  forward_kept : ∀ field ∈ left.fields, forward.isSkipped (partner field).name = false
  backward_source : ∀ field ∈ left.fields,
    backward.sourceName field.name = (partner field).name
  backward_kept : ∀ field ∈ left.fields, backward.isSkipped field.name = false

variable {transformer : Transformer} {values : List Value} {field : Field}

/-! ## Fields whose source is named exactly -/

theorem outcome_of_named (hnames : transformer.source.DistinctNames)
    (hkept : transformer.mapping.isSkipped field.name = false) {index : Nat}
    {source : Field} (hsource : transformer.source.fields[index]? = some source)
    (hname : transformer.mapping.sourceName field.name = source.name) {value : Value}
    (hvalue : values[index]? = some value) :
    transformer.outcome values field =
      .resolved ⟨index, source, .exact⟩ (value.coerce source.type field.type) := by
  have hfound : transformer.sourceField? field = some ⟨index, source, .exact⟩ := by
    rw [sourceField?, hname]
    exact Schema.resolve?_of_getElem? hnames hsource
  exact outcome_of_resolved hkept hfound hvalue

/-- Under an empty table, a value of the field's type is assigned as it is. -/
theorem outcome_of_unmapped {source destination : Schema} (hnames : source.DistinctNames)
    (policy : Policy) {index : Nat} {held : Field}
    (hheld : source.fields[index]? = some held) (hname : held.name = field.name)
    (htype : held.type = field.type) {value : Value} (hvalue : values[index]? = some value) :
    Transformer.outcome ⟨source, destination, { policy }⟩ values field =
      .resolved ⟨index, held, .exact⟩ (.assigned value) := by
  have houtcome : Transformer.outcome ⟨source, destination, { policy }⟩ values field =
      .resolved ⟨index, held, .exact⟩ (value.coerce held.type field.type) :=
    outcome_of_named hnames (by simp [MappingTable.isSkipped]) hheld
      (by simp [MappingTable.sourceName, hname]) hvalue
  rw [houtcome, htype, Value.coerce_same]

theorem filled_of_assigned {found : FieldMatch} {value : Value}
    (h : transformer.outcome values field = .resolved found (.assigned value)) :
    transformer.filled values field = value := by
  rw [filled, h]
  rfl

private theorem filled_of_absent {found : FieldMatch}
    (h : transformer.outcome values field = .resolved found .absent) :
    transformer.filled values field = Value.zero field.type := by
  rw [filled, h]
  rfl

theorem fieldError?_of_assigned {found : FieldMatch} {value : Value}
    (h : transformer.outcome values field = .resolved found (.assigned value)) :
    transformer.fieldError? values field = none := by
  rw [fieldError?, h]
  rfl

/-! ## Records -/

variable {left right : Schema} {partner : Field → Field}
  {forward backward : MappingTable} {record : Record}

/-- Each field is populated from itself, so that the policy does not matter. -/
theorem transform_same {schema : Schema} (hnames : schema.DistinctNames)
    (policy : Policy) (hschema : record.schema = schema) (hcomplete : record.Complete) :
    Transformer.transform ⟨schema, schema, { policy }⟩ (some record) = .ok record := by
  subst hschema
  refine transform_eq_ok_iff.mpr ⟨rfl, fun field hfield => ?_, ?_⟩
  · obtain ⟨index, hindex⟩ := List.mem_iff_getElem?.mp hfield
    obtain ⟨value, hvalue⟩ := hcomplete.getElem? hindex
    exact fieldError?_of_assigned (outcome_of_unmapped hnames policy hindex rfl rfl hvalue)
  · refine (hcomplete.eq_of_getElem? fun index field value hfield hvalue => ?_).symm
    exact filled_of_assigned (outcome_of_unmapped hnames policy hfield rfl rfl hvalue)

/-- What is carried over to the partner of a field comes back to the field. -/
theorem Paired.filled_back (hpaired : Paired left right partner forward backward)
    (hleft : left.DistinctNames) (hright : right.DistinctNames)
    (hschema : record.schema = left) (hrecord : record.WellTyped) {index : Nat}
    {field : Field} {value : Value} (hfield : left.fields[index]? = some field)
    (hvalue : record.values[index]? = some value) :
    Transformer.filled ⟨right, left, backward⟩
      (right.fields.map (Transformer.filled ⟨left, right, forward⟩ record.values))
      field = value := by
  have hmem : field ∈ left.fields := List.mem_of_getElem? hfield
  have htype : value.HasType field.type := hrecord.hasType (hschema ▸ hfield) hvalue
  obtain ⟨carried, hcarried, hback⟩ := htype.coerce_back (hpaired.embeds field hmem)
  obtain ⟨place, hplace⟩ := List.mem_iff_getElem?.mp (hpaired.mem field hmem)
  have hthere : Transformer.outcome ⟨left, right, forward⟩ record.values (partner field) =
      .resolved ⟨index, field, .exact⟩ (.assigned carried) := by
    rw [← hcarried]
    exact outcome_of_named hleft (hpaired.forward_kept field hmem) hfield
      (hpaired.forward_source field hmem) hvalue
  have hplaced : (right.fields.map
      (Transformer.filled ⟨left, right, forward⟩ record.values))[place]? =
        some carried := by
    rw [List.getElem?_map, hplace, Option.map_some, filled_of_assigned hthere]
  have houtcome : Transformer.outcome ⟨right, left, backward⟩
      (right.fields.map (Transformer.filled ⟨left, right, forward⟩ record.values))
      field = .resolved ⟨place, partner field, .exact⟩
        (carried.coerce (partner field).type field.type) :=
    outcome_of_named hright (hpaired.backward_kept field hmem) hplace
      (hpaired.backward_source field hmem) hplaced
  rcases hback with hassigned | ⟨habsent, rfl⟩
  · rw [hassigned] at houtcome
    exact filled_of_assigned houtcome
  · rw [habsent] at houtcome
    exact filled_of_absent houtcome

theorem backward_forward :
    (∀ (left right : Schema) (partner : Field → Field)
      (forward backward : MappingTable) (record : Record),
      left.DistinctNames → right.DistinctNames →
      Paired left right partner forward backward →
      forward.policy = .permissive → backward.policy = .permissive →
      record.schema = left → record.WellTyped →
      ∃ carried,
        Transformer.transform ⟨left, right, forward⟩ (some record) = .ok carried ∧
          Transformer.transform ⟨right, left, backward⟩ (some carried) = .ok record) ∧
    ∀ (schema : Schema) (policy : Policy) (record : Record),
      schema.DistinctNames → record.schema = schema → record.WellTyped →
      Transformer.transform ⟨schema, schema, { policy }⟩ (some record) = .ok record := by
  constructor
  · intro left right partner forward backward record hleft hright hpaired hforward
      hbackward hschema hrecord
    refine ⟨_, transform_of_permissive hforward hschema hrecord.complete, ?_⟩
    rw [transform_of_permissive hbackward rfl (by simp [Record.Complete])]
    subst hschema
    congr 1
    exact hrecord.complete.eq_of_getElem? fun index field value =>
      hpaired.filled_back hleft hright rfl hrecord
  · intro schema policy record hnames hschema hrecord
    exact transform_same hnames policy hschema hrecord.complete

/-- Neither the field with the name of the source nor the alias captures a lookup. -/
theorem backward_forward_widened :
    let left : Schema := ⟨"Row", [⟨"n", .int .i8, []⟩, ⟨"o", .option .json, []⟩]⟩
    let right : Schema :=
      ⟨"Column", [⟨"o", .option (.option .json), []⟩, ⟨"n", .bool, []⟩,
        ⟨"m", .int .u64, [("json", "n")]⟩]⟩
    let forward := ({} : MappingTable).map "m" "n"
    let backward := ({} : MappingTable).map "n" "m"
    let record : Record := ⟨left, [.int .i8 ⟨-1, by decide⟩, .null]⟩
    let carried : Record :=
      ⟨right, [.null, .bool false, .int .u64 ⟨2 ^ 64 - 1, by decide⟩]⟩
    record.WellTyped ∧
      Transformer.transform ⟨left, right, forward⟩ (some record) = .ok carried ∧
      Transformer.transform ⟨right, left, backward⟩ (some carried) = .ok record := by
  intro left right forward backward record carried
  have hrecord : record.WellTyped :=
    .cons (.int .i8 _) (.cons (.absent .json) .nil)
  let partner (field : Field) : Field :=
    if field.name = "n" then ⟨"m", .int .u64, [("json", "n")]⟩
    else ⟨"o", .option (.option .json), []⟩
  have hembeds : ∀ field ∈ left.fields, field.type.EmbedsIn (partner field).type := by
    simp only [left, List.forall_mem_cons]
    exact ⟨.widen (by decide), .wrap _, by simp⟩
  have hpaired : Paired left right partner forward backward :=
    ⟨by decide, hembeds, by decide, by decide, by decide, by decide⟩
  have hforward :
      Transformer.transform ⟨left, right, forward⟩ (some record) = .ok carried := by
    with_unfolding_all rfl
  obtain ⟨hround, -⟩ := backward_forward
  obtain ⟨out, hout, hback⟩ := hround left right partner forward backward record
    (by decide) (by decide) hpaired rfl rfl rfl hrecord
  cases hforward.symm.trans hout
  exact ⟨hrecord, hforward, hback⟩

end Transformer

end Reshape
