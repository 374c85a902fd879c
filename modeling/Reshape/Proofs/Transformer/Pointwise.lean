import Reshape.Proofs.MappingTable
import Reshape.Proofs.Transformer.RoundTrip

/-!
# Each field for itself

What a destination field receives depends on the field, on what the mapping table says of
its name, and on the source record.  Under a permissive policy the output holds it at the
place of the field, so that neither the other fields, nor their order, nor what the table
says of their names matters.
-/

namespace Reshape.Transformer

variable {transformer : Transformer} {record : Record} {values : List Value}
  {field : Field} {value : Value}

/-! ## What a field receives -/

/--
The value that a destination field receives from the values of a source record.  No case
looks up another name than the one that the table gives.
-/
inductive Receives (transformer : Transformer) (values : List Value) (field : Field) :
    Value → Prop where
  | leftOut :
      transformer.mapping.isSkipped field.name = true →
      Receives transformer values field (Value.zero field.type)
  | unresolved :
      transformer.mapping.isSkipped field.name = false →
      transformer.source.resolve? (transformer.mapping.sourceName field.name) = none →
      Receives transformer values field (Value.zero field.type)
  | unassigned (found : FieldMatch) (value : Value) :
      transformer.mapping.isSkipped field.name = false →
      transformer.source.resolve? (transformer.mapping.sourceName field.name) =
        some found →
      values[found.index]? = some value →
      value.coerce found.field.type field.type = .absent ∨
        value.coerce found.field.type field.type = .skipped →
      Receives transformer values field (Value.zero field.type)
  | assigned (found : FieldMatch) (value : Value) {result : Value} :
      transformer.mapping.isSkipped field.name = false →
      transformer.source.resolve? (transformer.mapping.sourceName field.name) =
        some found →
      values[found.index]? = some value →
      value.coerce found.field.type field.type = .assigned result →
      Receives transformer values field result

theorem filled_of_skipped (h : transformer.mapping.isSkipped field.name = true) :
    transformer.filled values field = Value.zero field.type := by
  rw [filled, outcome_of_skipped h]
  rfl

theorem filled_of_unresolved
    (h : transformer.source.resolve? (transformer.mapping.sourceName field.name) = none) :
    transformer.filled values field = Value.zero field.type := by
  cases hskipped : transformer.mapping.isSkipped field.name with
  | true => exact filled_of_skipped hskipped
  | false =>
      rw [filled, outcome_of_unresolved hskipped h]
      rfl

theorem Receives.eq_filled (h : transformer.Receives values field value) :
    value = transformer.filled values field := by
  cases h with
  | leftOut hskipped => exact (filled_of_skipped hskipped).symm
  | unresolved _ hnone => exact (filled_of_unresolved hnone).symm
  | unassigned found source hkept hfound hsource hcoercion =>
      have houtcome := outcome_of_resolved hkept hfound hsource
      rcases hcoercion with hcoercion | hcoercion
      · rw [filled, houtcome, hcoercion]
        rfl
      · rw [filled, houtcome, hcoercion]
        rfl
  | assigned found source hkept hfound hsource hcoercion =>
      have houtcome := outcome_of_resolved hkept hfound hsource
      rw [hcoercion] at houtcome
      exact (filled_of_assigned houtcome).symm

theorem receives_filled (hschema : record.schema = transformer.source)
    (hcomplete : record.Complete) (field : Field) :
    transformer.Receives record.values field (transformer.filled record.values field) := by
  rcases outcome_cases hschema hcomplete field with
    ⟨hskipped, -⟩ | ⟨hkept, hnone, -⟩ | ⟨hkept, found, source, hfound, hsource, houtcome⟩
  · rw [filled_of_skipped hskipped]
    exact .leftOut hskipped
  · rw [filled_of_unresolved hnone]
    exact .unresolved hkept hnone
  · cases hcoercion : source.coerce found.field.type field.type with
    | assigned result =>
        rw [hcoercion] at houtcome
        rw [filled_of_assigned houtcome]
        exact .assigned found source hkept hfound hsource hcoercion
    | absent =>
        rw [filled, houtcome, hcoercion]
        exact .unassigned found source hkept hfound hsource (.inl hcoercion)
    | skipped =>
        rw [filled, houtcome, hcoercion]
        exact .unassigned found source hkept hfound hsource (.inr hcoercion)

/-! ## What a field does not depend on -/

/-- Of the table only what it says of the name of the field matters. -/
theorem filled_withMapping {table : MappingTable}
    (hskipped : table.isSkipped field.name = transformer.mapping.isSkipped field.name)
    (hname : table.sourceName field.name = transformer.mapping.sourceName field.name) :
    (transformer.withMapping table).filled values field = transformer.filled values field := by
  simp only [filled, outcome, withMapping, hskipped, hname]

private theorem filled_map_of_skipped {name : String} (lookup : String)
    (h : transformer.mapping.isSkipped name = true) (field : Field) :
    (transformer.map name lookup).filled values field = transformer.filled values field := by
  by_cases hname : field.name = name
  · subst hname
    rw [filled_of_skipped h]
    exact filled_of_skipped h
  · have hedited : transformer.mapping.EditedAt name (transformer.mapping.map name lookup) :=
      .map lookup
    exact filled_withMapping (hedited.isSkipped_eq hname) (hedited.sourceName_eq hname)

/-! ## Outputs -/

theorem transform_pointwise (transformer : Transformer) (record : Record)
    (hpolicy : transformer.mapping.policy = .permissive)
    (hschema : record.schema = transformer.source) (hcomplete : record.Complete) :
    ∃ out, transformer.transform (some record) = .ok out ∧
      out.schema = transformer.destination ∧
      (∀ (index : Nat) (value : Value), out.values[index]? = some value ↔
        ∃ field, transformer.destination.fields[index]? = some field ∧
          transformer.Receives record.values field value) ∧
      (∀ (index : Nat) (field : Field) (lookup : String),
        transformer.destination.fields[index]? = some field →
        transformer.mapping.overrides[field.name]? = some lookup →
        transformer.source.resolve? lookup = none →
        out.values[index]? = some (Value.zero field.type)) ∧
      (∀ name lookup, transformer.mapping.isSkipped name = true →
        (transformer.map name lookup).transform (some record) = .ok out) ∧
      (∀ name table, transformer.mapping.EditedAt name table →
        ∃ edited, (transformer.withMapping table).transform (some record) = .ok edited ∧
          ∀ (index : Nat) (field : Field),
            transformer.destination.fields[index]? = some field →
            field.name ≠ name → edited.values[index]? = out.values[index]?) ∧
      ∀ (other : Schema) (place : Nat → Nat),
        (∀ index : Nat, other.fields[index]? = transformer.destination.fields[place index]?) →
        ∃ moved,
          Transformer.transform ⟨transformer.source, other, transformer.mapping⟩
              (some record) = .ok moved ∧
            ∀ index : Nat, moved.values[index]? = out.values[place index]? := by
  refine ⟨_, transform_of_permissive hpolicy hschema hcomplete, rfl, ?_, ?_, ?_, ?_, ?_⟩
  · intro index value
    rw [List.getElem?_map, Option.map_eq_some_iff]
    constructor
    · rintro ⟨field, hfield, rfl⟩
      exact ⟨field, hfield, receives_filled hschema hcomplete field⟩
    · rintro ⟨field, hfield, hreceives⟩
      exact ⟨field, hfield, hreceives.eq_filled.symm⟩
  · intro index field lookup hfield hoverride hnone
    rw [← MappingTable.sourceName_of_override hoverride] at hnone
    rw [List.getElem?_map, hfield, Option.map_some, filled_of_unresolved hnone]
  · intro name lookup hskipped
    have hmapped : (transformer.map name lookup).transform (some record) = _ :=
      transform_of_permissive hpolicy hschema hcomplete
    rw [hmapped]
    congr 2
    exact List.map_congr_left fun field _ => filled_map_of_skipped lookup hskipped field
  · intro name table hedited
    refine ⟨_, transform_of_permissive (hedited.policy_eq.trans hpolicy) hschema hcomplete, ?_⟩
    intro index field hfield hname
    simp only [withMapping, List.getElem?_map, hfield, Option.map_some]
    congr 1
    exact filled_withMapping (hedited.isSkipped_eq hname) (hedited.sourceName_eq hname)
  · intro other place hplace
    refine ⟨_, transform_of_permissive hpolicy hschema hcomplete, fun index => ?_⟩
    rw [List.getElem?_map, List.getElem?_map, hplace]
    rfl

/-- The override that finds nothing leaves `a` at its zero value, although the source has a
field `a`; the alias `c` finds the text. -/
theorem transform_pointwise_unresolved :
    let source : Schema :=
      ⟨"Row", [⟨"a", .int .i64, []⟩, ⟨"b", .string, [("json", "c")]⟩]⟩
    let a : Field := ⟨"a", .int .i8, []⟩
    let b : Field := ⟨"b", .string, []⟩
    let c : Field := ⟨"c", .string, []⟩
    let transformer : Transformer :=
      ⟨source, ⟨"Cell", [a, b, c]⟩, (({} : MappingTable).map "a" "z").skip "b"⟩
    let record : Record := ⟨source, [.int .i64 ⟨300, by decide⟩, .string "x"]⟩
    transformer.mapping.policy = .permissive ∧ record.schema = transformer.source ∧
      record.Complete ∧
      ∃ out edited moved,
        transformer.transform (some record) = .ok out ∧
        out.values[0]? = some (Value.zero (.int .i8)) ∧
        out.values[1]? = some (.string "") ∧ out.values[2]? = some (.string "x") ∧
        (transformer.map "b" "a").transform (some record) = .ok out ∧
        (transformer.map "a" "b").transform (some record) = .ok edited ∧
        edited.values[2]? = some (.string "x") ∧
        Transformer.transform ⟨source, ⟨"Lid", [c, a, b]⟩, transformer.mapping⟩
          (some record) = .ok moved ∧
        moved.values[0]? = some (.string "x") := by
  intro source a b c transformer record
  obtain ⟨out, hout, -, hvalues, hunresolved, hskipped, hedited, hmoved⟩ :=
    transform_pointwise transformer record rfl rfl rfl
  obtain ⟨edited, hrun, hkept⟩ := hedited "a" _ (.map "b")
  obtain ⟨moved, hother, hplaces⟩ :=
    hmoved ⟨"Lid", [c, a, b]⟩ (fun index => [2, 0, 1].getD index index) (by
      rintro (_ | _ | _ | index) <;> rfl)
  have hleft : out.values[1]? = some (.string "") :=
    (hvalues 1 _).mpr ⟨b, rfl, .leftOut (by decide)⟩
  have hlast : out.values[2]? = some (.string "x") :=
    (hvalues 2 _).mpr ⟨c, rfl, .assigned ⟨1, ⟨"b", .string, [("json", "c")]⟩, .jsonAlias⟩
      (.string "x") (by decide) (by decide +kernel) rfl (Value.coerce_same _ _)⟩
  refine ⟨rfl, rfl, rfl, out, edited, moved, hout, ?_, hleft, hlast, ?_, hrun, ?_, hother, ?_⟩
  · exact hunresolved 0 a "z" rfl (by decide) (by decide +kernel)
  · exact hskipped "b" "a" (by decide)
  · rw [hkept 2 c rfl (by decide), hlast]
  · exact (hplaces 0).trans hlast

end Reshape.Transformer
