import Reshape.Config.Loading
import Reshape.Proofs.Config.Decoding
import Reshape.Proofs.Sequence.Fault

/-!
# Configurations loaded from what is written of them

A configuration is loaded from each of its texts, unless one of its types has an option
directly in an option.  No configuration that is loaded has such a type, so that writing
and loading a configuration that was loaded changes nothing.
-/

namespace Reshape.Config

open Json

/-! ## Types that are refused -/

def SchemaDecl.nestsOption (decl : SchemaDecl) : Bool :=
  decl.fields.any (·.type.nestsOption)

def nestsOption (config : Config) : Bool := config.schemas.any (·.nestsOption)

/-- The error of a part in which an option stands directly in an option. -/
def NestingError (nests : Bool) (error : DecodeError) : Prop :=
  nests = true ∧ ∃ shown, error = .badFieldType (.nestedOption shown)

private theorem checkType_detects (type : FieldType) :
    Sequence.Detects (checkType type) (NestingError type.nestsOption) := by
  cases hnests : type.nestsOption with
  | false =>
      rw [checkType_eq_ok hnests]
      refine ⟨nofun, fun _ error herror => ?_⟩
      cases herror.1
  | true =>
      obtain ⟨shown, hshown⟩ := checkType_eq_error hnests
      rw [hshown]
      refine ⟨fun error herror => ⟨rfl, shown, ?_⟩, nofun⟩
      cases herror
      rfl

theorem forM_detects_any {α : Type} {check : α → Except DecodeError Unit} {nests : α → Bool}
    (h : ∀ item, Sequence.Detects (check item) (NestingError (nests item)))
    (items : List α) :
    Sequence.Detects (items.forM check) (NestingError (items.any nests)) := by
  refine (Sequence.forM_detects h items).congr fun error => ?_
  simp only [NestingError, List.any_eq_true]
  constructor
  · rintro ⟨item, hitem, hnests, herror⟩
    exact ⟨⟨item, hitem, hnests⟩, herror⟩
  · rintro ⟨⟨item, hitem, hnests⟩, herror⟩
    exact ⟨item, hitem, hnests, herror⟩

private theorem SchemaDecl.checkTypes_detects (decl : SchemaDecl) :
    Sequence.Detects decl.checkTypes (NestingError decl.nestsOption) := by
  have hfields : ∀ field : FieldDecl,
      Sequence.Detects (checkType field.type) (NestingError field.type.nestsOption) :=
    fun field => checkType_detects field.type
  exact forM_detects_any hfields decl.fields

theorem checkTypes_detects (config : Config) :
    Sequence.Detects config.checkTypes (NestingError config.nestsOption) :=
  forM_detects_any SchemaDecl.checkTypes_detects config.schemas

private theorem checkTypes_eq_ok {config : Config} (h : config.nestsOption = false) :
    config.checkTypes = .ok () := by
  refine config.checkTypes_detects.eq_ok_iff.mpr fun error herror => ?_
  rw [NestingError, h] at herror
  cases herror.1

private theorem checkTypes_eq_error {config : Config} (h : config.nestsOption = true) :
    ∃ shown, config.checkTypes = .error (.badFieldType (.nestedOption shown)) := by
  cases hcheck : config.checkTypes with
  | ok value =>
      have hnone := config.checkTypes_detects.complete hcheck
      exact absurd ⟨h, "", rfl⟩ (hnone (.badFieldType (.nestedOption "")))
  | error error =>
      obtain ⟨-, shown, rfl⟩ := config.checkTypes_detects.sound error hcheck
      exact ⟨shown, rfl⟩

/-! ## Types that are read -/

theorem exists_of_putOnce {α Parts : Type} {key : String} {old : Option α}
    {read : Except DecodeError α} {set : α → Parts} {parts : Parts}
    (h : putOnce key old read set = some (.ok parts)) :
    ∃ value, read = .ok value ∧ parts = set value := by
  rw [putOnce, Option.some.injEq] at h
  split at h
  · cases h
  · obtain ⟨value, hvalue, rfl⟩ := Sequence.map_eq_ok_iff.mp h
    exact ⟨value, hvalue, rfl⟩

section Invariants

variable {Parts Record : Type} {shape : Shape Parts Record} {Good : Parts → Prop}
  {parts result : Parts} {record : Record}

/-- What holds of the parts of a record still holds after one more of them has been read. -/
def Shape.Keeps (shape : Shape Parts Record) (Good : Parts → Prop) : Prop :=
  ∀ key draft parts result, Good parts → shape.put key draft parts = some (.ok result) →
    Good result

private theorem Shape.Keeps.decodeMembers (hkeeps : shape.Keeps Good) (hparts : Good parts)
    {members : List (Except Fault String × Draft)}
    (h : shape.decodeMembers parts members = .ok result) : Good result := by
  fun_induction shape.decodeMembers parts members with
  | case1 =>
      cases h
      exact hparts
  | case2 | case4 | case5 => cases h
  | case3 parts key draft members next hput ih => exact ih (hkeeps _ _ _ _ hparts hput) h
  | case6 parts key draft members hput hskip ih => exact ih hparts h

private theorem Shape.Keeps.decodeItems (hkeeps : shape.Keeps Good) (hparts : Good parts)
    {keys : List String} {items : List Draft}
    (h : shape.decodeItems parts keys items = .ok result) : Good result := by
  fun_induction shape.decodeItems parts keys items with
  | case1 =>
      cases h
      exact hparts
  | case2 | case3 => cases h
  | case4 parts key keys draft items next hput ih => exact ih (hkeeps _ _ _ _ hparts hput) h
  | case5 parts key keys draft items hput ih => exact ih hparts h

theorem unlessDamaged_eq_ok_iff {α : Type} {ending : Option Damage} {value result : α} :
    unlessDamaged ending value = .ok result ↔ ending = none ∧ value = result := by
  cases ending <;> simp [unlessDamaged]

theorem Shape.Keeps.decode (hkeeps : shape.Keeps Good) (hstart : Good shape.start)
    {draft : Draft} (h : shape.decode draft = .ok record) :
    ∃ parts, Good parts ∧ shape.finish parts = .ok record := by
  unfold Shape.decode at h
  split at h
  · obtain ⟨parts, hparts, h⟩ := Sequence.bind_eq_ok_iff.mp h
    obtain ⟨read, hread, h⟩ := Sequence.bind_eq_ok_iff.mp h
    obtain ⟨-, rfl⟩ := unlessDamaged_eq_ok_iff.mp hread
    refine ⟨parts, hkeeps.decodeMembers hstart hparts, ?_⟩
    split at h
    · rename_i finished hfinish
      cases h
      exact hfinish
    · cases h
  · obtain ⟨parts, hparts, h⟩ := Sequence.bind_eq_ok_iff.mp h
    refine ⟨parts, hkeeps.decodeItems hstart hparts, ?_⟩
    split at h
    · cases h
    · split at h
      · rename_i finished hfinish
        cases h
        exact hfinish
      · cases h
  · cases h

end Invariants

theorem exists_of_decodeSequence {α : Type} {decodeItem : Draft → Except DecodeError α}
    {draft : Draft} {values : List α} (h : decodeSequence decodeItem draft = .ok values) :
    ∀ value ∈ values, ∃ item, decodeItem item = .ok value := by
  unfold decodeSequence at h
  split at h
  · split at h
    · cases h
    · rename_i hitems
      obtain ⟨-, rfl⟩ := unlessDamaged_eq_ok_iff.mp h
      intro value hvalue
      obtain ⟨item, -, hitem⟩ := (Sequence.mem_iff_of_mapM hitems).mp hvalue
      exact ⟨item, hitem⟩
  · cases h

private theorem nestsOption_of_decodeFieldType {draft : Draft} {type : FieldType}
    (h : decodeFieldType draft = .ok type) : type.nestsOption = false := by
  unfold decodeFieldType at h
  split at h
  · cases h
  · split at h
    · rename_i hparse
      cases h
      exact FieldType.nestsOption_of_parse hparse
    · cases h

private theorem fieldShape_keeps :
    fieldShape.Keeps fun parts => ∀ type, parts.type = some type → type.nestsOption = false := by
  intro key draft parts result hparts hput
  simp only [fieldShape] at hput
  split at hput
  · obtain ⟨name, -, rfl⟩ := exists_of_putOnce hput
    exact hparts
  · obtain ⟨type, htype, rfl⟩ := exists_of_putOnce hput
    rintro _ ⟨⟩
    exact nestsOption_of_decodeFieldType htype
  · obtain ⟨tags, -, rfl⟩ := exists_of_putOnce hput
    exact hparts
  · cases hput

private theorem nestsOption_of_decodeField {draft : Draft} {decl : FieldDecl}
    (h : fieldShape.decode draft = .ok decl) : decl.type.nestsOption = false := by
  obtain ⟨parts, hparts, hfinish⟩ := fieldShape_keeps.decode (by simp [fieldShape]) h
  simp only [fieldShape] at hfinish
  split at hfinish
  · split at hfinish
    · cases hfinish
      exact hparts _ ‹_›
    · cases hfinish
  · cases hfinish

private theorem schemaShape_keeps :
    schemaShape.Keeps fun parts => ∀ fields, parts.fields = some fields →
      ∀ field ∈ fields, field.type.nestsOption = false := by
  intro key draft parts result hparts hput
  simp only [schemaShape] at hput
  split at hput
  · obtain ⟨name, -, rfl⟩ := exists_of_putOnce hput
    exact hparts
  · obtain ⟨fields, hfields, rfl⟩ := exists_of_putOnce hput
    rintro _ ⟨⟩ field hfield
    obtain ⟨item, hitem⟩ := exists_of_decodeSequence hfields field hfield
    exact nestsOption_of_decodeField hitem
  · obtain ⟨comment, -, rfl⟩ := exists_of_putOnce hput
    exact hparts
  · cases hput

private theorem nestsOption_of_decodeSchema {draft : Draft} {decl : SchemaDecl}
    (h : schemaShape.decode draft = .ok decl) : decl.nestsOption = false := by
  obtain ⟨parts, hparts, hfinish⟩ := schemaShape_keeps.decode (by simp [schemaShape]) h
  simp only [schemaShape] at hfinish
  split at hfinish
  · split at hfinish
    · rename_i fields hfields
      cases hfinish
      simpa [SchemaDecl.nestsOption] using hparts fields hfields
    · cases hfinish
  · cases hfinish

private theorem configShape_keeps :
    configShape.Keeps fun parts => ∀ schemas, parts.schemas = some schemas →
      ∀ schema ∈ schemas, schema.nestsOption = false := by
  intro key draft parts result hparts hput
  simp only [configShape] at hput
  split at hput
  · obtain ⟨schemas, hschemas, rfl⟩ := exists_of_putOnce hput
    rintro _ ⟨⟩ schema hschema
    obtain ⟨item, hitem⟩ := exists_of_decodeSequence hschemas schema hschema
    exact nestsOption_of_decodeSchema hitem
  · obtain ⟨mappings, -, rfl⟩ := exists_of_putOnce hput
    exact hparts
  · cases hput

private theorem nestsOption_of_decodeConfig {draft : Draft} {config : Config}
    (h : configShape.decode draft = .ok config) : config.nestsOption = false := by
  obtain ⟨parts, hparts, hfinish⟩ := configShape_keeps.decode (by simp [configShape]) h
  cases hfinish
  cases hschemas : parts.schemas with
  | none => simp [nestsOption]
  | some schemas => simpa [nestsOption] using hparts schemas hschemas

/-! ## Loading -/

theorem load_eq_ok_iff {text : String} {config : Config} :
    load text = .ok config ↔ decodeConfig text = .ok config := by
  unfold load
  cases decodeConfig text <;> simp

theorem nestsOption_of_load {text : String} {config : Config} (h : load text = .ok config) :
    config.nestsOption = false := by
  obtain ⟨value, hvalue, hrest⟩ := Sequence.bind_eq_ok_iff.mp (load_eq_ok_iff.mp h)
  split at hrest
  · cases hrest
  · cases hrest
    exact nestsOption_of_decodeConfig hvalue

theorem load_eq_of_writtenAs {config : Config} {text : String}
    (h : config.toJson.WrittenAs text) :
    load text =
      match config.checkTypes with
      | .ok _ => .ok config
      | .error cause => .error (.load (.undecodable cause)) := by
  obtain ⟨written, hreorders, hdocument⟩ := h.document
  rw [load, decodeConfig, decodeDocument]
  simp only [hdocument, config.readsBack written hreorders]
  cases config.checkTypes <;> rfl

theorem load_of_writtenAs {config : Config} {text : String} (h : config.toJson.WrittenAs text)
    (hflat : config.nestsOption = false) : load text = .ok config := by
  rw [load_eq_of_writtenAs h, checkTypes_eq_ok hflat]

/-! ## Written configurations -/

theorem textual_textMapJson (map : NameMap String) : (textMapJson map).Textual := by
  have hkeys := (keys_textMember map.toList).symm ▸ map.nodup_keys
  have hlisted : Textual (.object (map.toList.map textMember)) := by
    refine .object fun member hmember => ?_
    obtain ⟨entry, -, rfl⟩ := List.mem_map.mp hmember
    exact .string entry.2
  exact hlisted.of_reorders
    (reorders_ofMembers hkeys rfl (List.forall₂_same.mpr fun json _ => .same json))

private theorem textual_optionalTextJson (text : Option String) :
    (optionalTextJson text).Textual := by
  cases text with
  | none => exact .null
  | some text => exact .string text

theorem textual_array_map {α : Type} {write : α → Json} (h : ∀ item, (write item).Textual)
    (items : List α) : Textual (.array (items.map write)) := by
  refine .array fun json hjson => ?_
  obtain ⟨item, -, rfl⟩ := List.mem_map.mp hjson
  exact h item

theorem reorders_array_map {α : Type} {write other : α → Json}
    (h : ∀ item, (write item).Reorders (other item)) (items : List α) :
    Reorders (.array (items.map write)) (.array (items.map other)) := by
  refine .array ?_
  rw [List.forall₂_map_left_iff, List.forall₂_map_right_iff, List.forall₂_same]
  exact fun item _ => h item

/-! ## Members in the order of the declaration -/

def FieldDecl.toOrderedJson (decl : FieldDecl) : Json :=
  .object [
    ("name", .string decl.name),
    ("type", .string decl.type.text),
    ("tags", textMapJson decl.tags)]

def SchemaDecl.toOrderedJson (decl : SchemaDecl) : Json :=
  .object [
    ("name", .string decl.name),
    ("fields", .array (decl.fields.map (·.toOrderedJson))),
    ("comment", optionalTextJson decl.comment)]

def MappingDecl.toOrderedJson (decl : MappingDecl) : Json :=
  .object [
    ("source", .string decl.source),
    ("destination", .string decl.destination),
    ("fields", textMapJson decl.overrides),
    ("skip", .array (decl.skipped.map .string)),
    ("policy", .string decl.policy.name)]

def toOrderedJson (config : Config) : Json :=
  .object [
    ("schemas", .array (config.schemas.map (·.toOrderedJson))),
    ("mappings", .array (config.mappings.map (·.toOrderedJson)))]

private theorem FieldDecl.reorders (decl : FieldDecl) : decl.toOrderedJson.Reorders decl.toJson :=
  reorders_ofMembers decl.reads.keys rfl (List.forall₂_same.mpr fun json _ => .same json)

private theorem SchemaDecl.reorders (decl : SchemaDecl) : decl.toOrderedJson.Reorders decl.toJson :=
  reorders_ofMembers decl.reads.keys rfl
    (.cons (.same _) (.cons (reorders_array_map FieldDecl.reorders decl.fields)
      (.cons (.same _) .nil)))

private theorem MappingDecl.reorders (decl : MappingDecl) :
    decl.toOrderedJson.Reorders decl.toJson :=
  reorders_ofMembers decl.reads.keys rfl (List.forall₂_same.mpr fun json _ => .same json)

theorem reorders (config : Config) : config.toOrderedJson.Reorders config.toJson :=
  reorders_ofMembers config.reads.keys rfl
    (.cons (reorders_array_map SchemaDecl.reorders config.schemas)
      (.cons (reorders_array_map MappingDecl.reorders config.mappings) .nil))

private theorem FieldDecl.textual (decl : FieldDecl) : decl.toOrderedJson.Textual := by
  refine .object ?_
  simp only [List.forall_mem_cons]
  exact ⟨.string _, .string _, textual_textMapJson decl.tags, nofun⟩

private theorem SchemaDecl.textual (decl : SchemaDecl) : decl.toOrderedJson.Textual := by
  refine .object ?_
  simp only [List.forall_mem_cons]
  exact ⟨.string _, textual_array_map FieldDecl.textual decl.fields,
    textual_optionalTextJson decl.comment, nofun⟩

private theorem MappingDecl.textual (decl : MappingDecl) : decl.toOrderedJson.Textual := by
  refine .object ?_
  simp only [List.forall_mem_cons]
  exact ⟨.string _, .string _, textual_textMapJson decl.overrides,
    textual_array_map Textual.string decl.skipped, .string _, nofun⟩

theorem textual (config : Config) : config.toOrderedJson.Textual := by
  refine .object ?_
  simp only [List.forall_mem_cons]
  exact ⟨textual_array_map SchemaDecl.textual config.schemas,
    textual_array_map MappingDecl.textual config.mappings, nofun⟩

/-! ## Loading what was written -/

theorem load_undoes_writing :
    (∀ (config : Config) (text : String), config.toJson.WrittenAs text →
      (config.nestsOption = false → load text = .ok config) ∧
      (config.nestsOption = true → ∃ shown,
        load text = .error (.load (.undecodable (.badFieldType (.nestedOption shown)))))) ∧
    (∀ (text : String) (config : Config), load text = .ok config →
      ∀ rewritten, config.toJson.WrittenAs rewritten → load rewritten = .ok config) ∧
    ∀ config : Config, ∀ written ∈ [config.toJson, config.toOrderedJson],
      config.toJson.WrittenAs written.render ∧ config.toJson.WrittenAs written.pretty := by
  refine ⟨fun config text htext => ⟨load_of_writtenAs htext, fun hnests => ?_⟩, ?_, ?_⟩
  · obtain ⟨shown, hshown⟩ := checkTypes_eq_error hnests
    exact ⟨shown, by rw [load_eq_of_writtenAs htext, hshown]⟩
  · intro text config hload rewritten hrewritten
    exact load_of_writtenAs hrewritten (nestsOption_of_load hload)
  · intro config
    have hordered := config.textual
    have hsorted := hordered.of_reorders config.reorders
    simp only [List.forall_mem_cons]
    exact ⟨⟨hsorted.writtenAs_render (.same _), hsorted.writtenAs_pretty (.same _)⟩,
      ⟨hordered.writtenAs_render config.reorders, hordered.writtenAs_pretty config.reorders⟩,
      nofun⟩

/-- The blanks, the order of the members and the repeated name in the skip list do not
matter; the option in an option does, also inside a list. -/
theorem load_undoes_writing_row :
    let id : FieldDecl := ⟨"id", .list (.option (.int .i64)), .ofList [("json", "ID")]⟩
    let twice : FieldDecl := ⟨"id", .list (.option (.option .bool)), ∅⟩
    let mapping : MappingDecl :=
      ⟨"Row", "Cell", .ofList [("b", "id"), ("a", "id")], ["c", "c"], .strict⟩
    let config : Config := ⟨[⟨"Row", [id], none⟩, ⟨"Cell", [], some "kept"⟩], [mapping]⟩
    let nested : Config := ⟨[⟨"Row", [id, twice], none⟩], []⟩
    config.nestsOption = false ∧ nested.nestsOption = true ∧
      load config.toOrderedJson.render = .ok config ∧
      load config.toJson.pretty = .ok config ∧
      ∃ shown, load nested.toOrderedJson.pretty =
        .error (.load (.undecodable (.badFieldType (.nestedOption shown)))) := by
  intro id twice mapping config nested
  obtain ⟨hloads, hreloads, hwritten⟩ := load_undoes_writing
  have hconfig := hwritten config
  have hnested := hwritten nested
  simp only [List.forall_mem_cons] at hconfig hnested
  obtain ⟨hsorted, hordered, -⟩ := hconfig
  have hflat : config.nestsOption = false := by decide
  have hnests : nested.nestsOption = true := by decide
  have hload := (hloads config _ hordered.1).1 hflat
  exact ⟨hflat, hnests, hload, hreloads _ config hload _ hsorted.2,
    (hloads nested _ hnested.2.1.2).2 hnests⟩

end Reshape.Config
