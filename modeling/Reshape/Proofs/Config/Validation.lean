import Std.Data.ExtTreeMap.Lemmas
import Reshape.Proofs.Config.Fault

/-!
# The faults that checks detect

The check of each declaration of a configuration passes if the declaration has no fault
after those before it, and fails with one of its faults otherwise.  That holds in every
order in which the overrides of a mapping may be visited.
-/

namespace Reshape

open Sequence

namespace Config

/-! ## Repetitions -/

private theorem firstRepeated?_eq_none_iff {α : Type} [DecidableEq α] {before items : List α} :
    firstRepeated? before items = none ↔
      items.Nodup ∧ ∀ item ∈ items, item ∉ before := by
  induction items generalizing before with
  | nil => simp [firstRepeated?]
  | cons item items ih =>
      simp only [firstRepeated?, List.nodup_cons, List.forall_mem_cons]
      split
      · rename_i hmem
        simp [hmem]
      · rename_i hmem
        rw [ih]
        constructor
        · rintro ⟨hnodup, hfresh⟩
          refine ⟨⟨fun hitem => ?_, hnodup⟩, hmem, fun other hother hbefore => ?_⟩
          · exact hfresh item hitem (by simp)
          · exact hfresh other hother (by simp [hbefore])
        · rintro ⟨⟨hitem, hnodup⟩, -, hfresh⟩
          refine ⟨hnodup, fun other hother => ?_⟩
          rw [List.mem_cons, not_or]
          exact ⟨fun heq => hitem (heq ▸ hother), hfresh other hother⟩

private theorem sublist_of_firstRepeated? {α : Type} [DecidableEq α] {before items : List α}
    {item : α} (h : firstRepeated? before items = some item) :
    [item, item].Sublist (before.reverse ++ items) := by
  induction items generalizing before with
  | nil => cases h
  | cons head items ih =>
      simp only [firstRepeated?] at h
      split at h
      · rename_i hmem
        cases h
        have hbefore : [item].Sublist before.reverse := by simpa using hmem
        exact hbefore.append (List.Sublist.cons_cons item (List.nil_sublist items))
      · simpa using ih h

private theorem firstSharedKey?_eq_none_iff {before fields : List Field} :
    firstSharedKey? before fields = none ↔
      (fields.map (·.jsonKey)).Nodup ∧
        ∀ field ∈ fields, ∀ earlier ∈ before, earlier.jsonKey ≠ field.jsonKey := by
  induction fields generalizing before with
  | nil => simp [firstSharedKey?]
  | cons field fields ih =>
      simp only [firstSharedKey?, List.map_cons, List.nodup_cons, List.forall_mem_cons]
      split
      · rename_i first hfirst
        have hkey : first.jsonKey = field.jsonKey := by
          simpa using List.find?_some hfirst
        simp only [reduceCtorEq, false_iff, not_and]
        intro _ hbefore
        exact absurd hkey (hbefore first (List.mem_of_find?_eq_some hfirst))
      · rename_i hfresh
        have hbefore : ∀ earlier ∈ before, earlier.jsonKey ≠ field.jsonKey := by
          simpa using hfresh
        rw [ih]
        simp only [List.mem_map, not_exists, not_and, List.forall_mem_cons]
        constructor
        · rintro ⟨hnodup, hrest⟩
          exact ⟨⟨fun other hother heq => (hrest other hother).1 heq.symm, hnodup⟩,
            hbefore, fun other hother => (hrest other hother).2⟩
        · rintro ⟨⟨hfield, hnodup⟩, -, hrest⟩
          exact ⟨hnodup, fun other hother =>
            ⟨fun heq => hfield other hother heq.symm, hrest other hother⟩⟩

private theorem sublist_of_firstSharedKey? {before fields : List Field} {first second : Field}
    (h : firstSharedKey? before fields = some (first, second)) :
    [first, second].Sublist (before.reverse ++ fields) ∧
      first.jsonKey = second.jsonKey := by
  induction fields generalizing before with
  | nil => cases h
  | cons field fields ih =>
      simp only [firstSharedKey?] at h
      split at h
      · rename_i earlier hearlier
        cases h
        have hbefore : [first].Sublist before.reverse := by
          simpa using List.mem_of_find?_eq_some hearlier
        exact ⟨hbefore.append (List.Sublist.cons_cons second (List.nil_sublist fields)),
          by simpa using List.find?_some hearlier⟩
      · simpa using ih h

/-! ## Schemas -/

private theorem checkKeys_eq_ok_iff {schema : Schema} :
    checkKeys schema = .ok () ↔ schema.DistinctKeys := by
  unfold checkKeys Schema.DistinctKeys
  cases h : firstSharedKey? [] schema.visible with
  | none =>
      have hkeys := (firstSharedKey?_eq_none_iff.mp h).1
      simp [hkeys]
  | some shared =>
      have hkeys : ¬ (schema.visible.map (·.jsonKey)).Nodup := by
        intro hnodup
        rw [firstSharedKey?_eq_none_iff.mpr ⟨hnodup, by simp⟩] at h
        cases h
      simp [hkeys]

private theorem checkSchema_eq_ok_iff {decl : SchemaDecl} :
    checkSchema decl = .ok () ↔
      decl.toSchema.DistinctNames ∧ decl.toSchema.DistinctKeys := by
  unfold checkSchema Schema.DistinctNames
  rw [SchemaDecl.names_toSchema]
  cases h : firstRepeated? [] (decl.fields.map (·.name)) with
  | none =>
      have hnames := (firstRepeated?_eq_none_iff.mp h).1
      simp [hnames, checkKeys_eq_ok_iff]
  | some field =>
      have hnames : ¬ (decl.fields.map (·.name)).Nodup := by
        intro hnodup
        rw [firstRepeated?_eq_none_iff.mpr ⟨hnodup, by simp⟩] at h
        cases h
      simp [hnames]

/-- Checks a schema that follows those in `earlier`. -/
def checkSchemaAfter (earlier : List SchemaDecl) (schema : SchemaDecl) :
    Except ConfigError Unit :=
  if schema.name ∈ earlier.map (·.name) then .error (.duplicateSchema schema.name)
  else checkSchema schema

private theorem fault_of_checkSchema {earlier : List SchemaDecl} {schema : SchemaDecl}
    {error : ConfigError} (h : checkSchema schema = .error error) :
    schema.Fault earlier error := by
  unfold checkSchema at h
  split at h
  · rename_i field hfield
    cases h
    exact .repeatedField field (by simpa using sublist_of_firstRepeated? hfield)
  · unfold checkKeys at h
    split at h
    · rename_i first second hshared
      cases h
      obtain ⟨hvisible, hkey⟩ := sublist_of_firstSharedKey? hshared
      exact .sharedKey first second (by simpa using hvisible) hkey
    · cases h

theorem checkSchemaAfter_detects (earlier : List SchemaDecl) (schema : SchemaDecl) :
    Detects (checkSchemaAfter earlier schema) (schema.Fault earlier) := by
  unfold checkSchemaAfter
  split
  · rename_i hmem
    refine ⟨fun error herror => ?_, nofun⟩
    cases herror
    exact .repeatedName hmem
  · rename_i hfresh
    refine ⟨fun error herror => fault_of_checkSchema herror, fun hok => ?_⟩
    exact SchemaDecl.forall_not_fault_iff.mpr ⟨hfresh, checkSchema_eq_ok_iff.mp hok⟩

theorem checkSchemas_eq_checkEach {names : List String} {earlier schemas : List SchemaDecl}
    (hnames : ∀ name, name ∈ names ↔ name ∈ earlier.map (·.name)) :
    checkSchemas names schemas = checkEach checkSchemaAfter earlier schemas := by
  induction schemas generalizing names earlier with
  | nil => rfl
  | cons schema schemas ih =>
      simp only [checkSchemas, checkEach, checkSchemaAfter, ← hnames]
      split
      · rfl
      · have hnext : ∀ name, name ∈ schema.name :: names ↔
            name ∈ (earlier ++ [schema]).map (·.name) := by
          intro name
          simp [hnames, or_comm, eq_comm]
        rw [ih hnext]

/-! ## References -/

private theorem findSchema_eq_ok_iff {schemas : List SchemaDecl}
    (hnames : (schemas.map (·.name)).Nodup) {name : String} {schema : SchemaDecl} :
    findSchema schemas name = .ok schema ↔ schema ∈ schemas ∧ schema.name = name := by
  have hfind : findSchema schemas name = .ok schema ↔
      schemas.find? (·.name == name) = some schema := by
    unfold findSchema
    cases schemas.find? (·.name == name) <;> simp
  rw [hfind]
  constructor
  · intro h
    exact ⟨List.mem_of_find?_eq_some h, by simpa using List.find?_some h⟩
  · rintro ⟨hmem, rfl⟩
    cases h : schemas.find? (·.name == schema.name) with
    | none =>
        have hother := List.find?_eq_none.mp h schema hmem
        simp at hother
    | some found =>
        have hname : found.name = schema.name := by simpa using List.find?_some h
        rw [List.inj_on_of_nodup_map hnames (List.mem_of_find?_eq_some h) hmem hname]

private theorem findSchema_eq_error_iff {schemas : List SchemaDecl} {name : String}
    {error : ConfigError} :
    findSchema schemas name = .error error ↔
      name ∉ schemas.map (·.name) ∧ error = .missingReference (.schema name) := by
  unfold findSchema
  split
  · rename_i schema hschema
    have hname : schema.name = name := by simpa using List.find?_some hschema
    have hmem : name ∈ schemas.map (·.name) :=
      hname ▸ List.mem_map_of_mem (List.mem_of_find?_eq_some hschema)
    simp only [reduceCtorEq, false_iff, not_and]
    exact fun hunknown => absurd hmem hunknown
  · rename_i hnone
    have hfresh : name ∉ schemas.map (·.name) := by simpa using hnone
    simp [hfresh, eq_comm]

section Fields

variable {source destination : Schema}

def UnknownField (destination : Schema) (field : String) (error : ConfigError) : Prop :=
  field ∉ destination.fields.map (·.name) ∧
    error = .missingReference (.destinationField destination.name field)

def UnresolvedSource (source : Schema) (name : String) (error : ConfigError) : Prop :=
  source.resolve? name = none ∧ error = .missingReference (.sourceField source.name name)

theorem checkDestination_detects (field : String) :
    Detects (checkDestination destination field) (UnknownField destination field) := by
  unfold checkDestination UnknownField
  split
  · rename_i hmem
    exact ⟨nofun, fun _ _ hfault => hfault.1 hmem⟩
  · rename_i hunknown
    refine ⟨fun error herror => ?_, nofun⟩
    cases herror
    exact ⟨hunknown, rfl⟩

private theorem checkOverride_detects (override : String × String) :
    Detects (checkOverride source destination override) fun error =>
      UnknownField destination override.1 error ∨
        UnresolvedSource source override.2 error := by
  unfold checkOverride UnresolvedSource
  refine (checkDestination_detects override.1).bind ?_
  cases source.resolve? override.2 with
  | none =>
      refine ⟨fun error herror => ?_, nofun⟩
      cases herror
      exact ⟨rfl, rfl⟩
  | some found => exact ⟨nofun, by simp⟩

private theorem checkFields_detects (overrides : List (String × String)) (skipped : List String) :
    Detects (checkFields source destination overrides skipped) fun error =>
      (∃ override ∈ overrides, UnknownField destination override.1 error ∨
        UnresolvedSource source override.2 error) ∨
      ∃ field ∈ skipped, UnknownField destination field error :=
  (forM_detects checkOverride_detects overrides).bind
    (forM_detects checkDestination_detects skipped)

end Fields

/-! ## Mappings -/

/-- In which order the overrides of a mapping are visited. -/
abbrev Visit : Type := MappingDecl → List (String × String)

/-- Checks a mapping that follows those in `earlier`. -/
def checkMappingAfter (visit : Visit) (schemas : List SchemaDecl)
    (earlier : List MappingDecl) (mapping : MappingDecl) : Except ConfigError Unit := do
  let source ← findSchema schemas mapping.source
  let destination ← findSchema schemas mapping.destination
  if (earlier.map (·.pair)).contains mapping.pair then
    .error (.duplicateMapping mapping.source mapping.destination)
  else
    checkFields source.toSchema destination.toSchema (visit mapping) mapping.skipped

section Mappings

variable {visit : Visit} {schemas : List SchemaDecl} {earlier : List MappingDecl}
  {mapping : MappingDecl}

private theorem mem_visit_iff (hvisit : (visit mapping).Perm mapping.overrides.toList)
    {field name : String} :
    (field, name) ∈ visit mapping ↔ mapping.overrides[field]? = some name := by
  rw [hvisit.mem_iff, Std.ExtTreeMap.mem_toList_iff_getElem?_eq_some]

/-- Once both schemas are found and the pair is new, only fields can be at fault. -/
private theorem fault_iff_of_found (hnames : (schemas.map (·.name)).Nodup)
    (hvisit : (visit mapping).Perm mapping.overrides.toList) {source destination : SchemaDecl}
    (hsource : source ∈ schemas ∧ source.name = mapping.source)
    (hdestination : destination ∈ schemas ∧ destination.name = mapping.destination)
    (hfresh : mapping.pair ∉ earlier.map (·.pair)) (error : ConfigError) :
    ((∃ override ∈ visit mapping, UnknownField destination.toSchema override.1 error ∨
        UnresolvedSource source.toSchema override.2 error) ∨
      ∃ field ∈ mapping.skipped, UnknownField destination.toSchema field error) ↔
      mapping.Fault schemas earlier error := by
  have hdestinationName : destination.toSchema.name = mapping.destination := hdestination.2
  have hsourceName : source.toSchema.name = mapping.source := hsource.2
  simp only [UnknownField, UnresolvedSource, SchemaDecl.names_toSchema, hdestinationName,
    hsourceName]
  constructor
  · rintro (⟨⟨field, name⟩, hoverride, ⟨hunknown, rfl⟩ | ⟨hnone, rfl⟩⟩ |
      ⟨field, hskipped, hunknown, rfl⟩)
    · have hfield : field ∈ mapping.overrides := by
        rw [Std.ExtTreeMap.mem_iff_isSome_getElem?, (mem_visit_iff hvisit).mp hoverride]
        rfl
      exact .unknownField destination field hdestination.1 hdestination.2 (.inl hfield)
        hunknown
    · exact .unresolvedSource source field name hsource.1 hsource.2
        ((mem_visit_iff hvisit).mp hoverride) hnone
    · exact .unknownField destination field hdestination.1 hdestination.2 (.inr hskipped)
        hunknown
  · intro hfault
    cases hfault with
    | unknownSource hunknown =>
        exact absurd (hsource.2 ▸ List.mem_map_of_mem hsource.1) hunknown
    | unknownDestination hunknown =>
        exact absurd (hdestination.2 ▸ List.mem_map_of_mem hdestination.1) hunknown
    | repeatedPair hmem => exact absurd hmem hfresh
    | unknownField other field hmem hname hfield hunknown =>
        obtain rfl := List.inj_on_of_nodup_map hnames hmem hdestination.1
          (hname.trans hdestination.2.symm)
        rcases hfield with hfield | hskipped
        · have hname := Std.ExtTreeMap.getElem?_eq_some_getElem hfield
          exact .inl ⟨_, (mem_visit_iff hvisit).mpr hname, .inl ⟨hunknown, rfl⟩⟩
        · exact .inr ⟨field, hskipped, hunknown, rfl⟩
    | unresolvedSource other field name hmem hname hoverride hnone =>
        obtain rfl := List.inj_on_of_nodup_map hnames hmem hsource.1
          (hname.trans hsource.2.symm)
        exact .inl ⟨_, (mem_visit_iff hvisit).mpr hoverride, .inr ⟨hnone, rfl⟩⟩

theorem checkMappingAfter_detects (hnames : (schemas.map (·.name)).Nodup)
    (hvisit : ∀ mapping, (visit mapping).Perm mapping.overrides.toList)
    (earlier : List MappingDecl) (mapping : MappingDecl) :
    Detects (checkMappingAfter visit schemas earlier mapping)
      (mapping.Fault schemas earlier) := by
  unfold checkMappingAfter
  cases hsource : findSchema schemas mapping.source with
  | error cause =>
      obtain ⟨hunknown, rfl⟩ := findSchema_eq_error_iff.mp hsource
      refine ⟨fun error herror => ?_, nofun⟩
      cases herror
      exact .unknownSource hunknown
  | ok source =>
      cases hdestination : findSchema schemas mapping.destination with
      | error cause =>
          obtain ⟨hunknown, rfl⟩ := findSchema_eq_error_iff.mp hdestination
          refine ⟨fun error herror => ?_, nofun⟩
          cases herror
          exact .unknownDestination hunknown
      | ok destination =>
          simp only [ok_bind, List.contains_iff_mem]
          split
          · rename_i hmem
            refine ⟨fun error herror => ?_, fun hok => ?_⟩
            · cases herror
              exact .repeatedPair hmem
            · cases hok
          · rename_i hfresh
            exact (checkFields_detects (visit mapping) mapping.skipped).congr
              (fault_iff_of_found hnames (hvisit mapping)
                ((findSchema_eq_ok_iff hnames).mp hsource)
                ((findSchema_eq_ok_iff hnames).mp hdestination) hfresh)

end Mappings

theorem checkMappings_eq_checkEach {schemas : List SchemaDecl}
    {pairs : List (String × String)} {earlier mappings : List MappingDecl}
    (hpairs : ∀ pair, pair ∈ pairs ↔ pair ∈ earlier.map (·.pair)) :
    checkMappings schemas pairs mappings =
      checkEach (checkMappingAfter (·.overrides.toList) schemas) earlier mappings := by
  induction mappings generalizing pairs earlier with
  | nil => rfl
  | cons mapping mappings ih =>
      have hnext : ∀ pair, pair ∈ mapping.pair :: pairs ↔
          pair ∈ (earlier ++ [mapping]).map (·.pair) := by
        intro pair
        simp [hpairs, or_comm, eq_comm]
      simp only [checkMappings, checkEach, checkMappingAfter, List.contains_iff_mem, ← hpairs]
      cases findSchema schemas mapping.source with
      | error cause => rfl
      | ok source =>
          cases findSchema schemas mapping.destination with
          | error cause => rfl
          | ok destination =>
              rw [← ih hnext]
              simp only [ok_bind]
              split
              · rename_i hmem
                have hpair : mapping.pair ∈ pairs := hmem
                rw [if_pos hpair, error_bind]
              · rename_i hfresh
                have hpair : mapping.pair ∉ pairs := hfresh
                rw [if_neg hpair]
                rfl

end Config

end Reshape
