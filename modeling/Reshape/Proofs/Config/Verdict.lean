import Reshape.Proofs.Config.Validation

/-!
# Validation finds the first fault

Validation passes the valid configurations and no others.  It fails with a fault of the
first schema that has one, or else of the first mapping that has one.  Which fault of a
mapping that is may depend on the order in which its overrides are visited; whether
there is one does not.
-/

namespace Reshape.Config

open Sequence

/-- Validation that visits the overrides of each mapping in the given order. -/
def validateVisiting (visit : Visit) (config : Config) : Except ConfigError Unit := do
  checkSchemas [] config.schemas
  checkEach (checkMappingAfter visit config.schemas) [] config.mappings

theorem checkSchemas_eq (schemas : List SchemaDecl) :
    checkSchemas [] schemas = checkEach checkSchemaAfter [] schemas :=
  checkSchemas_eq_checkEach (by simp)

theorem validate_eq_validateVisiting (config : Config) :
    config.validate = config.validateVisiting (·.overrides.toList) := by
  have hnone : ∀ pair : String × String,
      pair ∈ ([] : List (String × String)) ↔
        pair ∈ ([] : List MappingDecl).map (·.pair) := by
    simp
  unfold validate validateVisiting
  rw [checkMappings_eq_checkEach hnone]

/-- An error of the configuration: that of its first schema with a fault or else that of
its first mapping with one. -/
def FirstFault (config : Config) (error : ConfigError) : Prop :=
  Sequence.FirstFault SchemaDecl.Fault config.schemas error ∨
    Faultless SchemaDecl.Fault config.schemas ∧
      Sequence.FirstFault (MappingDecl.Fault config.schemas) config.mappings error

private theorem FirstFault.not_valid {config : Config} {error : ConfigError}
    (h : config.FirstFault error) : ¬config.Valid := by
  rw [valid_iff_faultless]
  rintro ⟨hschemas, hmappings⟩
  rcases h with h | ⟨-, h⟩
  · exact h.not_faultless hschemas
  · exact h.not_faultless hmappings

theorem names_nodup_of_faultless {schemas : List SchemaDecl}
    (h : Faultless SchemaDecl.Fault schemas) : (schemas.map (·.name)).Nodup := by
  rw [nodup_map_iff_earlier]
  exact fun earlier schema hplace =>
    (SchemaDecl.forall_not_fault_iff.mp (h earlier schema hplace)).1

section Visiting

variable {visit : Visit} {config : Config}
  (hvisit : ∀ mapping, (visit mapping).Perm mapping.overrides.toList)

include hvisit

theorem validateVisiting_eq_ok_iff :
    config.validateVisiting visit = .ok () ↔ config.Valid := by
  rw [valid_iff_faultless, validateVisiting, check_bind_eq_ok_iff, checkSchemas_eq,
    checkEach_eq_ok_iff checkSchemaAfter_detects]
  refine and_congr_right fun hschemas => ?_
  exact checkEach_eq_ok_iff
    (checkMappingAfter_detects (names_nodup_of_faultless hschemas) hvisit)

theorem firstFault_of_validateVisiting {error : ConfigError}
    (h : config.validateVisiting visit = .error error) : config.FirstFault error := by
  rw [validateVisiting, checkSchemas_eq] at h
  cases hcheck : checkEach checkSchemaAfter [] config.schemas with
  | error cause =>
      rw [hcheck, error_bind] at h
      cases h
      exact .inl ((checkEach_detects checkSchemaAfter_detects _).sound _ hcheck)
  | ok value =>
      rw [hcheck, ok_bind] at h
      have hschemas := (checkEach_eq_ok_iff checkSchemaAfter_detects).mp hcheck
      have hdetects := checkEach_detects
        (checkMappingAfter_detects (names_nodup_of_faultless hschemas) hvisit) config.mappings
      exact .inr ⟨hschemas, hdetects.sound error h⟩

end Visiting

theorem validate_eq_ok_iff {config : Config} : config.validate = .ok () ↔ config.Valid := by
  rw [validate_eq_validateVisiting, validateVisiting_eq_ok_iff fun mapping => .refl _]

theorem validate_finds_first_fault (config : Config) (visit : Visit)
    (hvisit : ∀ mapping, (visit mapping).Perm mapping.overrides.toList) :
    (config.validate = .ok () ↔ config.Valid) ∧
      config.validate = config.validateVisiting (·.overrides.toList) ∧
      (config.validateVisiting visit = .ok () ↔ config.validate = .ok ()) ∧
      ∀ error, config.validateVisiting visit = .error error → config.FirstFault error := by
  refine ⟨validate_eq_ok_iff, validate_eq_validateVisiting config, ?_, ?_⟩
  · rw [validateVisiting_eq_ok_iff hvisit, validate_eq_ok_iff]
  · exact fun error => firstFault_of_validateVisiting hvisit

/-- Of the two faults of this mapping each is found first in one order of its overrides. -/
theorem validate_finds_first_fault_reversed :
    let row : SchemaDecl := ⟨"Row", [⟨"id", .int .i64, .ofList [("json", "ID")]⟩], none⟩
    let cell : SchemaDecl := ⟨"Cell", [⟨"a", .string, ∅⟩, ⟨"c", .string, ∅⟩], none⟩
    let overrides : NameMap String := .ofList [("a", "name"), ("b", "id"), ("c", "Id")]
    let config : Config := ⟨[row, cell], [⟨"Row", "Cell", overrides, ["c"], .strict⟩]⟩
    let visit : Visit := fun mapping => mapping.overrides.toList.reverse
    (∀ mapping, (visit mapping).Perm mapping.overrides.toList) ∧
      config.validate = .error (.missingReference (.sourceField "Row" "name")) ∧
      config.validateVisiting visit =
        .error (.missingReference (.destinationField "Cell" "b")) ∧
      config.FirstFault (.missingReference (.destinationField "Cell" "b")) ∧
      ¬config.Valid := by
  intro row cell overrides config visit
  have hvisit : ∀ mapping, (visit mapping).Perm mapping.overrides.toList :=
    fun mapping => List.reverse_perm _
  have hvalidate :
      config.validate = .error (.missingReference (.sourceField "Row" "name")) := by
    decide +kernel
  have hvisiting : config.validateVisiting visit =
      .error (.missingReference (.destinationField "Cell" "b")) := by
    decide +kernel
  obtain ⟨-, -, -, hfault⟩ := validate_finds_first_fault config visit hvisit
  exact ⟨hvisit, hvalidate, hvisiting, hfault _ hvisiting, (hfault _ hvisiting).not_valid⟩

end Reshape.Config
