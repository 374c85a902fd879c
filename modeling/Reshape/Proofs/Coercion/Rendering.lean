import Reshape.Proofs.Coercion.Modular
import Reshape.Proofs.Coercion.Verdict
import Reshape.Proofs.Typing.Json

/-!
# Coercions and JSON

Text becomes the same UUID or timestamp whether it is read from JSON or coerced.  A
coercion that changes only the type under which a value is held assigns a value that is
rendered to the same JSON.
-/

namespace Reshape.Value

variable {value : Value} {source target : FieldType}

/-! ## Text -/

/-- The two ways to read a text differ only in that JSON tells why one cannot be read. -/
private theorem toOption_ofJson_string {text : String} (h : FieldType.string.ReadsText target) :
    (ofJson target (.string text)).toOption = (Value.string text).convert? target := by
  cases h with
  | uuid =>
      show (ofJson .uuid (.string text)).toOption = (Uuid.parse text).toOption.map .uuid
      rw [ofJson]
      cases Uuid.parse text <;> rfl
  | timestamp =>
      show (ofJson .timestamp (.string text)).toOption =
        (Timestamp.parse text).toOption.map .timestamp
      rw [ofJson]
      cases Timestamp.parse text <;> rfl

private theorem coerce_string {text : String} (h : FieldType.string.ReadsText target) :
    (Value.string text).coerce .string target =
      Coercion.Rule.convert.apply (.string text) target := by
  cases h <;> rfl

/-! ## Rendering -/

/-- The coercions that do not change how a value is rendered. -/
inductive KeepsRendering : Value → FieldType → FieldType → Prop where
  | same (value : Value) (type : FieldType) : KeepsRendering value type type
  | json (value : Value) (source : FieldType) : KeepsRendering value source .json
  | wrap (value : Value) (source : FieldType) :
      KeepsRendering value source (.option source)
  | unwrap {value : Value} (target : FieldType) :
      value ≠ .null → KeepsRendering value (.option target) target
  | text (value : Value) {source : FieldType} :
      FieldType.string.ReadsText source → KeepsRendering value source .string
  | int {value : Value} {number : Int} (source : IntType) {target : IntType} :
      value.toInt? = some number → target.Holds number →
      KeepsRendering value (.int source) (.int target)

theorem HasType.coerce_json (h : value.HasType source) :
    value.coerce source .json = .assigned (.json value.toJson) := by
  by_cases hsource : source = .json
  · subst hsource
    cases h with
    | json json => exact coerce_same _ _
  · have hconvertible : source.convertible .json = true :=
      (FieldType.convertible_iff rfl).mpr (.inl rfl)
    rw [coerce_of_convertible value hsource hconvertible]
    rfl

theorem HasType.coerce_keeps_rendering (hvalue : value.HasType source)
    (hkeeps : value.KeepsRendering source target) :
    ∃ result, value.coerce source target = .assigned result ∧
      result.toJson = value.toJson := by
  cases hkeeps with
  | same => exact ⟨value, coerce_same value source, rfl⟩
  | json => exact ⟨.json value.toJson, hvalue.coerce_json, rfl⟩
  | wrap => exact ⟨value, coerce_wrap value source, rfl⟩
  | unwrap _ hpresent =>
      by_cases htarget : target = .json
      · subst htarget
        exact ⟨.json value.toJson, hvalue.coerce_json, rfl⟩
      · have hnull : value.isNull = false := by
          rwa [← Bool.not_eq_true, isNull_iff]
        exact ⟨value, by rw [coerce_unwrap value htarget, hnull]; rfl, rfl⟩
  | text hreads =>
      cases hreads with
      | uuid =>
          cases hvalue with
          | uuid => exact ⟨_, rfl, rfl⟩
      | timestamp =>
          cases hvalue with
          | timestamp => exact ⟨_, rfl, rfl⟩
  | int source hnumber hholds =>
      cases hvalue with
      | int _ held =>
          obtain rfl : held.val = _ := Option.some.inj hnumber
          refine ⟨_, coerce_int_eq _ _ held, ?_⟩
          rw [IntType.wrap_eq_of_holds hholds, toJson, toJson]

/-! ## Agreement -/

theorem coerce_agrees_with_json :
    (∀ (text : String) (type : FieldType) (value : Value),
      FieldType.string.ReadsText type →
      (ofJson type (.string text) = .ok value ↔
        (Value.string text).coerce .string type = .assigned value)) ∧
    ∀ (value : Value) (source target : FieldType),
      value.HasType source → value.KeepsRendering source target →
      ∃ result, value.coerce source target = .assigned result ∧
        result.toJson = value.toJson := by
  refine ⟨fun text type value hreads => ?_, fun value source target => ?_⟩
  · rw [coerce_string hreads, Coercion.Rule.apply_convert_eq_assigned_iff,
      ← toOption_ofJson_string hreads]
    cases ofJson type (.string text) <;> simp [Except.toOption]
  · exact HasType.coerce_keeps_rendering

/-- A timestamp with an offset, JSON `null` in an option, and the largest number that two
types share. -/
theorem coerce_agrees_with_json_bounds :
    let text := "2024-05-01T12:00:00+02:00"
    let morning : Timestamp := ⟨1714557600, 0, by decide, by decide⟩
    let present : Value := .json .null
    let number : IntType.u64.Carrier := ⟨2 ^ 63 - 1, by decide⟩
    let largest : Value := .int .u64 number
    (FieldType.string.ReadsText .timestamp ∧
      ofJson .timestamp (.string text) = .ok (.timestamp morning) ∧
      (Value.string text).coerce .string .timestamp = .assigned (.timestamp morning)) ∧
    (present.HasType (.option .json) ∧ present.KeepsRendering (.option .json) .json ∧
      ∃ result, present.coerce (.option .json) .json = .assigned result ∧
        result.toJson = .null) ∧
    largest.HasType (.int .u64) ∧ largest.KeepsRendering (.int .u64) (.int .i64) ∧
      ∃ result, largest.coerce (.int .u64) (.int .i64) = .assigned result ∧
        result.toJson = largest.toJson := by
  intro text morning present number largest
  obtain ⟨hreading, hrendering⟩ := coerce_agrees_with_json
  have hread : ofJson .timestamp (.string text) = .ok (.timestamp morning) := by
    rw [ofJson, (by decide +kernel : Timestamp.parse text = .ok morning)]
  have hpresent : present.HasType (.option .json) := .present (.json .null)
  have hkept : present.KeepsRendering (.option .json) .json := .json _ _
  have hheld : largest.HasType (.int .u64) := .int .u64 number
  have hshared : largest.KeepsRendering (.int .u64) (.int .i64) := .int .u64 rfl (by decide)
  exact ⟨⟨.timestamp, hread, (hreading text .timestamp _ .timestamp).mp hread⟩,
    ⟨hpresent, hkept, hrendering present _ _ hpresent hkept⟩,
    hheld, hshared, hrendering largest _ _ hheld hshared⟩

end Reshape.Value
