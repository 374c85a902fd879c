import Mathlib.Data.List.Basic
import Reshape.Proofs.Text.Utf8
import Reshape.Proofs.Typing.Coercion

/-!
# Text and its octets

A text that is coerced to the list of its octets comes back as the same text.  Every list of
octets is coerced to a text, which has the same octets if they are well formed and different
ones otherwise.
-/

namespace Reshape.Value

/-! ## Lists of octets -/

def ofOctets (octets : List UInt8) : Value := .list (octets.map ofOctet)

theorem toOctet?_ofOctet (octet : UInt8) : (ofOctet octet).toOctet? = some octet := by
  rw [ofOctet, toOctet?, Int.toNat_natCast, UInt8.ofNat_toNat]

private theorem ofOctet_injective : Function.Injective ofOctet := by
  intro left right h
  have hoctet := congrArg toOctet? h
  rwa [toOctet?_ofOctet, toOctet?_ofOctet, Option.some.injEq] at hoctet

theorem ofOctets_inj {left right : List UInt8} : ofOctets left = ofOctets right ↔ left = right := by
  rw [ofOctets, ofOctets, list.injEq, (List.map_injective_iff.mpr ofOctet_injective).eq_iff]

theorem ofOctets_hasType (octets : List UInt8) :
    (ofOctets octets).HasType (.list (.int .u8)) := by
  refine .list fun item hitem => ?_
  obtain ⟨octet, -, rfl⟩ := List.mem_map.mp hitem
  exact ofOctet_hasType octet

private theorem HasType.exists_ofOctet {value : Value} (h : value.HasType (.int .u8)) :
    ∃ octet, value = ofOctet octet := by
  cases h with
  | int _ number =>
      obtain ⟨number, hlow, hhigh⟩ := number
      change 0 ≤ number at hlow
      change number ≤ 255 at hhigh
      refine ⟨.ofNat number.toNat, ?_⟩
      rw [ofOctet, Value.int.injEq]
      refine ⟨rfl, heq_of_eq (Subtype.ext ?_)⟩
      show number = ((UInt8.ofNat number.toNat).toNat : Int)
      rw [UInt8.toNat_ofNat_of_lt' (by simp [UInt8.size]; omega)]
      omega

theorem HasType.exists_ofOctets {value : Value} (h : value.HasType (.list (.int .u8))) :
    ∃ octets, value = ofOctets octets := by
  obtain ⟨items, rfl, hitems⟩ := HasType.list_iff.mp h
  clear h
  induction items with
  | nil => exact ⟨[], rfl⟩
  | cons item items ih =>
      rw [List.forall_mem_cons] at hitems
      obtain ⟨octet, rfl⟩ := hitems.1.exists_ofOctet
      obtain ⟨octets, hoctets⟩ := ih hitems.2
      exact ⟨octet :: octets, by rw [list.inj hoctets, ofOctets, List.map_cons]⟩

/-! ## Coercions -/

private theorem mapM_toOctet?_map_ofOctet (octets : List UInt8) :
    (octets.map ofOctet).mapM toOctet? = some octets := by
  induction octets with
  | nil => rfl
  | cons octet octets ih =>
      rw [List.map_cons, List.mapM_cons, toOctet?_ofOctet, ih]
      rfl

theorem convert?_ofOctets (octets : List UInt8) :
    (ofOctets octets).convert? .string =
      some (.string (Text.Utf8.decodeLossy octets)) := by
  show ((octets.map ofOctet).mapM toOctet?).map _ = _
  rw [mapM_toOctet?_map_ofOctet, Option.map_some]

theorem coerce_string_octets (text : String) :
    (Value.string text).coerce .string (.list (.int .u8)) =
      .assigned (ofOctets (Text.Utf8.encode text)) := rfl

theorem coerce_octets_string (octets : List UInt8) :
    (ofOctets octets).coerce (.list (.int .u8)) .string =
      .assigned (.string (Text.Utf8.decodeLossy octets)) := by
  show Coercion.Rule.apply .convert (ofOctets octets) .string = _
  rw [Coercion.Rule.apply, convert?_ofOctets]

theorem coerce_octets_lossless :
    (∀ text : String, ∃ octets,
      (Value.string text).coerce .string (.list (.int .u8)) = .assigned octets ∧
      octets.coerce (.list (.int .u8)) .string = .assigned (.string text)) ∧
    ∀ value : Value, value.HasType (.list (.int .u8)) →
      ∃ octets text, value = ofOctets octets ∧
        value.coerce (.list (.int .u8)) .string = .assigned (.string text) ∧
        ((Value.string text).coerce .string (.list (.int .u8)) = .assigned value ↔
          Text.Utf8.WellFormed octets) := by
  constructor
  · intro text
    refine ⟨_, coerce_string_octets text, ?_⟩
    rw [coerce_octets_string, Text.Utf8.decodeLossy_encode]
  · intro value hvalue
    obtain ⟨octets, rfl⟩ := hvalue.exists_ofOctets
    refine ⟨octets, _, rfl, coerce_octets_string octets, ?_⟩
    rw [coerce_string_octets, Coercion.assigned.injEq, ofOctets_inj,
      Text.Utf8.encode_decodeLossy_iff]

/-- The solidus in two octets, which is too many, and the last code point in four. -/
theorem coerce_octets_lossless_overlong :
    (∃ text, (ofOctets [0xC0, 0xAF]).coerce (.list (.int .u8)) .string =
        .assigned (.string text) ∧
      (Value.string text).coerce .string (.list (.int .u8)) ≠
        .assigned (ofOctets [0xC0, 0xAF])) ∧
    ∃ text, (ofOctets [0xF4, 0x8F, 0xBF, 0xBF]).coerce (.list (.int .u8)) .string =
        .assigned (.string text) ∧
      (Value.string text).coerce .string (.list (.int .u8)) =
        .assigned (ofOctets [0xF4, 0x8F, 0xBF, 0xBF]) := by
  constructor
  · obtain ⟨octets, text, hoctets, htext, hback⟩ :=
      coerce_octets_lossless.2 _ (ofOctets_hasType [0xC0, 0xAF])
    obtain rfl := ofOctets_inj.mp hoctets
    exact ⟨text, htext, mt hback.mp (by decide +kernel)⟩
  · obtain ⟨octets, text, hoctets, htext, hback⟩ :=
      coerce_octets_lossless.2 _ (ofOctets_hasType [0xF4, 0x8F, 0xBF, 0xBF])
    obtain rfl := ofOctets_inj.mp hoctets
    exact ⟨text, htext, hback.mpr (by decide +kernel)⟩

end Reshape.Value
