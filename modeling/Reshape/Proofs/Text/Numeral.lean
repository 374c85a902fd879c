import Reshape.Text.Numeral

/-!
# Numerals of a fixed width

What a numeral is made of, and the numeral with zeros after it.
-/

namespace Reshape.Text

/-- The digits of a numeral in a base up to sixteen are digits and small letters. -/
theorem mem_padded {base width number : Nat} (hbase : 0 < base) {digit : Char}
    (h : digit ∈ padded base width number) :
    ∃ value < base, digit = Nat.digitChar value := by
  induction width generalizing number with
  | zero => cases h
  | succ width ih =>
      rw [padded, List.mem_append, List.mem_singleton] at h
      rcases h with hrest | rfl
      · exact ih hrest
      · exact ⟨number % base, Nat.mod_lt _ hbase, rfl⟩

theorem isDigit_of_mem_padded {width number : Nat} {digit : Char}
    (h : digit ∈ padded 10 width number) : isDigit digit = true := by
  obtain ⟨value, hvalue, rfl⟩ := mem_padded (by decide) h
  rw [isDigit, digitValue?_digitChar (by decide) hvalue]
  rfl

theorem padded_append_zeros {base : Nat} (hbase : 0 < base) (width number zeros : Nat) :
    padded base width number ++ List.replicate zeros '0' =
      padded base (width + zeros) (number * base ^ zeros) := by
  induction zeros with
  | zero => simp
  | succ zeros ih =>
      have hshifted : number * base ^ (zeros + 1) = number * base ^ zeros * base := by
        rw [Nat.pow_succ, Nat.mul_assoc]
      rw [List.replicate_succ', ← List.append_assoc, ih, hshifted, ← Nat.add_assoc,
        padded, Nat.mul_div_cancel _ hbase, Nat.mul_mod_left]
      rfl

end Reshape.Text
