/-!
# Character classes

A class of characters is given by the ranges of code points that it holds.
The properties of the Unicode standard (version 17.0) used by this library are
classes of this form; each stands in the module of the rule that needs it.
-/

namespace Reshape.Text

structure CharClass where
  ranges : List (Nat × Nat)
  deriving Repr

namespace CharClass

def contains (charClass : CharClass) (character : Char) : Bool :=
  charClass.ranges.any fun (low, high) =>
    low ≤ character.toNat && character.toNat ≤ high

theorem contains_iff (charClass : CharClass) (character : Char) :
    charClass.contains character = true ↔
      ∃ range ∈ charClass.ranges,
        range.1 ≤ character.toNat ∧ character.toNat ≤ range.2 := by
  simp [contains, List.any_eq_true]

end CharClass

end Reshape.Text
