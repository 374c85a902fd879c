/-!
# Timestamps

A timestamp is a second since 1970-01-01T00:00:00 in UTC and the nanoseconds that
have passed in it.  A leap second continues the last second of its minute: it
has the nanoseconds from `10 ^ 9` on.
-/

namespace Reshape

structure Timestamp where
  seconds : Int
  nanos : Nat
  /-- Timestamps lie in the years -262143 to 262142. -/
  inRange : -8334601228800 ≤ seconds ∧ seconds ≤ 8210266876799
  /-- A leap second continues a second 59.  A calendar library may also hold such nanoseconds
  in another second, where no text puts them; those values are left out. -/
  inSecond : nanos < 1000000000 ∨ nanos < 2000000000 ∧ seconds % 60 = 59
  deriving DecidableEq

namespace Timestamp

def epoch : Timestamp := ⟨0, 0, by decide, by decide⟩

def ofParts? (seconds : Int) (nanos : Nat) : Option Timestamp :=
  if hrange : -8334601228800 ≤ seconds ∧ seconds ≤ 8210266876799 then
    if hsecond : nanos < 1000000000 ∨ nanos < 2000000000 ∧ seconds % 60 = 59 then
      some ⟨seconds, nanos, hrange, hsecond⟩
    else none
  else none

end Timestamp

end Reshape
