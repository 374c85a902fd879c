import Reshape.Event

/-!
# Traced computations

A traced computation returns its result together with the events up to its end, so
that the events of one that fails are those before the failure.
-/

namespace Reshape

structure Traced (ε α : Type) where
  events : List Event
  result : Except ε α

namespace Traced

variable {ε ε' α β : Type}

def ok (value : α) : Traced ε α := ⟨[], .ok value⟩

def ofExcept (result : Except ε α) : Traced ε α := ⟨[], result⟩

def bind (first : Traced ε α) (next : α → Traced ε β) : Traced ε β :=
  match first.result with
  | .error error => ⟨first.events, .error error⟩
  | .ok value => ⟨first.events ++ (next value).events, (next value).result⟩

def map (f : α → β) (traced : Traced ε α) : Traced ε β :=
  ⟨traced.events, traced.result.map f⟩

def mapError (f : ε → ε') (traced : Traced ε α) : Traced ε' α :=
  ⟨traced.events, traced.result.mapError f⟩

/-- Computes for each item in order and stops at the first error. -/
def forEach (run : α → Traced ε β) : List α → Traced ε (List β)
  | [] => ok []
  | item :: items => (run item).bind fun value => (forEach run items).map (value :: ·)

end Traced

end Reshape
