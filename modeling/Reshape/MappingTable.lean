import Std.Data.ExtTreeMap
import Std.Data.ExtTreeSet

/-!
# Mapping tables

A mapping table says which source field each destination field is populated from,
which destination fields are never populated, and what becomes of a destination
field that cannot be populated.
-/

namespace Reshape

abbrev NameMap (α : Type) : Type := Std.ExtTreeMap String α compare

abbrev NameSet : Type := Std.ExtTreeSet String compare

/-- What becomes of a destination field without a source or without a coercion. -/
inductive Policy where
  /-- The field is left at its zero value. -/
  | permissive
  /-- The transformation fails. -/
  | strict
  deriving DecidableEq, Repr

namespace Policy

def name : Policy → String
  | .permissive => "permissive"
  | .strict => "strict"

def ofName? (name : String) : Option Policy :=
  if name = "permissive" then some .permissive
  else if name = "strict" then some .strict
  else none

end Policy

structure MappingTable where
  /-- The source name for each destination field that has one of its own. -/
  overrides : NameMap String := ∅
  skipped : NameSet := ∅
  policy : Policy := .permissive

namespace MappingTable

/-- The name that is looked up in the source schema for a destination field. -/
def sourceName (table : MappingTable) (destination : String) : String :=
  (table.overrides[destination]?).getD destination

def isSkipped (table : MappingTable) (destination : String) : Bool :=
  table.skipped.contains destination

/-! ## Building a table -/

/-- Populates `destination` from `source`, in place of what was mapped to it before. -/
def map (table : MappingTable) (destination source : String) : MappingTable :=
  { table with overrides := table.overrides.insert destination source }

def skip (table : MappingTable) (destination : String) : MappingTable :=
  { table with skipped := table.skipped.insert destination }

def withPolicy (table : MappingTable) (policy : Policy) : MappingTable :=
  { table with policy }

inductive Step where
  | map (destination source : String)
  | skip (destination : String)
  | policy (policy : Policy)
  deriving DecidableEq, Repr

def apply (table : MappingTable) : Step → MappingTable
  | .map destination source => table.map destination source
  | .skip destination => table.skip destination
  | .policy policy => table.withPolicy policy

def build (table : MappingTable) (steps : List Step) : MappingTable :=
  steps.foldl apply table

end MappingTable

end Reshape
