import Reshape.Model.Transformer
import Reshape.Proofs.MappingTable.Build

/-!
# Transformers built call by call

A call on a transformer between schemas is a step of its mapping table and changes nothing
else.  A call on a transformer between models is the same call between their schemas, and one
on a pair of transformers is a call on the direction that it concerns; the policy concerns
both.
-/

namespace Reshape

open MappingTable (Step)

/-! ## Transformers between schemas -/

namespace Transformer

def apply (transformer : Transformer) : Step → Transformer
  | .map destination source => transformer.map destination source
  | .skip destination => transformer.skip destination
  | .policy policy => transformer.withPolicy policy

def build (transformer : Transformer) (calls : List Step) : Transformer :=
  calls.foldl apply transformer

private theorem apply_withMapping (transformer : Transformer) (table : MappingTable) (call : Step) :
    (transformer.withMapping table).apply call = transformer.withMapping (table.apply call) := by
  cases call <;> rfl

theorem build_eq (transformer : Transformer) (calls : List Step) :
    transformer.build calls = transformer.withMapping (transformer.mapping.build calls) :=
  List.foldl_hom transformer.withMapping (apply_withMapping transformer)

end Transformer

/-! ## Transformers between models -/

namespace ModelTransformer

variable {source destination : Model}

def apply (transformer : ModelTransformer source destination) :
    Step → ModelTransformer source destination
  | .map target origin => transformer.map target origin
  | .skip target => transformer.skip target
  | .policy policy => transformer.withPolicy policy

def build (transformer : ModelTransformer source destination) (calls : List Step) :
    ModelTransformer source destination :=
  calls.foldl apply transformer

/-- A call between models is the same call between their schemas. -/
theorem onRecords_apply (transformer : ModelTransformer source destination) (call : Step) :
    transformer.onRecords.apply call = (transformer.apply call).onRecords := by
  cases call <;> rfl

theorem onRecords_build (transformer : ModelTransformer source destination)
    (calls : List Step) :
    transformer.onRecords.build calls = (transformer.build calls).onRecords :=
  List.foldl_hom onRecords onRecords_apply

theorem build_eq (transformer : ModelTransformer source destination) (calls : List Step) :
    transformer.build calls = ⟨transformer.mapping.build calls⟩ := by
  have hrecords := transformer.onRecords_build calls
  rw [Transformer.build_eq] at hrecords
  have hmapping := congrArg Transformer.mapping hrecords
  exact congrArg ModelTransformer.mk hmapping.symm

end ModelTransformer

/-! ## Two directions -/

namespace Bidirectional

variable {left right : Model}

inductive Call where
  | mapForward (target origin : String)
  | mapBackward (target origin : String)
  | policy (policy : Policy)
  deriving DecidableEq, Repr

namespace Call

/-- What the call is to the forward direction. -/
def forward? : Call → Option Step
  | .mapForward target origin => some (.map target origin)
  | .mapBackward _ _ => none
  | .policy chosen => some (.policy chosen)

/-- What the call is to the backward direction. -/
def backward? : Call → Option Step
  | .mapForward _ _ => none
  | .mapBackward target origin => some (.map target origin)
  | .policy chosen => some (.policy chosen)

end Call

def apply (pair : Bidirectional left right) : Call → Bidirectional left right
  | .mapForward target origin => pair.mapForward target origin
  | .mapBackward target origin => pair.mapBackward target origin
  | .policy policy => pair.withPolicy policy

def build (pair : Bidirectional left right) (calls : List Call) :
    Bidirectional left right :=
  calls.foldl apply pair

theorem forward_build (pair : Bidirectional left right) (calls : List Call) :
    (pair.build calls).forward = pair.forward.build (calls.filterMap (·.forward?)) := by
  induction calls generalizing pair with
  | nil => rfl
  | cons call calls ih =>
      rw [build, List.foldl_cons, ← build, ih]
      cases call <;> rfl

theorem backward_build (pair : Bidirectional left right) (calls : List Call) :
    (pair.build calls).backward = pair.backward.build (calls.filterMap (·.backward?)) := by
  induction calls generalizing pair with
  | nil => rfl
  | cons call calls ih =>
      rw [build, List.foldl_cons, ← build, ih]
      cases call <;> rfl

end Bidirectional

/-! ## Builder calls -/

theorem Transformer.builder_calls_commute :
    (∀ (table : MappingTable) (steps : List Step), table.BuiltBy steps (table.build steps)) ∧
    (∀ (transformer : Transformer) (calls : List Step),
      (transformer.build calls).source = transformer.source ∧
      (transformer.build calls).destination = transformer.destination ∧
      transformer.mapping.BuiltBy calls (transformer.build calls).mapping) ∧
    (∀ (source destination : Model) (transformer : ModelTransformer source destination)
      (calls : List Step),
      transformer.mapping.BuiltBy calls (transformer.build calls).mapping) ∧
    (∀ first second : List Step, MappingTable.SameCalls first second →
      (∀ table : MappingTable, table.build first = table.build second) ∧
      (∀ transformer : Transformer, transformer.build first = transformer.build second) ∧
      ∀ (source destination : Model) (transformer : ModelTransformer source destination),
        transformer.build first = transformer.build second) ∧
    ∀ (left right : Model) (pair : Bidirectional left right) (calls : List Bidirectional.Call),
      (pair.build calls).forward = pair.forward.build (calls.filterMap (·.forward?)) ∧
      (pair.build calls).backward = pair.backward.build (calls.filterMap (·.backward?)) := by
  refine ⟨MappingTable.builtBy_build, ?_, ?_, ?_, ?_⟩
  · intro transformer calls
    rw [transformer.build_eq]
    exact ⟨rfl, rfl, transformer.mapping.builtBy_build calls⟩
  · intro source destination transformer calls
    rw [transformer.build_eq]
    exact transformer.mapping.builtBy_build calls
  · intro first second hcalls
    refine ⟨hcalls.build_eq, ?_, ?_⟩
    · intro transformer
      rw [transformer.build_eq, transformer.build_eq, hcalls.build_eq]
    · intro source destination transformer
      rw [transformer.build_eq, transformer.build_eq, hcalls.build_eq]
  · intro left right pair calls
    exact ⟨pair.forward_build calls, pair.backward_build calls⟩

/-- A source that is mapped again, a skip made twice and a policy set twice. -/
theorem Transformer.builder_calls_commute_repeated :
    let first : List Step :=
      [.map "a" "x", .policy .strict, .skip "b", .map "c" "y", .map "a" "z", .policy .permissive]
    let second : List Step :=
      [.skip "b", .map "a" "x", .map "a" "z", .policy .permissive, .skip "b", .map "c" "y"]
    MappingTable.SameCalls first second ∧
      (∀ table : MappingTable, table.build first = table.build second ∧
        (table.build first).sourceName "a" = "z" ∧
        (table.build first).isSkipped "b" = true ∧
        (table.build first).policy = .permissive) ∧
      ∀ transformer : Transformer, transformer.build first = transformer.build second := by
  intro first second
  have hcalls : MappingTable.SameCalls first second := by
    refine ⟨fun destination => ?_, fun destination => ?_, rfl⟩
    · by_cases ha : "a" = destination
      · subst ha
        decide
      · by_cases hc : "c" = destination
        · subst hc
          decide
        · simp [first, second, MappingTable.sources, Step.source?, ha, hc]
    · simp [first, second]
  obtain ⟨htable, -, -, hsame, -⟩ := builder_calls_commute
  obtain ⟨htables, htransformers, -⟩ := hsame first second hcalls
  refine ⟨hcalls, fun table => ?_, htransformers⟩
  obtain ⟨hname, hskipped, hpolicy⟩ := htable table first
  exact ⟨htables table, (hname "a").trans rfl, (hskipped "b").mpr (.inr (by decide)),
    hpolicy.trans rfl⟩

end Reshape
