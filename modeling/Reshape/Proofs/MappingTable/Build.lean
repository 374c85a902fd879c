import Reshape.Proofs.MappingTable

/-!
# Tables built step by step

Of the steps that build a table, the last one that concerns a destination says what it is
mapped to, and the last one that concerns the policy says what it is, while a skip is never
taken back.  Steps in another order build the same table as long as those for one
destination keep theirs and the last policy stays the last.
-/

namespace Reshape

/-- What is overwritten step by step holds what was written last. -/
theorem read_foldl {σ α β : Type} (read : σ → Option β) {apply : σ → α → σ}
    {written? : α → Option β}
    (h : ∀ state item, read (apply state item) = (written? item).or (read state))
    (items : List α) (state : σ) :
    read (items.foldl apply state) =
      (items.filterMap written?).getLast?.or (read state) := by
  induction items generalizing state with
  | nil => simp
  | cons item items ih =>
      rw [List.foldl_cons, ih, h]
      cases hwritten : written? item with
      | none => rw [List.filterMap_cons_none hwritten, Option.none_or]
      | some value =>
          rw [List.filterMap_cons_some hwritten, List.getLast?_cons, Option.some_or,
            Option.or_some, Option.some_or]

namespace MappingTable

variable {table : MappingTable} {step : Step} {steps first second : List Step}
  {destination : String}

/-! ## Steps -/

namespace Step

/-- The source that the step maps to a destination. -/
def source? (destination : String) : Step → Option String
  | .map target source => if target = destination then some source else none
  | .skip _ | .policy _ => none

def policy? : Step → Option Policy
  | .policy chosen => some chosen
  | .map _ _ | .skip _ => none

end Step

private theorem override_apply (table : MappingTable) (step : Step) :
    (table.apply step).overrides[destination]? =
      (step.source? destination).or table.overrides[destination]? := by
  cases step with
  | map target source =>
      simp only [apply, map, Std.ExtTreeMap.getElem?_insert,
        Std.LawfulEqCmp.compare_eq_iff_eq, Step.source?]
      split <;> rfl
  | skip | policy => rfl

private theorem isSkipped_apply :
    (table.apply step).isSkipped destination = true ↔
      table.isSkipped destination = true ∨ .skip destination = step := by
  cases step with
  | skip target =>
      rw [apply, isSkipped_skip, Bool.or_eq_true, decide_eq_true_iff, Step.skip.injEq, or_comm]
      exact or_congr_right eq_comm
  | map | policy =>
      constructor
      · exact .inl
      · rintro (hskipped | hstep)
        · exact hskipped
        · cases hstep

private theorem policy_apply (table : MappingTable) (step : Step) :
    some (table.apply step).policy = step.policy?.or (some table.policy) := by
  cases step <;> rfl

/-! ## Sequences of steps -/

/-- What the steps map to a destination, in order. -/
def sources (destination : String) (steps : List Step) : List String :=
  steps.filterMap (·.source? destination)

def policies (steps : List Step) : List Policy := steps.filterMap (·.policy?)

theorem override_build (table : MappingTable) (steps : List Step) (destination : String) :
    (table.build steps).overrides[destination]? =
      (sources destination steps).getLast?.or table.overrides[destination]? :=
  read_foldl (fun table : MappingTable => table.overrides[destination]?) override_apply
    steps table

theorem isSkipped_build :
    (table.build steps).isSkipped destination = true ↔
      table.isSkipped destination = true ∨ .skip destination ∈ steps := by
  induction steps generalizing table with
  | nil => simp [build]
  | cons step steps ih =>
      rw [build, List.foldl_cons, ← build, ih, isSkipped_apply, List.mem_cons, or_assoc]

theorem policy_build (table : MappingTable) (steps : List Step) :
    (table.build steps).policy = (policies steps).getLast?.getD table.policy := by
  have hlast := read_foldl (fun table : MappingTable => some table.policy) policy_apply
    steps table
  rw [Option.or_some] at hlast
  exact Option.some.inj hlast

/-- What a sequence of steps makes of a table. -/
structure BuiltBy (start : MappingTable) (steps : List Step) (table : MappingTable) :
    Prop where
  sourceName : ∀ destination, table.sourceName destination =
    ((sources destination steps).getLast?.or start.overrides[destination]?).getD destination
  isSkipped : ∀ destination, table.isSkipped destination = true ↔
    start.isSkipped destination = true ∨ .skip destination ∈ steps
  policy : table.policy = (policies steps).getLast?.getD start.policy

theorem builtBy_build (table : MappingTable) (steps : List Step) :
    table.BuiltBy steps (table.build steps) where
  sourceName destination := by rw [sourceName, override_build]
  isSkipped _ := isSkipped_build
  policy := policy_build table steps

/-! ## Other sequences -/

/-- The sequences map each destination to the same sources in the same order, skip the same
destinations and set the same policy last. -/
structure SameCalls (first second : List Step) : Prop where
  sources : ∀ destination, sources destination first = sources destination second
  skips : ∀ destination, .skip destination ∈ first ↔ .skip destination ∈ second
  policy : (policies first).getLast? = (policies second).getLast?

theorem SameCalls.build_eq (h : SameCalls first second) (table : MappingTable) :
    table.build first = table.build second := by
  have hoverrides : (table.build first).overrides = (table.build second).overrides := by
    refine Std.ExtTreeMap.ext_getElem? fun destination => ?_
    rw [override_build, override_build, h.sources]
  have hskipped : (table.build first).skipped = (table.build second).skipped := by
    refine Std.ExtTreeSet.ext_contains fun destination => ?_
    rw [Bool.eq_iff_iff]
    exact isSkipped_build.trans
      ((or_congr_right (h.skips destination)).trans isSkipped_build.symm)
  have hpolicy : (table.build first).policy = (table.build second).policy := by
    rw [policy_build, policy_build, h.policy]
  calc table.build first
      = ⟨(table.build first).overrides, (table.build first).skipped,
          (table.build first).policy⟩ := rfl
    _ = table.build second := by rw [hoverrides, hskipped, hpolicy]

end MappingTable

end Reshape
