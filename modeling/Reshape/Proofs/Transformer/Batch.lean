import Reshape.Proofs.Sequence
import Reshape.Transformer

/-!
# Batches

A batch is its items run in order until one of them fails.  It returns the results of
all items, or the error of the first one that fails with its place, and the items after
that one are not run.
-/

namespace Reshape.Transformer

variable {α β γ : Type} {run : α → Traced TransformError β} {items : List α}

/-- Runs the item of an entry, whose place its error names. -/
def placed (run : α → Traced TransformError β) (entry : α × Nat) : Traced TransformError β :=
  (run entry.1).mapError (.batchElement entry.2)

theorem runBatch_eq (run : α → Traced TransformError β) (items : List α) :
    runBatch run items = Traced.forEach (placed run) items.zipIdx := rfl

/-! ## Results -/

theorem result_runBatch_eq_ok_iff {results : List β} :
    (runBatch run items).result = .ok results ↔
      List.Forall₂ (fun item result => (run item).result = .ok result) items results := by
  rw [runBatch_eq, Traced.result_forEach, Sequence.mapM_eq_ok_iff]
  simp only [placed, Traced.result_mapError, Sequence.mapError_eq_ok_iff]
  conv_rhs => rw [← List.zipIdx_map_fst 0 items, List.forall₂_map_left_iff]

theorem forall_placed_eq_ok_iff :
    (∀ entry ∈ items.zipIdx, ∃ result, (placed run entry).result = .ok result) ↔
      ∀ item ∈ items, ∃ result, (run item).result = .ok result := by
  conv_rhs => rw [← List.zipIdx_map_fst 0 items, List.forall_mem_map]
  simp only [placed, Traced.result_mapError, Sequence.mapError_eq_ok_iff]

theorem result_runBatch_eq_error_iff {error : TransformError} :
    (runBatch run items).result = .error error ↔
      ∃ before item after cause, items = before ++ item :: after ∧
        (∀ earlier ∈ before, ∃ result, (run earlier).result = .ok result) ∧
        (run item).result = .error cause ∧
        error = .batchElement before.length cause := by
  rw [runBatch_eq, Traced.result_forEach, Sequence.mapM_eq_error_iff]
  constructor
  · rintro ⟨_, ⟨item, index⟩, _, hsplit, hearlier, herror⟩
    obtain ⟨before, rest, rfl, rfl, hrest⟩ := List.zipIdx_eq_append_iff.mp hsplit
    obtain ⟨_, after, rfl, hplace, -⟩ := List.zipIdx_eq_cons_iff.mp hrest.symm
    cases hplace
    obtain ⟨cause, hcause, rfl⟩ := Sequence.mapError_eq_error_iff.mp herror
    exact ⟨before, item, after, cause, rfl, forall_placed_eq_ok_iff.mp hearlier, hcause,
      by rw [Nat.zero_add]⟩
  · rintro ⟨before, item, after, cause, rfl, hearlier, hcause, rfl⟩
    refine ⟨before.zipIdx, (item, before.length), after.zipIdx (before.length + 1), ?_,
      forall_placed_eq_ok_iff.mpr hearlier, ?_⟩
    · rw [List.zipIdx_append, List.zipIdx_cons, Nat.zero_add]
    · exact Sequence.mapError_eq_error_iff.mpr ⟨cause, hcause, rfl⟩

private theorem exists_runBatch_eq_ok_iff :
    (∃ results, (runBatch run items).result = .ok results) ↔
      ∀ item ∈ items, ∃ result, (run item).result = .ok result := by
  rw [runBatch_eq, Traced.result_forEach, Sequence.exists_mapM_eq_ok_iff,
    forall_placed_eq_ok_iff]

theorem runBatch_map (run : β → Traced TransformError γ) (f : α → β) (items : List α) :
    runBatch run (items.map f) = runBatch (fun item => run (f item)) items := by
  rw [runBatch_eq, List.zipIdx_map, Traced.forEach_map]
  rfl

/-! ## Events -/

theorem flatMap_events_placed (items : List α) :
    items.zipIdx.flatMap (fun entry => (placed run entry).events) =
      items.flatMap fun item => (run item).events := by
  conv_rhs => rw [← List.zipIdx_map_fst 0 items, List.flatMap_map]
  rfl

private theorem events_runBatch_of_ok
    (h : ∀ item ∈ items, ∃ result, (run item).result = .ok result) :
    (runBatch run items).events = items.flatMap fun item => (run item).events := by
  have hevents := Traced.events_forEach_append (forall_placed_eq_ok_iff.mpr h) []
  rw [List.append_nil, flatMap_events_placed] at hevents
  rw [runBatch_eq, hevents]
  exact List.append_nil _

/-- The items after the first failure have no part in the batch. -/
private theorem events_runBatch_of_error {before after : List α} {item : α}
    {cause : TransformError}
    (hbefore : ∀ earlier ∈ before, ∃ result, (run earlier).result = .ok result)
    (hitem : (run item).result = .error cause) :
    (runBatch run (before ++ item :: after)).events =
      before.flatMap (fun item => (run item).events) ++ (run item).events := by
  have hplaced : (placed run (item, before.length)).result =
      .error (.batchElement before.length cause) := by
    rw [placed, Traced.result_mapError, hitem]
    rfl
  rw [runBatch_eq, List.zipIdx_append, List.zipIdx_cons, Nat.zero_add,
    Traced.events_forEach_append (forall_placed_eq_ok_iff.mpr hbefore),
    Traced.events_forEach_cons_of_error hplaced, flatMap_events_placed]
  rfl

/-! ## The law of batches -/

/-- A batch of items that are run in order, of which the first failure is the last run. -/
structure FailFast (run : α → Traced TransformError β) (items : List α)
    (batch : Traced TransformError (List β)) : Prop where
  succeeds : (∃ results, batch.result = .ok results) ↔
    ∀ item ∈ items, ∃ result, (run item).result = .ok result
  ok_iff : ∀ results, batch.result = .ok results ↔
    List.Forall₂ (fun item result => (run item).result = .ok result) items results
  error_iff : ∀ error, batch.result = .error error ↔
    ∃ before item after cause, items = before ++ item :: after ∧
      (∀ earlier ∈ before, ∃ result, (run earlier).result = .ok result) ∧
      (run item).result = .error cause ∧ error = .batchElement before.length cause
  events_of_ok : ∀ results, batch.result = .ok results →
    batch.events = items.flatMap fun item => (run item).events
  events_of_error : ∀ index cause, batch.result = .error (.batchElement index cause) →
    batch.events = (items.take (index + 1)).flatMap fun item => (run item).events

theorem failFast_runBatch (run : α → Traced TransformError β) (items : List α) :
    FailFast run items (runBatch run items) where
  succeeds := exists_runBatch_eq_ok_iff
  ok_iff _ := result_runBatch_eq_ok_iff
  error_iff _ := result_runBatch_eq_error_iff
  events_of_ok results h := events_runBatch_of_ok (exists_runBatch_eq_ok_iff.mp ⟨results, h⟩)
  events_of_error index cause h := by
    obtain ⟨before, item, after, other, rfl, hbefore, hitem, heq⟩ :=
      result_runBatch_eq_error_iff.mp h
    cases heq
    rw [events_runBatch_of_error hbefore hitem, List.take_append,
      List.take_of_length_le (Nat.le_succ _)]
    simp

end Reshape.Transformer
