import Mathlib.Data.List.Forall2
import Reshape.Traced

/-!
# Computations in sequence

A list of computations is run in order until one of them fails.  It returns one
result for each item, or the error of the first item that fails.
-/

namespace Reshape.Sequence

variable {ε ε' α β : Type}

theorem ok_bind (value : α) (next : α → Except ε β) : .ok value >>= next = next value := rfl

theorem error_bind (error : ε) (next : α → Except ε β) :
    .error error >>= next = .error error := rfl

theorem bind_eq_ok_iff {first : Except ε α} {next : α → Except ε β} {result : β} :
    first >>= next = .ok result ↔
      ∃ value, first = .ok value ∧ next value = .ok result := by
  cases first with
  | error error => simp [bind, Except.bind]
  | ok value => simp [bind, Except.bind]

theorem bind_eq_error_iff {first : Except ε α} {next : α → Except ε β} {error : ε} :
    first >>= next = .error error ↔
      first = .error error ∨ ∃ value, first = .ok value ∧ next value = .error error := by
  cases first with
  | error other => simp [bind, Except.bind]
  | ok value => simp [bind, Except.bind]

theorem check_bind_eq_ok_iff {check : Except ε Unit} {next : Unit → Except ε β}
    {result : β} :
    check >>= next = .ok result ↔ check = .ok () ∧ next () = .ok result := by
  cases check with
  | error error => simp [bind, Except.bind]
  | ok value => simp [bind, Except.bind]

theorem map_eq_ok_iff {first : Except ε α} {f : α → β} {result : β} :
    first.map f = .ok result ↔ ∃ value, first = .ok value ∧ f value = result := by
  cases first with
  | error error => simp [Except.map]
  | ok value => simp [Except.map]

theorem exists_map_eq_ok_iff {first : Except ε α} {f : α → β} :
    (∃ result, first.map f = .ok result) ↔ ∃ value, first = .ok value := by
  cases first with
  | error error => simp [Except.map]
  | ok value => simp [Except.map]

theorem map_eq_error_iff {first : Except ε α} {f : α → β} {error : ε} :
    first.map f = .error error ↔ first = .error error := by
  cases first with
  | error other => simp [Except.map]
  | ok value => simp [Except.map]

theorem mapError_eq_ok_iff {first : Except ε α} {f : ε → ε'} {result : α} :
    first.mapError f = .ok result ↔ first = .ok result := by
  cases first with
  | error error => simp [Except.mapError]
  | ok value => simp [Except.mapError]

theorem mapError_eq_error_iff {first : Except ε α} {f : ε → ε'} {error : ε'} :
    first.mapError f = .error error ↔ ∃ cause, first = .error cause ∧ f cause = error := by
  cases first with
  | error cause => simp [Except.mapError]
  | ok value => simp [Except.mapError]

/-! ## Lists of computations -/

theorem mapM_cons_of_ok {f : α → Except ε β} {item : α} {result : β}
    (h : f item = .ok result) (items : List α) :
    (item :: items).mapM f = (items.mapM f).map (result :: ·) := by
  rw [List.mapM_cons, h]
  cases items.mapM f <;> rfl

theorem mapM_cons_of_error {f : α → Except ε β} {item : α} {error : ε}
    (h : f item = .error error) (items : List α) :
    (item :: items).mapM f = .error error := by
  rw [List.mapM_cons, h]
  rfl

theorem mapM_congr {f g : α → Except ε β} {items : List α}
    (h : ∀ item ∈ items, f item = g item) : items.mapM f = items.mapM g := by
  induction items with
  | nil => rfl
  | cons item items ih =>
      rw [List.forall_mem_cons] at h
      rw [List.mapM_cons, List.mapM_cons, h.1, ih h.2]

theorem mapM_eq_ok_iff {f : α → Except ε β} {items : List α} {results : List β} :
    items.mapM f = .ok results ↔
      List.Forall₂ (fun item result => f item = .ok result) items results := by
  induction items generalizing results with
  | nil =>
      cases results with
      | nil => simp [pure, Except.pure]
      | cons result results => simp [pure, Except.pure]
  | cons item items ih =>
      cases h : f item with
      | error error =>
          rw [mapM_cons_of_error h]
          constructor
          · intro heq
            cases heq
          · rintro (_ | ⟨hitem, _⟩)
            rw [h] at hitem
            cases hitem
      | ok first =>
          rw [mapM_cons_of_ok h, map_eq_ok_iff]
          constructor
          · rintro ⟨rest, hrest, rfl⟩
            exact .cons h (ih.mp hrest)
          · rintro (_ | ⟨hitem, hrest⟩)
            rw [h] at hitem
            cases hitem
            exact ⟨_, ih.mpr hrest, rfl⟩

/-- Where an item has one result at most, the results are those of the items. -/
theorem mem_iff_of_forall₂ {R : α → β → Prop} {items : List α} {results : List β}
    (h : List.Forall₂ R items results)
    (hunique : ∀ item first second, R item first → R item second → first = second)
    {result : β} : result ∈ results ↔ ∃ item ∈ items, R item result := by
  induction h with
  | nil => simp
  | @cons item held items results hitem _ ih =>
      have hhead : result = held ↔ R item result :=
        ⟨fun heq => heq ▸ hitem, fun hresult => hunique item result held hresult hitem⟩
      simp [hhead, ih]

theorem forall_of_forall₂ {R : α → β → Prop} {p : α → Prop} {items : List α}
    {results : List β} (h : List.Forall₂ R items results)
    (hitem : ∀ item ∈ items, ∀ result, R item result → p item) :
    ∀ item ∈ items, p item := by
  induction h with
  | nil => simp
  | cons hfirst _ ih =>
      rw [List.forall_mem_cons] at hitem ⊢
      exact ⟨hitem.1 _ hfirst, ih hitem.2⟩

theorem mem_iff_of_mapM {f : α → Except ε β} {items : List α} {results : List β}
    (h : items.mapM f = .ok results) {result : β} :
    result ∈ results ↔ ∃ item ∈ items, f item = .ok result := by
  refine mem_iff_of_forall₂ (mapM_eq_ok_iff.mp h) fun item first second hfirst hsecond => ?_
  rw [hfirst] at hsecond
  cases hsecond
  rfl

theorem mapM_eq_error_iff {f : α → Except ε β} {items : List α} {error : ε} :
    items.mapM f = .error error ↔
      ∃ before item after, items = before ++ item :: after ∧
        (∀ earlier ∈ before, ∃ result, f earlier = .ok result) ∧
        f item = .error error := by
  induction items with
  | nil => simp [pure, Except.pure]
  | cons head items ih =>
      cases h : f head with
      | error first =>
          rw [mapM_cons_of_error h]
          constructor
          · intro heq
            cases heq
            exact ⟨[], head, items, rfl, by simp, h⟩
          · rintro ⟨before, item, after, hsplit, hbefore, hitem⟩
            cases before with
            | nil =>
                cases hsplit
                rw [h] at hitem
                cases hitem
                rfl
            | cons earlier before =>
                cases hsplit
                obtain ⟨result, hresult⟩ := hbefore head (by simp)
                rw [h] at hresult
                cases hresult
      | ok first =>
          rw [mapM_cons_of_ok h, map_eq_error_iff, ih]
          constructor
          · rintro ⟨before, item, after, rfl, hbefore, hitem⟩
            refine ⟨head :: before, item, after, rfl, ?_, hitem⟩
            intro earlier hearlier
            rcases List.mem_cons.mp hearlier with rfl | hearlier
            · exact ⟨first, h⟩
            · exact hbefore earlier hearlier
          · rintro ⟨before, item, after, hsplit, hbefore, hitem⟩
            cases before with
            | nil =>
                cases hsplit
                rw [h] at hitem
                cases hitem
            | cons earlier before =>
                cases hsplit
                exact ⟨before, item, after, rfl,
                  fun earlier hearlier => hbefore earlier (by simp [hearlier]), hitem⟩

theorem exists_mapM_eq_ok_iff {f : α → Except ε β} {items : List α} :
    (∃ results, items.mapM f = .ok results) ↔ ∀ item ∈ items, ∃ result, f item = .ok result := by
  constructor
  · rintro ⟨results, hresults⟩
    exact forall_of_forall₂ (mapM_eq_ok_iff.mp hresults)
      fun _ _ result hresult => ⟨result, hresult⟩
  · intro h
    cases hrun : items.mapM f with
    | ok results => exact ⟨results, rfl⟩
    | error error =>
        obtain ⟨before, item, after, rfl, -, hitem⟩ := mapM_eq_error_iff.mp hrun
        obtain ⟨result, hresult⟩ := h item (by simp)
        rw [hitem] at hresult
        cases hresult

/-- The results are told item by item where it is told which items have one. -/
theorem mapM_eq_ok_iff_map {f : α → Except ε β} {p : α → Prop} {g : α → β}
    {items : List α} {results : List β}
    (h : ∀ item ∈ items, ∀ result, f item = .ok result ↔ p item ∧ result = g item) :
    items.mapM f = .ok results ↔ (∀ item ∈ items, p item) ∧ results = items.map g := by
  induction items generalizing results with
  | nil => simp [pure, Except.pure, eq_comm]
  | cons item items ih =>
      cases hitem : f item with
      | error error =>
          have hrefused : ¬ p item := by
            intro hp
            rw [(h item (by simp) _).mpr ⟨hp, rfl⟩] at hitem
            cases hitem
          rw [mapM_cons_of_error hitem]
          simp [hrefused]
      | ok first =>
          obtain ⟨hp, rfl⟩ := (h item (by simp) first).mp hitem
          rw [mapM_cons_of_ok hitem, map_eq_ok_iff]
          simp only [ih fun other hother => h other (by simp [hother]), List.forall_mem_cons,
            hp, true_and, List.map_cons]
          constructor
          · rintro ⟨rest, ⟨hitems, rfl⟩, rfl⟩
            exact ⟨hitems, rfl⟩
          · rintro ⟨hitems, rfl⟩
            exact ⟨_, ⟨hitems, rfl⟩, rfl⟩

theorem map_mapM_eq_ok_iff_map {γ : Type} {f : α → Except ε β} {p : α → Prop} {g : α → β}
    {whole : List β → γ} {items : List α} {result : γ}
    (h : ∀ item ∈ items, ∀ result, f item = .ok result ↔ p item ∧ result = g item) :
    (items.mapM f).map whole = .ok result ↔
      (∀ item ∈ items, p item) ∧ result = whole (items.map g) := by
  rw [map_eq_ok_iff]
  simp only [mapM_eq_ok_iff_map h]
  constructor
  · rintro ⟨results, ⟨hitems, rfl⟩, rfl⟩
    exact ⟨hitems, rfl⟩
  · rintro ⟨hitems, rfl⟩
    exact ⟨_, ⟨hitems, rfl⟩, rfl⟩

theorem eq_map_of_forall₂ {g : α → β} {items : List α} {results : List β}
    (h : List.Forall₂ (fun item result => result = g item) items results) :
    results = items.map g := by
  induction h with
  | nil => rfl
  | cons hitem _ ih => rw [List.map_cons, hitem, ih]

theorem forall₂_exists_map_iff {γ : Type} {R : α → β → Prop} {g : β → γ}
    {items : List α} {results : List γ} :
    List.Forall₂ (fun item result => ∃ middle, R item middle ∧ result = g middle)
        items results ↔
      ∃ middles, List.Forall₂ R items middles ∧ results = middles.map g := by
  constructor
  · intro h
    induction h with
    | nil => exact ⟨[], .nil, rfl⟩
    | cons hitem _ ih =>
        obtain ⟨middle, hmiddle, rfl⟩ := hitem
        obtain ⟨middles, hmiddles, rfl⟩ := ih
        exact ⟨middle :: middles, .cons hmiddle hmiddles, rfl⟩
  · rintro ⟨middles, hmiddles, rfl⟩
    rw [List.forall₂_map_right_iff]
    exact hmiddles.imp fun _ middle hmiddle => ⟨middle, hmiddle, rfl⟩

end Reshape.Sequence

namespace Reshape.Traced

variable {ε ε' α β : Type}

/-! ## Traced computations composed -/

theorem map_map {γ : Type} (traced : Traced ε α) (f : α → β) (g : β → γ) :
    (traced.map f).map g = traced.map fun value => g (f value) := by
  simp only [map]
  cases traced.result with
  | error error => rfl
  | ok value => rfl

theorem map_bind {γ : Type} (traced : Traced ε α) (next : α → Traced ε β) (f : β → γ) :
    (traced.bind next).map f = traced.bind fun value => (next value).map f := by
  unfold bind
  cases traced.result with
  | error error => rfl
  | ok value => rfl

theorem bind_map {γ : Type} (traced : Traced ε α) (f : α → β) (next : β → Traced ε γ) :
    (traced.map f).bind next = traced.bind fun value => next (f value) := by
  simp only [bind, map]
  cases traced.result with
  | error error => rfl
  | ok value => rfl

/-! ## Results of traced computations -/

@[simp] theorem result_ofExcept (result : Except ε α) :
    (ofExcept result).result = result := rfl

@[simp] theorem result_map (f : α → β) (traced : Traced ε α) :
    (traced.map f).result = traced.result.map f := rfl

@[simp] theorem result_mapError (f : ε → ε') (traced : Traced ε α) :
    (traced.mapError f).result = traced.result.mapError f := rfl

theorem result_bind (first : Traced ε α) (next : α → Traced ε β) :
    (first.bind next).result = first.result >>= fun value => (next value).result := by
  unfold bind
  cases first.result with
  | error error => rfl
  | ok value => rfl

theorem result_forEach (run : α → Traced ε β) (items : List α) :
    (forEach run items).result = items.mapM fun item => (run item).result := by
  induction items with
  | nil => rfl
  | cons item items ih =>
      rw [forEach, result_bind, List.mapM_cons]
      simp only [result_map, ih]
      cases (run item).result with
      | error error => rfl
      | ok value =>
          cases List.mapM (fun item => (run item).result) items with
          | error error => rfl
          | ok values => rfl

/-! ## Events of traced computations -/

@[simp] theorem events_map (f : α → β) (traced : Traced ε α) :
    (traced.map f).events = traced.events := rfl

theorem forEach_map {γ : Type} (run : β → Traced ε γ) (f : α → β) (items : List α) :
    forEach run (items.map f) = forEach (fun item => run (f item)) items := by
  induction items with
  | nil => rfl
  | cons item items ih => rw [List.map_cons, forEach, forEach, ih]

theorem forEach_congr {run other : α → Traced ε β} {items : List α}
    (h : ∀ item ∈ items, run item = other item) : forEach run items = forEach other items := by
  induction items with
  | nil => rfl
  | cons item items ih =>
      rw [List.forall_mem_cons] at h
      rw [forEach, forEach, h.1, ih h.2]

theorem events_forEach_cons_of_ok {run : α → Traced ε β} {item : α} {value : β}
    (h : (run item).result = .ok value) (items : List α) :
    (forEach run (item :: items)).events =
      (run item).events ++ (forEach run items).events := by
  simp [forEach, bind, h]

theorem events_forEach_cons_of_error {run : α → Traced ε β} {item : α} {error : ε}
    (h : (run item).result = .error error) (items : List α) :
    (forEach run (item :: items)).events = (run item).events := by
  simp [forEach, bind, h]

/-- The items that come before the first failure have all their events. -/
theorem events_forEach_append {run : α → Traced ε β} {before : List α}
    (h : ∀ item ∈ before, ∃ value, (run item).result = .ok value) (items : List α) :
    (forEach run (before ++ items)).events =
      before.flatMap (fun item => (run item).events) ++ (forEach run items).events := by
  induction before with
  | nil => rfl
  | cons item before ih =>
      rw [List.forall_mem_cons] at h
      obtain ⟨⟨value, hvalue⟩, hbefore⟩ := h
      rw [List.cons_append, events_forEach_cons_of_ok hvalue, ih hbefore, List.flatMap_cons,
        List.append_assoc]

end Reshape.Traced
