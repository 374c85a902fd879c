import Mathlib.Data.List.Infix
import Reshape.Proofs.Sequence

/-!
# Checks in sequence

A check of items in order may compare each item with those before it, and stops at the
first error.  If it finds the faults of single items, it passes the lists without a
fault and fails with a fault of the first item that has one.
-/

namespace Reshape.Sequence

variable {α ε κ : Type}

/-! ## Items and those before them -/

theorem forall_prefix_iff {p : α → Prop} {items : List α} :
    (∀ earlier item, earlier ++ [item] <+: items → p item) ↔ ∀ item ∈ items, p item := by
  constructor
  · intro h item hitem
    obtain ⟨earlier, later, rfl⟩ := List.append_of_mem hitem
    exact h earlier item ⟨later, by simp⟩
  · intro h earlier item hplace
    exact h item (hplace.subset (by simp))

theorem append_singleton_prefix_iff {earlier items : List α} {item last : α} :
    earlier ++ [item] <+: items ++ [last] ↔
      (earlier = items ∧ item = last) ∨ earlier ++ [item] <+: items := by
  rw [List.prefix_concat_iff, List.append_singleton_inj]

theorem nodup_map_iff_earlier {key : α → κ} {items : List α} :
    (items.map key).Nodup ↔
      ∀ earlier item, earlier ++ [item] <+: items → key item ∉ earlier.map key := by
  induction items using List.reverseRecOn with
  | nil => simp
  | append_singleton items last ih =>
      rw [List.map_append, List.map_singleton, List.perm_append_comm.nodup_iff,
        List.singleton_append, List.nodup_cons, ih]
      simp only [append_singleton_prefix_iff]
      constructor
      · rintro ⟨hlast, hitems⟩ earlier item (⟨rfl, rfl⟩ | hplace)
        · exact hlast
        · exact hitems earlier item hplace
      · intro h
        exact ⟨h items last (.inl ⟨rfl, rfl⟩), fun earlier item hplace =>
          h earlier item (.inr hplace)⟩

/-! ## Faults -/

section Faults

variable (Fault : List α → α → ε → Prop)

/-- No item has a fault after those before it. -/
def Faultless (items : List α) : Prop :=
  ∀ earlier item, earlier ++ [item] <+: items → ∀ error, ¬Fault earlier item error

/-- The error is a fault of the first item that has one. -/
def FirstFault (items : List α) (error : ε) : Prop :=
  ∃ earlier item, earlier ++ [item] <+: items ∧ Faultless Fault earlier ∧
    Fault earlier item error

end Faults

variable {Fault : List α → α → ε → Prop}

theorem faultless_nil : Faultless Fault [] := by
  intro earlier item hplace
  simp at hplace

theorem faultless_concat_iff {items : List α} {last : α} :
    Faultless Fault (items ++ [last]) ↔
      Faultless Fault items ∧ ∀ error, ¬Fault items last error := by
  simp only [Faultless, append_singleton_prefix_iff]
  constructor
  · intro h
    exact ⟨fun earlier item hplace => h earlier item (.inr hplace),
      h items last (.inl ⟨rfl, rfl⟩)⟩
  · rintro ⟨hitems, hlast⟩ earlier item (⟨rfl, rfl⟩ | hplace)
    · exact hlast
    · exact hitems earlier item hplace

theorem FirstFault.not_faultless {items : List α} {error : ε}
    (h : FirstFault Fault items error) : ¬Faultless Fault items := by
  obtain ⟨earlier, item, hplace, -, hfault⟩ := h
  exact fun hfaultless => hfaultless earlier item hplace error hfault

/-! ## Checks -/

/-- A check that passes if there is no fault, and otherwise fails with one. -/
structure Detects (check : Except ε Unit) (Fault : ε → Prop) : Prop where
  sound : ∀ error, check = .error error → Fault error
  complete : check = .ok () → ∀ error, ¬Fault error

theorem Detects.eq_ok_iff {check : Except ε Unit} {Fault : ε → Prop}
    (h : Detects check Fault) : check = .ok () ↔ ∀ error, ¬Fault error := by
  refine ⟨h.complete, fun hnone => ?_⟩
  cases hcheck : check with
  | ok value => rfl
  | error error => exact absurd (h.sound error hcheck) (hnone error)

theorem Detects.congr {check : Except ε Unit} {Fault Other : ε → Prop}
    (h : Detects check Fault) (heq : ∀ error, Fault error ↔ Other error) :
    Detects check Other :=
  ⟨fun error herror => (heq error).mp (h.sound error herror),
    fun hok error hother => h.complete hok error ((heq error).mpr hother)⟩

theorem Detects.bind {first second : Except ε Unit} {First Second : ε → Prop}
    (hfirst : Detects first First) (hsecond : Detects second Second) :
    Detects (first >>= fun _ => second) fun error => First error ∨ Second error := by
  cases hcheck : first with
  | error cause =>
      refine ⟨fun error herror => ?_, nofun⟩
      cases herror
      exact .inl (hfirst.sound cause hcheck)
  | ok value =>
      rw [ok_bind]
      refine ⟨fun error herror => .inr (hsecond.sound error herror), ?_⟩
      rintro hok error (herror | herror)
      · exact hfirst.complete hcheck error herror
      · exact hsecond.complete hok error herror

theorem forM_detects {check : α → Except ε Unit} {Fault : α → ε → Prop}
    (hcheck : ∀ item, Detects (check item) (Fault item)) (items : List α) :
    Detects (items.forM check) fun error => ∃ item ∈ items, Fault item error := by
  induction items with
  | nil => exact ⟨nofun, by simp⟩
  | cons item items ih => exact ((hcheck item).bind ih).congr fun error => by simp

/-- Checks each item after those before it and stops at the first error. -/
def checkEach (check : List α → α → Except ε Unit) (before : List α) :
    List α → Except ε Unit
  | [] => .ok ()
  | item :: items => do
      check before item
      checkEach check (before ++ [item]) items

section CheckEach

variable {check : List α → α → Except ε Unit}
  (hcheck : ∀ before item, Detects (check before item) (Fault before item))

include hcheck

theorem faultless_of_checkEach {before items : List α} (hbefore : Faultless Fault before)
    (h : checkEach check before items = .ok ()) : Faultless Fault (before ++ items) := by
  induction items generalizing before with
  | nil => simpa using hbefore
  | cons item items ih =>
      obtain ⟨hitem, hitems⟩ := check_bind_eq_ok_iff.mp h
      have hnext : Faultless Fault (before ++ [item]) :=
        faultless_concat_iff.mpr ⟨hbefore, (hcheck before item).complete hitem⟩
      simpa using ih hnext hitems

private theorem firstFault_of_checkEach {before items : List α} {error : ε}
    (hbefore : Faultless Fault before) (h : checkEach check before items = .error error) :
    FirstFault Fault (before ++ items) error := by
  induction items generalizing before with
  | nil => cases h
  | cons item items ih =>
      have hplace : before ++ [item] <+: before ++ item :: items := ⟨items, by simp⟩
      rw [checkEach] at h
      cases hitem : check before item with
      | error first =>
          rw [hitem, error_bind] at h
          cases h
          exact ⟨before, item, hplace, hbefore, (hcheck before item).sound _ hitem⟩
      | ok value =>
          rw [hitem, ok_bind] at h
          have hnext : Faultless Fault (before ++ [item]) :=
            faultless_concat_iff.mpr ⟨hbefore, (hcheck before item).complete hitem⟩
          simpa using ih hnext h

theorem checkEach_detects (items : List α) :
    Detects (checkEach check [] items) (FirstFault Fault items) where
  sound _ := firstFault_of_checkEach hcheck faultless_nil
  complete h _ hfault :=
    hfault.not_faultless (faultless_of_checkEach hcheck faultless_nil h)

theorem checkEach_eq_ok_iff {items : List α} :
    checkEach check [] items = .ok () ↔ Faultless Fault items := by
  refine ⟨faultless_of_checkEach hcheck faultless_nil, fun hfaultless => ?_⟩
  exact (checkEach_detects hcheck items).eq_ok_iff.mpr fun _ hfault =>
    hfault.not_faultless hfaultless

end CheckEach

end Reshape.Sequence
