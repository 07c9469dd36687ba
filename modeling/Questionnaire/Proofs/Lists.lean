import Mathlib.Data.List.Forall2
import Mathlib.Data.List.Nodup

/-!
# Lists

Whether some or every element of a list passes a test depends on which elements the list has and
on the test at these, and on nothing else: not on their order, nor on how often they occur. Where
no two elements have the same id, an id is found at one position only.
-/

namespace Questionnaire

variable {α β : Type} {l l' : List α} {p p' : α → Bool}

theorem any_eq_of_mem (hmem : ∀ a, a ∈ l ↔ a ∈ l') (htest : ∀ a ∈ l, p a = p' a) :
    l.any p = l'.any p' := by
  rw [Bool.eq_iff_iff, List.any_eq_true, List.any_eq_true]
  constructor
  · rintro ⟨a, ha, hp⟩
    exact ⟨a, (hmem a).mp ha, htest a ha ▸ hp⟩
  · rintro ⟨a, ha, hp⟩
    have hl := (hmem a).mpr ha
    exact ⟨a, hl, (htest a hl).symm ▸ hp⟩

theorem all_eq_of_mem (hmem : ∀ a, a ∈ l ↔ a ∈ l') (htest : ∀ a ∈ l, p a = p' a) :
    l.all p = l'.all p' := by
  rw [Bool.eq_iff_iff, List.all_eq_true, List.all_eq_true]
  constructor
  · intro h a ha
    have hl := (hmem a).mpr ha
    exact htest a hl ▸ h a hl
  · intro h a ha
    exact (htest a ha).symm ▸ h a ((hmem a).mp ha)

/-- Elements with one id stand at one position, if ids are distinct. -/
theorem eq_of_nodup_map {f : α → β} (hnodup : (l.map f).Nodup) {i j : Nat} {a b : α}
    (hi : l[i]? = some a) (hj : l[j]? = some b) (hab : f a = f b) : i = j := by
  have hsame : (l.map f)[i]? = (l.map f)[j]? := by
    rw [List.getElem?_map, List.getElem?_map, hi, hj, Option.map_some, Option.map_some, hab]
  have hlt : i < (l.map f).length := by
    rw [List.length_map]
    exact (List.getElem?_eq_some_iff.mp hi).1
  exact (List.getElem?_inj hlt hnodup).mp hsame

/-! ## Lists side by side -/

theorem exists_mem_of_forall₂ {R : α → β → Prop} {l : List α} {m : List β}
    (h : List.Forall₂ R l m) {a : α} (ha : a ∈ l) : ∃ b ∈ m, R a b := by
  induction h with
  | nil => cases ha
  | cons hab _ ih =>
    rcases List.mem_cons.mp ha with rfl | ha
    · exact ⟨_, List.mem_cons_self, hab⟩
    · obtain ⟨b, hb, hr⟩ := ih ha
      exact ⟨b, List.mem_cons_of_mem _ hb, hr⟩

theorem forall₂_of_mem_right {R S : α → β → Prop} {l : List α} {m : List β}
    (h : List.Forall₂ R l m) (himp : ∀ a, ∀ b ∈ m, R a b → S a b) : List.Forall₂ S l m := by
  induction h with
  | nil => exact .nil
  | cons hab _ ih =>
    exact .cons (himp _ _ List.mem_cons_self hab)
      (ih fun a b hb => himp a b (List.mem_cons_of_mem _ hb))

theorem forall₂_trans {γ : Type} {R : α → β → Prop} {S : β → γ → Prop} {T : α → γ → Prop}
    {l : List α} {m : List β} {n : List γ} (h : List.Forall₂ R l m) (h' : List.Forall₂ S m n)
    (htrans : ∀ a b c, R a b → S b c → T a c) : List.Forall₂ T l n := by
  induction h generalizing n with
  | nil => cases h'; exact .nil
  | cons hab _ ih =>
    cases h' with
    | cons hbc hrest => exact .cons (htrans _ _ _ hab hbc) (ih hrest)

end Questionnaire
