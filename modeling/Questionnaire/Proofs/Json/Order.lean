import Questionnaire.Json.Basic
import Questionnaire.Proofs.Lists
import Mathlib.Data.List.Perm.Basic

/-!
# The order of members

The members of an object may be listed in any order. Two values are the same up to this order, at
every level, if they are equal once all members are sorted. Such a value has the shape of the other
one: a list has items that are the same one by one, an object has members that are the same after
a permutation.
-/

namespace Questionnaire.Json

/-- The same value, with the members of its objects in some other order. -/
def Reorders (v w : Json) : Prop := v.sorted = w.sorted

/-- Members of the same names with the same values, in some other order. -/
def MembersReorder (members members' : List (String × Json)) : Prop :=
  ∃ between, members.Perm between ∧
    List.Forall₂ (fun m m' => m.1 = m'.1 ∧ m.2.Reorders m'.2) between members'

theorem Reorders.refl (v : Json) : v.Reorders v := rfl

theorem sortedItems_eq_map (items : List Json) : sortedItems items = items.map sorted := by
  induction items with
  | nil => rfl
  | cons j rest ih => rw [sortedItems, ih, List.map_cons]

theorem sortedMembers_eq_map (members : List (String × Json)) :
    sortedMembers members = members.map fun m => (m.1, m.2.sorted) := by
  induction members with
  | nil => rfl
  | cons m rest ih => rw [sortedMembers, ih, List.map_cons]

theorem forall₂_of_map_eq {α β : Type} {f : α → β} {l l' : List α} (h : l.map f = l'.map f) :
    List.Forall₂ (fun a b => f a = f b) l l' := by
  rw [← List.forall₂_eq_eq_eq, List.forall₂_map_left_iff, List.forall₂_map_right_iff] at h
  exact h

/-! ## Shapes -/

variable {v : Json}

theorem Reorders.eq_null (h : v.Reorders .null) : v = .null := by
  cases v <;> simp_all [Reorders, sorted]

theorem Reorders.eq_bool {b : Bool} (h : v.Reorders (.bool b)) : v = .bool b := by
  cases v <;> simp_all [Reorders, sorted]

theorem Reorders.eq_number {n : Number} (h : v.Reorders (.number n)) : v = .number n := by
  cases v <;> simp_all [Reorders, sorted]

theorem Reorders.eq_text {s : String} (h : v.Reorders (.text s)) : v = .text s := by
  cases v <;> simp_all [Reorders, sorted]

theorem Reorders.exists_list {items : List Json} (h : v.Reorders (.list items)) :
    ∃ items', v = .list items' ∧ List.Forall₂ Reorders items' items := by
  cases v with
  | list items' =>
    refine ⟨items', rfl, ?_⟩
    simp only [Reorders, sorted, Json.list.injEq, sortedItems_eq_map] at h
    exact forall₂_of_map_eq h
  | _ => simp [Reorders, sorted] at h

theorem Reorders.exists_object {members : List (String × Json)} (h : v.Reorders (.object members)) :
    ∃ members', v = .object members' ∧ MembersReorder members' members := by
  cases v with
  | object members' =>
    refine ⟨members', rfl, ?_⟩
    simp only [Reorders, sorted, Json.object.injEq, sortedMembers_eq_map] at h
    have hperm : (members.map fun m => (m.1, m.2.sorted)).Perm
        (members'.map fun m => (m.1, m.2.sorted)) :=
      (List.mergeSort_perm _ _).symm.trans (h ▸ List.mergeSort_perm _ _)
    obtain ⟨between, hmap, hbetween⟩ := (congrFun₂ (List.eq_map_comp_perm _) _ _).mpr hperm
    refine ⟨between, hbetween.symm, (forall₂_of_map_eq hmap.symm).imp fun m m' hm => ?_⟩
    simpa [Reorders] using hm
  | _ => simp [Reorders, sorted] at h

/-! ## Members -/

namespace MembersReorder

variable {a b c : List (String × Json)}

theorem perm_right (h : MembersReorder a b) (hperm : b.Perm c) : MembersReorder a c := by
  obtain ⟨between, ha, hb⟩ := h
  obtain ⟨between', hperm', hc⟩ :=
    (congrFun₂ List.forall₂_comp_perm_eq_perm_comp_forall₂ _ _).mp ⟨b, hb, hperm⟩
  exact ⟨between', ha.trans hperm', hc⟩

theorem filter (h : MembersReorder a b) (p : String → Bool) :
    MembersReorder (a.filter fun m => p m.1) (b.filter fun m => p m.1) := by
  obtain ⟨between, ha, hb⟩ := h
  refine ⟨between.filter fun m => p m.1, ha.filter _, ?_⟩
  clear ha
  induction hb with
  | nil => exact .nil
  | cons hm _ ih =>
    rw [List.filter_cons, List.filter_cons, hm.1]
    split
    · exact .cons hm ih
    · exact ih

theorem perm_names (h : MembersReorder a b) : (a.map (·.1)).Perm (b.map (·.1)) := by
  obtain ⟨between, ha, hb⟩ := h
  have hnames : between.map (·.1) = b.map (·.1) := by
    rw [← List.forall₂_eq_eq_eq, List.forall₂_map_left_iff, List.forall₂_map_right_iff]
    exact hb.imp fun _ _ hm => hm.1
  exact hnames ▸ ha.map _

theorem exists_mem (h : MembersReorder a b) {m : String × Json} (hm : m ∈ b) :
    ∃ v, (m.1, v) ∈ a ∧ v.Reorders m.2 := by
  obtain ⟨between, ha, hb⟩ := h
  obtain ⟨m', hm', hname, hvalue⟩ := exists_mem_of_forall₂ hb.flip hm
  exact ⟨m'.2, hname ▸ ha.mem_iff.mpr hm', hvalue⟩

end MembersReorder

theorem present_append (parts parts' : List (String × Option Json)) :
    present (parts ++ parts') = present parts ++ present parts' := by
  induction parts with
  | nil => rfl
  | cons part rest ih =>
    obtain ⟨name, _ | j⟩ := part
    · exact ih
    · exact congrArg ((name, j) :: ·) ih

theorem mem_present_iff {parts : List (String × Option Json)} {name : String} {j : Json} :
    (name, j) ∈ present parts ↔ (name, some j) ∈ parts := by
  induction parts with
  | nil => simp [present]
  | cons part rest ih =>
    obtain ⟨key, _ | k⟩ := part
    · simp [present, ih]
    · simp [present, ih]

theorem sublist_names_present (parts : List (String × Option Json)) :
    ((present parts).map (·.1)).Sublist (parts.map (·.1)) := by
  induction parts with
  | nil => exact .slnil
  | cons part rest ih =>
    obtain ⟨name, _ | j⟩ := part
    · exact ih.cons _
    · exact ih.cons_cons _

end Questionnaire.Json
