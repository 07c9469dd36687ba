import Questionnaire.Proofs.Json.Order
import Mathlib.Data.List.Nodup

/-!
# Objects with distinct keys

Where no object names a key twice, at any level, a value has no members that others override, and
the order of members is all that an object has beside its entries.
-/

namespace Questionnaire.Json

/-- No object in the value names a key twice. -/
inductive DistinctKeys : Json → Prop
  | null : DistinctKeys .null
  | bool {b : Bool} : DistinctKeys (.bool b)
  | number {n : Number} : DistinctKeys (.number n)
  | text {s : String} : DistinctKeys (.text s)
  | list {items : List Json} : (∀ j ∈ items, DistinctKeys j) → DistinctKeys (.list items)
  | object {members : List (String × Json)} : (members.map (·.1)).Nodup →
    (∀ m ∈ members, DistinctKeys m.2) → DistinctKeys (.object members)

attribute [simp] DistinctKeys.null DistinctKeys.bool DistinctKeys.number DistinctKeys.text

@[simp] theorem distinctKeys_list_iff {items : List Json} :
    (Json.list items).DistinctKeys ↔ ∀ j ∈ items, j.DistinctKeys :=
  ⟨fun h => by cases h with | list hitems => exact hitems, .list⟩

@[simp] theorem distinctKeys_object_iff {members : List (String × Json)} :
    (Json.object members).DistinctKeys ↔
      (members.map (·.1)).Nodup ∧ ∀ m ∈ members, m.2.DistinctKeys :=
  ⟨fun h => by cases h with | object hnodup hvalues => exact ⟨hnodup, hvalues⟩,
    fun h => .object h.1 h.2⟩

theorem itemsWithoutRepeats_eq_map (items : List Json) :
    itemsWithoutRepeats items = items.map withoutRepeats := by
  induction items with
  | nil => rfl
  | cons j rest ih => rw [itemsWithoutRepeats, ih, List.map_cons]

theorem membersWithoutRepeats_eq_self {members : List (String × Json)}
    (hnodup : (members.map (·.1)).Nodup) (hvalues : ∀ m ∈ members, m.2.withoutRepeats = m.2) :
    membersWithoutRepeats members = members := by
  induction members with
  | nil => rfl
  | cons m rest ih =>
    obtain ⟨hnew, hrest⟩ : m.1 ∉ rest.map (·.1) ∧ (rest.map (·.1)).Nodup :=
      List.nodup_cons.mp hnodup
    rw [membersWithoutRepeats, ih hrest fun m hm => hvalues m (List.mem_cons_of_mem _ hm), if_neg,
      hvalues m List.mem_cons_self]
    simpa using hnew

/-- Nothing is overridden where all keys are distinct. -/
theorem DistinctKeys.withoutRepeats_eq_self {j : Json} (h : j.DistinctKeys) :
    j.withoutRepeats = j := by
  induction h with
  | list _ ih =>
    rw [withoutRepeats, itemsWithoutRepeats_eq_map, List.map_congr_left ih, List.map_id']
  | object hnodup _ ih => rw [withoutRepeats, membersWithoutRepeats_eq_self hnodup ih]
  | _ => rfl

/-! ## Sorted members -/

theorem name_le_trans (a b c : String × Json) (hab : decide (a.1 ≤ b.1) = true)
    (hbc : decide (b.1 ≤ c.1) = true) : decide (a.1 ≤ c.1) = true :=
  decide_eq_true (String.le_trans (of_decide_eq_true hab) (of_decide_eq_true hbc))

theorem name_le_total (a b : String × Json) :
    (decide (a.1 ≤ b.1) || decide (b.1 ≤ a.1)) = true := by
  simpa using String.le_total a.1 b.1

/-- Members of distinct names, listed in some other order, make the same object up to order. -/
theorem object_reorders {members members' : List (String × Json)} (hperm : members.Perm members')
    (hnodup : (members.map (·.1)).Nodup) :
    (Json.object members).Reorders (.object members') := by
  unfold Reorders
  rw [sorted, sorted, sortedMembers_eq_map, sortedMembers_eq_map]
  refine congrArg Json.object (List.Perm.eq_of_pairwise ?_
    (List.pairwise_mergeSort name_le_trans name_le_total _)
    (List.pairwise_mergeSort name_le_trans name_le_total _)
    ((List.mergeSort_perm _ _).trans ((hperm.map _).trans (List.mergeSort_perm _ _).symm)))
  intro a b ha hb hab hba
  have hname : a.1 = b.1 := String.le_antisymm (of_decide_eq_true hab) (of_decide_eq_true hba)
  have hnodup' : ((members.map fun m => (m.1, m.2.sorted)).map (·.1)).Nodup := by
    rwa [List.map_map]
  refine List.inj_on_of_nodup_map hnodup' (List.mem_mergeSort.mp ha) ?_ hname
  exact (hperm.map _).mem_iff.mpr (List.mem_mergeSort.mp hb)

mutual

/-- Sorting the members of a value leaves nothing more to sort. -/
theorem sorted_sorted : ∀ j : Json, j.sorted.sorted = j.sorted
  | .null => rfl
  | .bool _ => rfl
  | .number _ => rfl
  | .text _ => rfl
  | .list items => by rw [sorted, sorted, sortedItems_sortedItems items]
  | .object members => by
    have hvalues : ∀ m ∈ (sortedMembers members).mergeSort fun a b => a.1 ≤ b.1,
        (m.1, m.2.sorted) = m := by
      intro m hm
      have hall := sortedMembers_sortedMembers members
      rw [sortedMembers_eq_map (sortedMembers members)] at hall
      exact List.map_eq_map_iff.mp (hall.trans (List.map_id' _).symm) m (List.mem_mergeSort.mp hm)
    rw [sorted, sorted, sortedMembers_eq_map ((sortedMembers members).mergeSort _),
      List.map_congr_left hvalues, List.map_id',
      List.mergeSort_of_pairwise (List.pairwise_mergeSort name_le_trans name_le_total _)]

theorem sortedItems_sortedItems :
    ∀ items : List Json, sortedItems (sortedItems items) = sortedItems items
  | [] => rfl
  | j :: rest => by
    rw [sortedItems, sortedItems, sorted_sorted j, sortedItems_sortedItems rest]

theorem sortedMembers_sortedMembers : ∀ members : List (String × Json),
    sortedMembers (sortedMembers members) = sortedMembers members
  | [] => rfl
  | (name, j) :: rest => by
    rw [sortedMembers, sortedMembers, sorted_sorted j, sortedMembers_sortedMembers rest]

end

/-- What stands in a sorted object is sorted. -/
theorem sorted_of_mem {members : List (String × Json)}
    (h : (Json.object members).sorted = .object members) {m : String × Json} (hm : m ∈ members) :
    m.2.sorted = m.2 := by
  rw [sorted, Json.object.injEq, sortedMembers_eq_map] at h
  rw [← h, List.mem_mergeSort] at hm
  obtain ⟨m', -, rfl⟩ := List.mem_map.mp hm
  exact sorted_sorted m'.2

end Questionnaire.Json
