import Questionnaire.Entries
import Mathlib.Data.List.Nodup

/-!
# Maps from pairs in any order

Putting pairs with distinct keys one after another lists these pairs and nothing else. As a map is
determined by its listing, the order of the pairs does not matter.
-/

namespace Questionnaire.Entries

variable {α : Type} {pairs : List (String × α)}

theorem nodup_keys (m : Entries α) : (m.toList.map (·.1)).Nodup := by
  refine List.pairwise_map.mpr (m.ascending.imp fun h heq => ?_)
  exact String.lt_irrefl _ (heq ▸ h)

theorem get?_eq_some_iff {m : Entries α} {key : String} {a : α} :
    m.get? key = some a ↔ (key, a) ∈ m.toList :=
  ⟨mem_of_find?, find?_of_mem m.ascending⟩

/-- The keys are those that lead to a value. -/
theorem mem_keys_iff {m : Entries α} {key : String} : key ∈ m.keys ↔ ∃ a, m.get? key = some a := by
  unfold keys
  simp only [List.mem_map, get?_eq_some_iff]
  constructor
  · rintro ⟨p, hp, rfl⟩
    exact ⟨p.2, hp⟩
  · rintro ⟨a, h⟩
    exact ⟨(key, a), h, rfl⟩

theorem get?_eq_none_iff {m : Entries α} {key : String} : m.get? key = none ↔ key ∉ m.keys := by
  rw [mem_keys_iff, Option.eq_none_iff_forall_ne_some, not_exists]

theorem putPair_perm {key : String} (value : α) (h : key ∉ pairs.map (·.1)) :
    (putPair key value pairs).Perm ((key, value) :: pairs) := by
  induction pairs with
  | nil => exact .refl _
  | cons p rest ih =>
    obtain ⟨k, v⟩ := p
    rw [List.map_cons, List.mem_cons, not_or] at h
    rw [putPair]
    split
    · exact .refl _
    · rw [if_neg h.1]
      exact ((ih h.2).cons _).trans (.swap _ _ _)

theorem foldl_put_perm (m : Entries α) (h : ((m.toList ++ pairs).map (·.1)).Nodup) :
    (pairs.foldl (fun m p => m.put p.1 p.2) m).toList.Perm (m.toList ++ pairs) := by
  induction pairs generalizing m with
  | nil => rw [List.append_nil]; exact .refl _
  | cons p rest ih =>
    have hperm : (m.toList ++ p :: rest).Perm (p :: (m.toList ++ rest)) := List.perm_middle
    have hnodup := (hperm.map (·.1)).nodup_iff.mp h
    have hnew : p.1 ∉ m.toList.map (·.1) := fun hmem => (List.nodup_cons.mp hnodup).1 (by
      rw [List.map_append]
      exact List.mem_append_left _ hmem)
    have hput : (m.put p.1 p.2).toList.Perm (p :: m.toList) := putPair_perm p.2 hnew
    have hlist : ((m.put p.1 p.2).toList ++ rest).Perm (p :: (m.toList ++ rest)) :=
      hput.append_right rest
    exact (ih _ ((hlist.map (·.1)).nodup_iff.mpr hnodup)).trans (hlist.trans hperm.symm)

/-- A map of pairs with distinct keys lists these pairs. -/
theorem toList_ofList_perm (h : (pairs.map (·.1)).Nodup) : (ofList pairs).toList.Perm pairs :=
  foldl_put_perm empty h

/-- Of pairs with distinct keys none is lost, and none of another. -/
theorem get?_ofList_iff (h : (pairs.map (·.1)).Nodup) {key : String} {a : α} :
    (ofList pairs).get? key = some a ↔ (key, a) ∈ pairs := by
  rw [← (toList_ofList_perm h).mem_iff, get?_eq_some_iff]

/-- The values may be what other values with distinct keys come to. -/
theorem get?_ofList_map_iff {β : Type} {pairs : List (String × β)} (h : (pairs.map (·.1)).Nodup)
    (f : β → α) {key : String} {a : α} :
    (ofList (pairs.map fun p => (p.1, f p.2))).get? key = some a ↔
      ∃ b, (key, b) ∈ pairs ∧ f b = a := by
  rw [get?_ofList_iff (by rwa [List.map_map]), List.mem_map]
  constructor
  · rintro ⟨p, hp, heq⟩
    cases heq
    exact ⟨p.2, hp, rfl⟩
  · rintro ⟨b, hb, rfl⟩
    exact ⟨(key, b), hb, rfl⟩

/-- Maps with the same entries are the same. -/
theorem eq_of_perm {m n : Entries α} (h : m.toList.Perm n.toList) : m = n := by
  refine ext (h.eq_of_pairwise (fun a b _ _ hab hba => ?_) m.ascending n.ascending)
  exact absurd (String.lt_trans hab hba) (String.lt_irrefl _)

/-- A map is what its keys lead to. -/
theorem eq_of_get? {m n : Entries α} (h : ∀ key a, m.get? key = some a ↔ n.get? key = some a) :
    m = n := by
  refine eq_of_perm ((List.perm_ext_iff_of_nodup m.nodup_keys.of_map n.nodup_keys.of_map).mpr ?_)
  rintro ⟨key, a⟩
  rw [← get?_eq_some_iff, ← get?_eq_some_iff]
  exact h key a

/-- The entries of a map, put one after another in any order, give the map back. -/
theorem ofList_eq_of_perm {m : Entries α} (h : pairs.Perm m.toList) : ofList pairs = m := by
  have hnodup : (pairs.map (·.1)).Nodup := (h.map _).nodup_iff.mpr m.nodup_keys
  exact eq_of_perm ((toList_ofList_perm hnodup).trans h)

/-- Pairs in ascending order are listed as they are. -/
theorem toList_ofList (h : Ascending pairs) : (ofList pairs).toList = pairs :=
  toList_foldl_put pairs empty h

theorem mem_filterMapPairs_of_mem {β : Type} {f : α → Option β} {key : String} {a : α} {b : β}
    (hp : (key, a) ∈ pairs) (hf : f a = some b) : (key, b) ∈ filterMapPairs f pairs := by
  induction pairs with
  | nil => cases hp
  | cons p rest ih =>
    obtain ⟨k, v⟩ := p
    rw [filterMapPairs]
    rcases List.mem_cons.mp hp with heq | hp
    · cases heq
      rw [hf]
      exact List.mem_cons_self
    · cases f v with
      | none => exact ih hp
      | some w => exact List.mem_cons_of_mem _ (ih hp)

theorem filterMapPairs_map_some (pairs : List (String × α)) :
    filterMapPairs id (pairs.map fun p => (p.1, some p.2)) = pairs := by
  induction pairs with
  | nil => rfl
  | cons p rest ih => exact congrArg (p :: ·) ih

/-- Values that are all there are kept. -/
theorem filterMap_ofList_some (m : Entries α) :
    (ofList (m.toList.map fun p => (p.1, some p.2))).filterMap id = m := by
  have hascending : Ascending (m.toList.map fun p => (p.1, some p.2)) :=
    List.pairwise_map.mpr m.ascending
  have hlist := congrArg (filterMapPairs id) (toList_ofList hascending)
  exact ext (hlist.trans (filterMapPairs_map_some m.toList))

/-- A value is found where one was that has it as its image. -/
theorem get?_filterMap_eq_some_iff {β : Type} {f : α → Option β} {m : Entries α} {key : String}
    {b : β} : (m.filterMap f).get? key = some b ↔ ∃ a, m.get? key = some a ∧ f a = some b := by
  simp only [get?_eq_some_iff]
  constructor
  · intro h
    obtain ⟨⟨_, a⟩, hp, rfl, hf⟩ := mem_filterMapPairs h
    exact ⟨a, hp, hf⟩
  · rintro ⟨a, hp, hf⟩
    exact mem_filterMapPairs_of_mem hp hf

end Questionnaire.Entries
