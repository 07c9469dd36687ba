import Mathlib.Tactic.Choose

/-!
# Listings

A list that is put together by nested traversals holds items, each of which has a place: the
position in the outer list, then the one in the inner list, and so on. `Lists lt R l` says so
without the traversals: `l` holds the items `a` with `R i a`, each at its places `i`, in the order
`lt` of the places. There is one lemma for each operation on lists, and what a search for the first
item finds is then described by places (`findSome?_eq_some_iff`).
-/

namespace Questionnaire

variable {ι κ α β : Type}

/-- The list holds the items of a relation between places and items, in the order of places. -/
def Lists (lt : ι → ι → Prop) (R : ι → α → Prop) (l : List α) : Prop :=
  ∃ placed : List (ι × α), placed.map Prod.snd = l ∧
    placed.Pairwise (fun p q => lt p.1 q.1) ∧ ∀ i a, (i, a) ∈ placed ↔ R i a

namespace Lists

variable {lt : ι → ι → Prop} {R R' : ι → α → Prop} {l : List α}

theorem congr (h : Lists lt R l) (hR : ∀ i a, R i a ↔ R' i a) : Lists lt R' l := by
  obtain ⟨placed, hmap, hsorted, hmem⟩ := h
  refine ⟨placed, hmap, hsorted, ?_⟩
  intro i a
  rw [hmem, hR]

theorem mem_iff (h : Lists lt R l) {a : α} : a ∈ l ↔ ∃ i, R i a := by
  obtain ⟨placed, rfl, -, hmem⟩ := h
  simp [hmem]

/-- Places may be renamed as long as their order is kept. -/
theorem reindex {lt' : κ → κ → Prop} {S : κ → α → Prop} (h : Lists lt R l) (name : ι → κ)
    (hlt : ∀ i j, lt i j → lt' (name i) (name j)) (hS : ∀ k a, S k a ↔ ∃ i, name i = k ∧ R i a) :
    Lists lt' S l := by
  obtain ⟨placed, rfl, hsorted, hmem⟩ := h
  refine ⟨placed.map (Prod.map name id), ?_, ?_, ?_⟩
  · simp [List.map_map, Function.comp_def]
  · rw [List.pairwise_map]
    exact hsorted.imp fun hpq => hlt _ _ hpq
  · intro k a
    rw [List.mem_map, hS]
    constructor
    · rintro ⟨⟨i, b⟩, hib, heq⟩
      obtain ⟨rfl, rfl⟩ := Prod.mk.inj heq
      exact ⟨i, rfl, (hmem i b).mp hib⟩
    · rintro ⟨i, rfl, hia⟩
      exact ⟨(i, a), (hmem i a).mpr hia, rfl⟩

/-- Any list is listed by its positions. -/
theorem of_positions (l : List α) : Lists (· < ·) (fun (i : Nat) a => l[i]? = some a) l := by
  refine ⟨l.zipIdx.map Prod.swap, ?_, ?_, ?_⟩
  · simp [List.map_map, Function.comp_def]
  · rw [List.pairwise_map, List.pairwise_iff_getElem]
    intro i j hi hj hij
    simpa using hij
  · intro i a
    rw [List.mem_map]
    constructor
    · rintro ⟨⟨b, j⟩, hbj, heq⟩
      obtain ⟨rfl, rfl⟩ := Prod.mk.inj heq
      exact List.mem_zipIdx_iff_getElem?.mp hbj
    · intro h
      exact ⟨(a, i), List.mem_zipIdx_iff_getElem?.mpr h, rfl⟩

/-- A first item and an optional second one. -/
theorem of_pair (a : α) (second : Option α) :
    Lists (fun x y => x = false ∧ y = true)
      (fun isSecond b => isSecond = false ∧ b = a ∨ isSecond = true ∧ second = some b)
      (a :: second.toList) := by
  refine ⟨(false, a) :: second.toList.map (true, ·), ?_, ?_, ?_⟩
  · simp [List.map_map, Function.comp_def]
  · cases second <;> simp
  · intro isSecond b
    cases isSecond <;> cases second <;> simp [eq_comm]

/-- The images of ascending places, where there are any. -/
theorem filterMap {places : List ι} (hplaces : places.Pairwise lt) (f : ι → Option α) :
    Lists lt (fun i a => i ∈ places ∧ f i = some a) (places.filterMap f) := by
  refine ⟨places.filterMap fun i => (f i).map (i, ·), ?_, ?_, ?_⟩
  · simp [List.map_filterMap, Function.comp_def]
  · rw [List.pairwise_filterMap]
    refine hplaces.imp ?_
    intro i j hij p hp q hq
    obtain ⟨_, -, rfl⟩ := Option.map_eq_some_iff.mp hp
    obtain ⟨_, -, rfl⟩ := Option.map_eq_some_iff.mp hq
    exact hij
  · intro i a
    simp only [List.mem_filterMap, Option.map_eq_some_iff, Prod.mk.injEq]
    constructor
    · rintro ⟨j, hj, b, hb, rfl, rfl⟩
      exact ⟨hj, hb⟩
    · rintro ⟨hi, ha⟩
      exact ⟨i, hi, a, ha, rfl, rfl⟩

theorem filter (h : Lists lt R l) (p : α → Bool) :
    Lists lt (fun i a => R i a ∧ p a = true) (l.filter p) := by
  obtain ⟨placed, rfl, hsorted, hmem⟩ := h
  refine ⟨placed.filter fun q => p q.2, ?_, hsorted.filter _, ?_⟩
  · simp [List.filter_map, Function.comp_def]
  · intro i a
    simp [hmem]

/-- Of nested lists the items are ordered by the outer place first. -/
theorem flatMap {lt' : κ → κ → Prop} {S : α → κ → β → Prop} {g : α → List β} (h : Lists lt R l)
    (hinner : ∀ a, Lists lt' (S a) (g a)) :
    Lists (Prod.Lex lt lt') (fun place b => ∃ a, R place.1 a ∧ S a place.2 b) (l.flatMap g) := by
  obtain ⟨placed, rfl, hsorted, hmem⟩ := h
  choose inner hmap hsorted' hmem' using hinner
  refine ⟨placed.flatMap fun p => (inner p.2).map fun q => ((p.1, q.1), q.2), ?_, ?_, ?_⟩
  · simp [List.map_flatMap, List.flatMap_map, List.map_map, Function.comp_def, hmap]
  · rw [List.pairwise_flatMap]
    constructor
    · intro p _
      rw [List.pairwise_map]
      refine (hsorted' p.2).imp ?_
      intro q q' hqq
      exact Prod.Lex.right _ hqq
    · refine hsorted.imp ?_
      intro p p' hpp x hx y hy
      obtain ⟨_, -, rfl⟩ := List.mem_map.mp hx
      obtain ⟨_, -, rfl⟩ := List.mem_map.mp hy
      exact Prod.Lex.left _ _ hpp
  · rintro ⟨i, k⟩ b
    simp only [List.mem_flatMap, List.mem_map, Prod.mk.injEq]
    constructor
    · rintro ⟨⟨j, a⟩, hja, ⟨k', b'⟩, hkb, ⟨rfl, rfl⟩, rfl⟩
      exact ⟨a, (hmem j a).mp hja, (hmem' a k' b').mp hkb⟩
    · rintro ⟨a, hia, hkb⟩
      exact ⟨(i, a), (hmem i a).mpr hia, (k, b), (hmem' a k b).mpr hkb, ⟨rfl, rfl⟩, rfl⟩

/-- **The first item with an image** is one that has an image while nothing at an earlier place
has one. -/
theorem findSome?_eq_some_iff (h : Lists lt R l) (hasymm : ∀ i j, lt i j → ¬ lt j i)
    {f : α → Option β} {b : β} :
    l.findSome? f = some b ↔
      ∃ i a, R i a ∧ f a = some b ∧ ∀ j a', R j a' → lt j i → f a' = none := by
  obtain ⟨placed, rfl, hsorted, hmem⟩ := h
  rw [List.findSome?_map, List.findSome?_eq_some_iff]
  constructor
  · rintro ⟨before, ⟨i, a⟩, after, rfl, hb, hnone⟩
    refine ⟨i, a, (hmem i a).mp (by simp), hb, ?_⟩
    intro j a' hja hji
    rcases List.mem_append.mp ((hmem j a').mpr hja) with hbefore | hafter
    · exact hnone (j, a') hbefore
    · -- what stands at `i` or after it has no earlier place
      have hnot : ¬ lt j i := by
        rcases List.mem_cons.mp hafter with heq | hafter
        · obtain ⟨rfl, rfl⟩ := Prod.mk.inj heq
          exact fun hlt => hasymm j j hlt hlt
        · have hcons := (List.pairwise_append.mp hsorted).2.1
          exact hasymm i j ((List.pairwise_cons.mp hcons).1 (j, a') hafter)
      exact absurd hji hnot
  · rintro ⟨i, a, hia, hb, hnone⟩
    obtain ⟨before, after, rfl⟩ := List.append_of_mem ((hmem i a).mpr hia)
    refine ⟨before, (i, a), after, rfl, hb, ?_⟩
    rintro ⟨j, a'⟩ hbefore
    have hji : lt j i := (List.pairwise_append.mp hsorted).2.2 (j, a') hbefore (i, a) (by simp)
    exact hnone j a' ((hmem j a').mp (by simp [hbefore])) hji

end Lists

end Questionnaire
