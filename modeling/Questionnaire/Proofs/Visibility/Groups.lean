import Questionnaire.Proofs.Lists
import Questionnaire.Proofs.Orbit
import Questionnaire.Visibility
import Mathlib.Data.List.Perm.Subperm

/-!
# The groups around a question

The groups that decide over a question are found by following parent ids from its own group. The
links may form any graph with one edge out of each group: they may lead to unknown groups, into
cycles, and past several groups of one id, of which the first counts. `Reachable` says which groups
decide without following the links one after another. The main statement is that the chain lists
exactly these, each once, that the loop which builds it ends, and that visibility asks for the
guards of all of them.
-/

namespace Questionnaire

/-- The parent of a group: the first group with its parent id. -/
def parent? (groups : List Group) (g : Group) : Option Group :=
  g.parentId.bind fun id => group? id groups

/-- The groups that decide over what is put into the group with the id `start`: the first one of
this id, and with every group its parent. -/
inductive Reachable (groups : List Group) (start : Option String) : Group → Prop
  | first {id : String} {g : Group} : start = some id → group? id groups = some g →
      Reachable groups start g
  | parent {g p : Group} : Reachable groups start g → parent? groups g = some p →
      Reachable groups start p

/-- The loop that follows parent ids from `start`, with a list of the ids it has visited. It is over
at a group without a parent id, at an id it has visited, and at an id that names no group. Nothing
bounds its length. -/
inductive Climb (groups : List Group) : List String → Option String → List Group → Prop
  | top (visited : List String) : Climb groups visited none []
  | again {visited : List String} {id : String} : id ∈ visited → Climb groups visited (some id) []
  | unknown {visited : List String} {id : String} : id ∉ visited → group? id groups = none →
      Climb groups visited (some id) []
  | climb {visited : List String} {id : String} {g : Group} {chain : List Group} : id ∉ visited →
      group? id groups = some g → Climb groups (visited ++ [id]) g.parentId chain →
      Climb groups visited (some id) (g :: chain)

variable {groups : List Group} {start : Option String} {g p : Group} {id : String}

/-! ## Ids and groups -/

theorem id_of_group? (h : group? id groups = some g) : g.id = id := by
  simpa using List.find?_some h

theorem mem_groupIds : id ∈ groupIds groups ↔ ∃ g, group? id groups = some g := by
  unfold groupIds
  rw [Table.mem_firstOccurrences, List.mem_map]
  constructor
  · rintro ⟨g, hg, rfl⟩
    have hsome : (group? g.id groups).isSome = true := by
      unfold group?
      rw [List.find?_isSome]
      exact ⟨g, hg, by simp⟩
    exact Option.isSome_iff_exists.mp hsome
  · rintro ⟨g, hg⟩
    exact ⟨g, List.mem_of_find?_eq_some hg, id_of_group? hg⟩

theorem id_mem_groupIds (hg : g ∈ groups) : g.id ∈ groupIds groups :=
  Table.mem_firstOccurrences.mpr (List.mem_map_of_mem hg)

theorem group?_eq_none (h : id ∉ groupIds groups) : group? id groups = none := by
  cases hg : group? id groups with
  | none => rfl
  | some g => exact absurd (mem_groupIds.mpr ⟨g, hg⟩) h

theorem parentId?_of_group? (h : group? id groups = some g) : parentId? groups id = g.parentId := by
  simp [parentId?, h]

/-- With distinct ids, a group is found by its id wherever it stands. -/
theorem group?_eq_some_iff (hids : (groups.map (·.id)).Nodup) :
    group? id groups = some g ↔ g ∈ groups ∧ g.id = id := by
  constructor
  · intro h
    exact ⟨List.mem_of_find?_eq_some h, id_of_group? h⟩
  · rintro ⟨hg, rfl⟩
    obtain ⟨first, hfirst⟩ := mem_groupIds.mp (id_mem_groupIds hg)
    -- the first group of this id stands where `g` does
    obtain ⟨i, hi⟩ := List.mem_iff_getElem?.mp hg
    obtain ⟨j, hj⟩ := List.mem_iff_getElem?.mp (List.mem_of_find?_eq_some hfirst)
    have hij := eq_of_nodup_map hids hi hj (id_of_group? hfirst).symm
    rw [hij, hj] at hi
    rw [hfirst, hi]

/-! ## The chain -/

theorem mem_groupIds_of_mem_chainIds (h : id ∈ chainIds groups start) : id ∈ groupIds groups :=
  Orbit.mem_fresh_of_mem_visited _ _ id h

theorem nodup_chainIds : (chainIds groups start).Nodup :=
  Orbit.nodup_visited (Table.nodup_firstOccurrences _) _

theorem mem_groupChain : g ∈ groupChain groups start ↔
    g.id ∈ chainIds groups start ∧ group? g.id groups = some g := by
  unfold groupChain
  rw [List.mem_filterMap]
  constructor
  · rintro ⟨id, hid, hg⟩
    rw [id_of_group? hg]
    exact ⟨hid, hg⟩
  · rintro ⟨hid, hg⟩
    exact ⟨g.id, hid, hg⟩

/-- Every id of the chain stands for one group. -/
theorem map_id_groupChain : (groupChain groups start).map (·.id) = chainIds groups start := by
  have hmap : ∀ ids : List String, (∀ id ∈ ids, id ∈ groupIds groups) →
      (ids.filterMap fun id => group? id groups).map (·.id) = ids := by
    intro ids hids
    induction ids with
    | nil => rfl
    | cons id rest ih =>
      obtain ⟨g, hg⟩ := mem_groupIds.mp (hids id List.mem_cons_self)
      have hrest := ih fun id hid => hids id (List.mem_cons_of_mem _ hid)
      simp [hg, hrest, id_of_group? hg]
  exact hmap _ fun id hid => mem_groupIds_of_mem_chainIds hid

/-- The chain begins with the group that `start` names. -/
theorem head?_groupChain :
    (groupChain groups start).head? = start.bind fun id => group? id groups := by
  unfold groupChain chainIds
  cases start with
  | none => simp
  | some id =>
    by_cases hid : id ∈ groupIds groups
    · obtain ⟨g, hg⟩ := mem_groupIds.mp hid
      simp [Orbit.trail_of_mem hid, hg]
    · simp [Orbit.trail_of_not_mem hid, group?_eq_none hid]

theorem isChain_groupChain :
    (groupChain groups start).IsChain fun g p => parent? groups g = some p := by
  have hids : ((groupChain groups start).map (·.id)).IsChain
      fun a b => parentId? groups a = some b := by
    rw [map_id_groupChain]
    exact Orbit.isChain_visited _ _
  rw [List.isChain_map] at hids
  refine hids.imp_of_mem_imp ?_
  intro g p hg hp hparent
  obtain ⟨-, hg⟩ := mem_groupChain.mp hg
  obtain ⟨-, hp⟩ := mem_groupChain.mp hp
  rw [parentId?_of_group? hg] at hparent
  simp [parent?, hparent, hp]

theorem length_groupChain_le : (groupChain groups start).length ≤ groups.length := by
  have hsubset : chainIds groups start ⊆ groups.map (·.id) := by
    intro id hid
    exact Table.mem_firstOccurrences.mp (mem_groupIds_of_mem_chainIds hid)
  have hle := (List.subperm_of_subset nodup_chainIds hsubset).length_le
  rw [← map_id_groupChain, List.length_map, List.length_map] at hle
  exact hle

/-! ## What the chain reaches -/

/-- What is reachable from the parent of a group is reachable from the group. -/
theorem Reachable.of_parentId (h : Reachable groups (parentId? groups id) g) :
    Reachable groups (some id) g := by
  induction h with
  | @first parentId g hparent hg =>
    obtain ⟨below, hbelow, hid⟩ := Option.bind_eq_some_iff.mp hparent
    refine .parent (.first rfl hbelow) ?_
    simp [parent?, hid, hg]
  | parent _ hparent ih => exact .parent ih hparent

theorem reachable_of_mem_visited (fresh : List String) (start : Option String) :
    ∀ id ∈ (Orbit.trail (parentId? groups) fresh start).visited, ∀ g, group? id groups = some g →
      Reachable groups start g := by
  induction fresh, start using Orbit.trail_induction (parentId? groups) with
  | ended fresh => simp
  | cut fresh a ha => simp
  | visit fresh a ha ih =>
    intro id hid g hg
    rcases List.mem_cons.mp hid with rfl | hid
    · exact .first rfl hg
    · exact (ih id hid g hg).of_parentId

/-- **The chain lists the reachable groups** and no others. It drops none on a cycle, for it stops
only at an id that it has, the parent of which it has, too. -/
theorem mem_groupChain_iff : g ∈ groupChain groups start ↔ Reachable groups start g := by
  constructor
  · intro h
    obtain ⟨hid, hg⟩ := mem_groupChain.mp h
    exact reachable_of_mem_visited _ _ g.id hid g hg
  · intro h
    induction h with
    | @first id g hstart hg =>
      have hhead : (groupChain groups start).head? = some g := by
        rw [head?_groupChain, hstart]
        exact hg
      exact List.mem_of_head? hhead
    | @parent g p _ hparent ih =>
      obtain ⟨hid, hg⟩ := mem_groupChain.mp ih
      obtain ⟨parentId, hparentId, hp⟩ := Option.bind_eq_some_iff.mp hparent
      have hpid := id_of_group? hp
      refine mem_groupChain.mpr ⟨?_, hpid ▸ hp⟩
      -- the parent is known, so the trail goes on to it or has been there
      refine Orbit.mem_visited_of_next hid ?_ (mem_groupIds.mpr ⟨p, hpid ▸ hp⟩)
      rw [parentId?_of_group? hg, hparentId, hpid]

/-! ## The loop -/

/-- The loop comes to at most one chain. -/
theorem Climb.unique {visited : List String} {chain chain' : List Group}
    (h : Climb groups visited start chain) (h' : Climb groups visited start chain') :
    chain = chain' := by
  induction h generalizing chain' with
  | top visited => cases h'; rfl
  | again hid =>
    cases h' with
    | again => rfl
    | unknown => rfl
    | climb hnot => exact absurd hid hnot
  | unknown hnot hnone =>
    cases h' with
    | again => rfl
    | unknown => rfl
    | climb _ hg =>
      rw [hnone] at hg
      cases hg
  | climb hnot hg _ ih =>
    cases h' with
    | again hid => exact absurd hid hnot
    | unknown _ hnone =>
      rw [hnone] at hg
      cases hg
    | climb _ hg' hrest =>
      obtain rfl := Option.some.inj (hg.symm.trans hg')
      rw [ih hrest]

/-- With the id of every group either visited or fresh, the loop runs to its end, and what it lists
are the groups of the trail through the fresh ids. -/
theorem climb_trail {fresh : List String} {start : Option String} (visited : List String)
    (hfresh : fresh.Nodup) (hdisj : ∀ id ∈ fresh, id ∉ visited)
    (hknown : ∀ id ∈ fresh, id ∈ groupIds groups)
    (hcover : ∀ id ∈ groupIds groups, id ∈ visited ∨ id ∈ fresh) :
    Climb groups visited start
      ((Orbit.trail (parentId? groups) fresh start).visited.filterMap fun id => group? id groups) := by
  induction fresh, start using Orbit.trail_induction (parentId? groups) generalizing visited with
  | ended fresh => exact .top visited
  | cut fresh a ha =>
    by_cases hvisited : a ∈ visited
    · exact .again hvisited
    · -- neither visited nor fresh, so it names no group
      apply Climb.unknown hvisited
      apply group?_eq_none
      intro hmem
      exact (hcover a hmem).elim hvisited ha
  | visit fresh a ha ih =>
    obtain ⟨g, hg⟩ := mem_groupIds.mp (hknown a ha)
    have hrest := ih (visited ++ [a]) (hfresh.erase a) (Orbit.not_mem_of_visit a hfresh hdisj)
      (fun id hid => hknown id (List.mem_of_mem_erase hid))
      (fun id hid => Orbit.mem_of_visit a (hcover id hid))
    rw [parentId?_of_group? hg] at hrest
    rw [Orbit.Trail.visited_cons, List.filterMap_cons, hg, parentId?_of_group? hg]
    exact .climb (hdisj a ha) hg hrest

/-- The loop, begun with nothing visited, comes to the chain. -/
theorem climb_groupChain : Climb groups [] start (groupChain groups start) :=
  climb_trail [] (Table.nodup_firstOccurrences _) (by simp) (fun _ hid => hid)
    (fun _ hid => .inr hid)

/-! ## Visibility -/

/-- What it means for a list to hold the groups that decide over what belongs to the group `start`,
from the nearest one outwards. -/
structure ListsReachable (groups : List Group) (start : Option String) (chain : List Group) :
    Prop where
  mem_iff : ∀ g, g ∈ chain ↔ Reachable groups start g
  nodup : (chain.map (·.id)).Nodup
  first : chain.head? = start.bind fun id => group? id groups
  /-- Each group is followed by its parent. -/
  parents : chain.IsChain fun g p => parent? groups g = some p
  length_le : chain.length ≤ groups.length

theorem listsReachable_groupChain : ListsReachable groups start (groupChain groups start) where
  mem_iff := fun _ => mem_groupChain_iff
  nodup := map_id_groupChain ▸ nodup_chainIds
  first := head?_groupChain
  parents := isChain_groupChain
  length_le := length_groupChain_le

variable {questions : List Question} {answers : Snapshot} {options : Options}

theorem isVisible_iff {q : Question} :
    q.isVisible answers questions groups options = true ↔
      guardHolds q.guard answers questions options = true ∧
        ∀ g, Reachable groups q.groupId g → guardHolds g.guard answers questions options = true := by
  unfold Question.isVisible
  rw [Bool.and_eq_true, List.all_eq_true]
  simp only [mem_groupChain_iff]

/-- Groups with distinct ids are found in any order. -/
theorem group?_perm {groups' : List Group} (hids : (groups.map (·.id)).Nodup)
    (hperm : groups.Perm groups') (id : String) : group? id groups' = group? id groups := by
  have hids' : (groups'.map (·.id)).Nodup := (hperm.map (·.id)).nodup_iff.mp hids
  ext g
  rw [group?_eq_some_iff hids, group?_eq_some_iff hids', hperm.mem_iff]

theorem Reachable.perm {groups' : List Group} (hids : (groups.map (·.id)).Nodup)
    (hperm : groups.Perm groups') (h : Reachable groups' start g) : Reachable groups start g := by
  induction h with
  | first hstart hg =>
    rw [group?_perm hids hperm] at hg
    exact .first hstart hg
  | parent _ hparent ih =>
    unfold parent? at hparent
    simp only [group?_perm hids hperm] at hparent
    exact .parent ih hparent

/-- Visibility does not depend on the order of groups with distinct ids. -/
theorem isVisible_perm {groups' : List Group} (hids : (groups.map (·.id)).Nodup)
    (hperm : groups.Perm groups') (q : Question) :
    q.isVisible answers questions groups' options = q.isVisible answers questions groups options := by
  have hids' : (groups'.map (·.id)).Nodup := (hperm.map (·.id)).nodup_iff.mp hids
  have hreachable : ∀ g, Reachable groups' q.groupId g ↔ Reachable groups q.groupId g := by
    intro g
    exact ⟨.perm hids hperm, .perm hids' hperm.symm⟩
  rw [Bool.eq_iff_iff, isVisible_iff, isVisible_iff]
  simp only [hreachable]

/-- **Visibility asks for every reachable group**, whatever the links between the groups. The loop
that follows parent ids ends with the chain as its only result; the chain lists the groups that are
reachable from a question; and a question is visible exactly when its own guard holds and those of
all reachable groups do. Where group ids are distinct, the order of the groups does not matter. -/
theorem visible_iff_reachable_guards_hold (groups : List Group) :
    (∀ start, (∀ chain, Climb groups [] start chain ↔ chain = groupChain groups start) ∧
      ListsReachable groups start (groupChain groups start)) ∧
    (∀ (q : Question) (answers : Snapshot) (questions : List Question) (options : Options),
      q.isVisible answers questions groups options = true ↔
        guardHolds q.guard answers questions options = true ∧
          ∀ g, Reachable groups q.groupId g →
            guardHolds g.guard answers questions options = true) ∧
    (∀ groups' : List Group, (groups.map (·.id)).Nodup → groups.Perm groups' →
      ∀ (q : Question) (answers : Snapshot) (questions : List Question) (options : Options),
        q.isVisible answers questions groups' options =
          q.isVisible answers questions groups options) := by
  refine ⟨?_, ?_, ?_⟩
  · intro start
    refine ⟨?_, listsReachable_groupChain⟩
    intro chain
    constructor
    · intro h
      exact h.unique climb_groupChain
    · rintro rfl
      exact climb_groupChain
  · intro q answers questions options
    exact isVisible_iff
  · intro groups' hids hperm q answers questions options
    exact isVisible_perm hids hperm q

/-- Groups of which the first leads into a cycle of two others. Who is of age is asked at the far end
of the cycle. -/
def ring : List Group :=
  [{ id := "tail", parentId := some "left" },
    { id := "left", parentId := some "right" },
    { id := "right", parentId := some "left"
      guard := some { conditions := [.ofValues "" "age" ["adult"]] } },
    { id := "apart", parentId := some "nowhere" }]

/-- A question in the group that leads into the cycle of `ring`. -/
def ringed : Question := { id := "ringed", kind := .text, groupId := some "tail" }

/-- The chain goes through the tail and once around the cycle, so that a child does not see the
question; and it goes the same way when the groups are listed from the last to the first. -/
theorem visible_iff_reachable_guards_hold_ring :
    ((ring.map (·.id)).Nodup ∧ ring.Perm ring.reverse) ∧
    (groupChain ring (some "tail")).map (·.id) = ["tail", "left", "right"] ∧
    Climb ring [] (some "tail") (groupChain ring (some "tail")) ∧
    ringed.isVisible (Snapshot.empty.answer "age" (.text "child"))
      [{ id := "age", kind := .radio }, ringed] ring.reverse {} = false := by
  have hids : (ring.map (·.id)).Nodup := by decide
  have hperm : ring.Perm ring.reverse := ring.reverse_perm.symm
  obtain ⟨hchain, -, hsame⟩ := visible_iff_reachable_guards_hold ring
  refine ⟨⟨hids, hperm⟩, by decide, ((hchain (some "tail")).1 _).mpr rfl, ?_⟩
  rw [hsame ring.reverse hids hperm]
  decide

end Questionnaire
