import Questionnaire.Proofs.Lint.Report
import Questionnaire.Proofs.Visibility.Climbs

/-!
# Cycles of groups

Two loops climb from group to parent. The one of the check starts above a group and looks out for
that group; it gives up at any other id that it has seen. The one of visibility lists groups and
stops at the first id that it has seen, whichever that is. The main statement is that they agree on
what a cycle is: the check reports the groups that lie on one, entry by entry, and these are the
groups at which the climb of visibility is cut. A group that merely leads into a cycle is not
reported, and the climb from it is cut further up.
-/

namespace Questionnaire

open Lint
open Relation (ReflTransGen TransGen)

variable {groups : List Group} {origin id : String} {visited : List String}
  {start : Option String}

/-! ## Looking out for a group -/

/-- The loop that follows parent ids and looks out for `origin`, with a list of the other ids that
it has visited. It is over at a group without a parent id, at `origin`, and at an id it has visited.
Nothing bounds its length. -/
inductive Search (groups : List Group) (origin : String) :
    List String → Option String → Bool → Prop
  | top (visited : List String) : Search groups origin visited none false
  | found (visited : List String) : Search groups origin visited (some origin) true
  | again {visited : List String} {id : String} : id ≠ origin → id ∈ visited →
      Search groups origin visited (some id) false
  | climb {visited : List String} {id : String} {result : Bool} : id ≠ origin → id ∉ visited →
      Search groups origin (visited ++ [id]) (parentId? groups id) result →
      Search groups origin visited (some id) result

/-- The loop comes to at most one result. -/
theorem Search.unique {a b : Bool} (ha : Search groups origin visited start a)
    (hb : Search groups origin visited start b) : a = b := by
  induction ha with
  | top visited => cases hb; rfl
  | found visited =>
    cases hb with
    | found => rfl
    | again hne => exact absurd rfl hne
    | climb hne => exact absurd rfl hne
  | again hne hid =>
    cases hb with
    | found => exact absurd rfl hne
    | again => rfl
    | climb _ hnot => exact absurd hid hnot
  | climb hne hnot _ ih =>
    cases hb with
    | found => exact absurd rfl hne
    | again _ hid => exact absurd hid hnot
    | climb _ _ hrest => exact ih hrest

/-- Where the loop finds `origin`, links lead there. -/
theorem Search.reaches (h : Search groups origin visited start true) :
    ∃ id, start = some id ∧ ReflTransGen (LeadsUp groups) id origin := by
  generalize hresult : true = result at h
  induction h with
  | top | again => cases hresult
  | found visited => exact ⟨origin, rfl, .refl⟩
  | climb _ _ _ ih =>
    obtain ⟨parent, hparent, hreach⟩ := ih hresult
    exact ⟨_, rfl, .head (parentId?_eq_some_iff.mp hparent) hreach⟩

/-- Where the loop gives up, no links lead to `origin`. Until then, the only link that leads out of
the visited ids is the one that the loop is about to follow; an id that was visited before closes
them. -/
theorem Search.not_reaches (h : Search groups origin visited start false)
    (hlinks : ∀ a ∈ visited, ∀ b, LeadsUp groups a b → b ∈ visited ∨ start = some b)
    (horigin : origin ∉ visited) :
    ∀ id, start = some id → ¬ ReflTransGen (LeadsUp groups) id origin := by
  generalize hresult : false = result at h
  induction h with
  | top visited => simp
  | found => cases hresult
  | @again visited id _ hid =>
    rintro _ ⟨⟩ hreach
    have hclosed : ∀ a, ReflTransGen (LeadsUp groups) id a → a ∈ visited := by
      intro a ha
      induction ha with
      | refl => exact hid
      | tail _ hab ih =>
        rcases hlinks _ ih _ hab with hb | hb
        · exact hb
        · exact Option.some.inj hb ▸ hid
    exact horigin (hclosed origin hreach)
  | @climb visited id _ hne _ _ ih =>
    have hrest : ∀ parent, parentId? groups id = some parent →
        ¬ ReflTransGen (LeadsUp groups) parent origin := by
      refine ih ?_ (by simp [horigin, hne.symm]) hresult
      intro a ha b hab
      rcases List.mem_append.mp ha with ha | ha
      · rcases hlinks a ha b hab with hb | hb
        · exact .inl (List.mem_append_left _ hb)
        · exact .inl (by simp [Option.some.inj hb])
      · rw [List.mem_singleton] at ha
        exact .inr (parentId?_eq_some_iff.mpr (ha ▸ hab))
    rintro _ ⟨⟩ hreach
    rcases hreach.cases_head with heq | ⟨parent, hparent, hreach⟩
    · exact hne heq
    · exact hrest parent (parentId?_eq_some_iff.mpr hparent) hreach

/-- Begun above an id, the loop finds it again exactly if it is on a cycle. -/
theorem Search.found_iff {result : Bool}
    (h : Search groups id [] (parentId? groups id) result) : result = true ↔ OnCycle groups id := by
  unfold OnCycle
  rw [TransGen.head'_iff]
  simp only [← parentId?_eq_some_iff]
  cases result with
  | true => exact iff_of_true rfl h.reaches
  | false =>
    refine iff_of_false Bool.false_ne_true ?_
    rintro ⟨parent, hparent, hreach⟩
    exact h.not_reaches (by simp) (by simp) parent hparent hreach

/-- With every group id but `origin` either visited or fresh, the loop runs to its end, and finds
`origin` exactly if the trail through the fresh ids is cut there. -/
theorem search_trail {fresh : List String} {start : Option String} (visited : List String)
    (hfresh : fresh.Nodup) (hdisj : ∀ id ∈ fresh, id ∉ visited) (horigin : origin ∉ fresh)
    (hcover : ∀ id ∈ groupIds groups, id = origin ∨ id ∈ visited ∨ id ∈ fresh) :
    Search groups origin visited start
      ((Orbit.trail (parentId? groups) fresh start).cut == some origin) := by
  induction fresh, start using Orbit.trail_induction (parentId? groups) generalizing visited with
  | ended fresh => exact .top visited
  | cut fresh a ha =>
    by_cases hao : a = origin
    · subst hao
      simpa using Search.found visited
    · have hcut : (some a == some origin) = false := by simpa using hao
      rw [hcut]
      by_cases hvisited : a ∈ visited
      · exact .again hao hvisited
      · -- an id that is none of these names no group
        have hnone : group? a groups = none := by
          apply group?_eq_none
          intro hmem
          rcases hcover a hmem with h | h | h
          · exact hao h
          · exact hvisited h
          · exact ha h
        refine .climb hao hvisited ?_
        simpa [parentId?, hnone] using Search.top (visited ++ [a])
  | visit fresh a ha ih =>
    have hao : a ≠ origin := fun h => horigin (h ▸ ha)
    refine .climb hao (hdisj a ha) ?_
    refine ih (visited ++ [a]) (hfresh.erase a) (Orbit.not_mem_of_visit a hfresh hdisj)
      (fun hmem => horigin (List.mem_of_mem_erase hmem)) ?_
    intro id hid
    exact (hcover id hid).imp_right (Orbit.mem_of_visit a)

/-- Begun above an id, the loop comes to what is computed for the id, also if it names no group. -/
theorem search_inCycle (groups : List Group) (id : String) :
    Search groups id [] (parentId? groups id) (inCycle groups id) := by
  have hnodup : (groupIds groups).Nodup := Table.nodup_firstOccurrences _
  refine search_trail [] (hnodup.erase id) (by simp) hnodup.not_mem_erase ?_
  intro a ha
  by_cases haid : a = id
  · exact .inl haid
  · exact .inr (.inr ((List.mem_erase_of_ne haid).mpr ha))

theorem inCycle_iff : inCycle groups id = true ↔ OnCycle groups id :=
  (search_inCycle groups id).found_iff

instance (groups : List Group) (id : String) : Decidable (OnCycle groups id) :=
  decidable_of_iff (inCycle groups id = true) inCycle_iff

/-- Where the search finds `origin`, a climb that has visited it as well is cut there. -/
theorem Search.climbTo (h : Search groups origin visited start true) :
    ∃ chain, ClimbTo groups (origin :: visited) start chain (.again origin) := by
  generalize hresult : true = result at h
  induction h with
  | top | again => cases hresult
  | found visited => exact ⟨[], .again List.mem_cons_self⟩
  | @climb visited id _ hne hnot hrest ih =>
    obtain ⟨chain, hchain⟩ := ih hresult
    -- the search goes on from this id, so it names a group
    subst hresult
    obtain ⟨parent, hparent, -⟩ := hrest.reaches
    obtain ⟨g, hg, -⟩ := parentId?_eq_some_iff.mp hparent
    rw [parentId?_of_group? hg] at hchain
    exact ⟨g :: chain, .climb (by simp [hne, hnot]) hg hchain⟩

/-- A group is on a cycle exactly if the climb from it is cut at it. -/
theorem onCycle_iff_climbTo :
    OnCycle groups id ↔ ∃ chain, ClimbTo groups [] (some id) chain (.again id) := by
  constructor
  · intro h
    obtain ⟨g, hg⟩ := h.exists_group
    obtain ⟨chain, hchain⟩ := (inCycle_iff.mpr h ▸ search_inCycle groups id).climbTo
    rw [parentId?_of_group? hg] at hchain
    exact ⟨g :: chain, .climb (by simp) hg hchain⟩
  · rintro ⟨chain, h⟩
    exact h.onCycle (by simp)

/-! ## What is reported -/

variable {chain : List Group}

namespace Lint

theorem Issue.code_eq_groupCycle_iff {i : Issue} : i.code = "group_cycle" ↔ i = .groupCycle := by
  cases i <;> simp [code]

variable {s : Survey} {table : Question} {check : Table.Check}

/-- No check of a table is about cycles of groups; hence no condition and no rule is, either. -/
theorem groupCycle_not_mem_checkIssues : .groupCycle ∉ checkIssues table check := by
  unfold checkIssues unknownRows columnIssues
  cases check.column with
  | none => simp
  | some col => cases hshort : shortRow? table.rows check.rowIds col <;> simp [hshort]

theorem groupCycle_not_mem_optionalCheckIssues {check : Option Table.Check} :
    .groupCycle ∉ optionalCheckIssues table check := by
  cases check with
  | none => simp [optionalCheckIssues]
  | some check => exact groupCycle_not_mem_checkIssues

theorem groupCycle_not_mem_testIssues {t : Test} : .groupCycle ∉ testIssues table t := by
  cases t with
  | value required => simp [testIssues]
  | cells primary extra =>
    cases htable : table.isTable with
    | false => simp [testIssues, htable]
    | true =>
      cases primary <;> simp [testIssues, htable, groupCycle_not_mem_checkIssues,
        groupCycle_not_mem_optionalCheckIssues]

theorem groupCycle_not_mem_conditionIssues {position : Option Nat} {c : Condition} :
    .groupCycle ∉ conditionIssues s position c := by
  unfold conditionIssues
  cases questionIndex? c.source s.questions with
  | none => simp
  | some i =>
    cases hsource : s.questions[i]? with
    | none => simp [hsource]
    | some source => simp [hsource, groupCycle_not_mem_testIssues]

theorem groupCycle_not_mem_ruleIssues {i : Nat} {q : Question} {r : Rule} :
    .groupCycle ∉ ruleIssues s i q r := by
  have hjumps : .groupCycle ∉ jumpIssues s i r := by
    simp [mem_jumpIssues_iff, mem_targetIssues_iff]
  simp [ruleIssues, groupCycle_not_mem_checkIssues, groupCycle_not_mem_optionalCheckIssues, hjumps]

/-- The finding that a group is on a cycle. -/
def cycleFinding (g : Group) : Finding := ⟨.owner (.group g.id), .groupCycle⟩

/-- Whether a finding says that a group is on a cycle. -/
def Finding.isCycle (f : Finding) : Bool := f.issue.code == "group_cycle"

theorem Finding.isCycle_iff {f : Finding} : f.isCycle = true ↔ f.issue = .groupCycle := by
  rw [isCycle, beq_iff_eq, Issue.code_eq_groupCycle_iff]

theorem filter_isCycle_unknownGroup {o : Owner} {issue : String → Issue} {id : Option String}
    (hissue : ∀ name, issue name ≠ .groupCycle) :
    (unknownGroup s o issue id).filter Finding.isCycle = [] := by
  rw [List.filter_eq_nil_iff]
  intro f hf
  obtain ⟨name, -, -, rfl⟩ := mem_unknownGroup_iff.mp hf
  rw [Finding.isCycle_iff]
  exact hissue name

theorem filter_isCycle_guardFindings {o : Owner} {position : Option Nat} {guard : Option Guard} :
    (guardFindings s o position guard).filter Finding.isCycle = [] := by
  rw [List.filter_eq_nil_iff]
  intro f hf
  obtain ⟨g, -, c, -, issue, hissue, rfl⟩ := mem_guardFindings_iff.mp hf
  rw [Finding.isCycle_iff]
  rintro rfl
  exact groupCycle_not_mem_conditionIssues hissue

theorem filter_isCycle_rulesFindings {i : Nat} {q : Question} :
    (rulesFindings s i q).filter Finding.isCycle = [] := by
  rw [List.filter_eq_nil_iff]
  intro f hf
  rw [Finding.isCycle_iff]
  rcases mem_rulesFindings_iff.mp hf with ⟨-, -, rfl⟩ | ⟨-, r, -, issue, hissue, rfl⟩
  · simp
  · rintro rfl
    exact groupCycle_not_mem_ruleIssues hissue

theorem filter_isCycle_questionFindings {i : Nat} {q : Question} :
    (questionFindings s i q).filter Finding.isCycle = [] := by
  unfold questionFindings
  rw [List.filter_append, List.filter_append, filter_isCycle_unknownGroup (by simp),
    filter_isCycle_guardFindings, filter_isCycle_rulesFindings]
  rfl

theorem filter_isCycle_groupFindings {g : Group} :
    (groupFindings s g).filter Finding.isCycle =
      if OnCycle s.groups g.id then [cycleFinding g] else [] := by
  unfold groupFindings
  rw [List.filter_append, List.filter_append, filter_isCycle_unknownGroup (by simp),
    filter_isCycle_guardFindings, List.nil_append, List.append_nil]
  simp only [inCycle_iff]
  by_cases h : OnCycle s.groups g.id
  · simp [h, cycleFinding, Finding.isCycle_iff]
  · simp [h]

/-- **Cycles in the report.** The findings about cycles are one for each entry with an id that is on
a cycle, in the order of the entries. -/
theorem filter_isCycle_lint : s.lint.filter Finding.isCycle =
    (s.groups.filter fun g => OnCycle s.groups g.id).map cycleFinding := by
  have hquestions : ((s.questions.mapIdx (questionFindings s)).flatten).filter
      Finding.isCycle = [] := by
    rw [List.filter_eq_nil_iff]
    intro f hf
    obtain ⟨findings, hfindings, hf⟩ := List.mem_flatten.mp hf
    obtain ⟨i, hlt, rfl⟩ := List.mem_mapIdx.mp hfindings
    exact List.filter_eq_nil_iff.mp filter_isCycle_questionFindings f hf
  have hgroups (groups : List Group) : (groups.flatMap (groupFindings s)).filter Finding.isCycle =
      (groups.filter fun g => OnCycle s.groups g.id).map cycleFinding := by
    induction groups with
    | nil => rfl
    | cons g rest ih =>
      rw [List.flatMap_cons, List.filter_append, filter_isCycle_groupFindings, ih]
      by_cases h : OnCycle s.groups g.id <;> simp [h]
  unfold Survey.lint
  rw [List.filter_append, hquestions, hgroups, List.nil_append]

/-- A group is reported for a cycle exactly if its id is on one. -/
theorem reports_groupCycle_iff : Reports s.lint "group_cycle" ("group:" ++ id) ↔
    OnCycle s.groups id := by
  have hmem : ∀ f, f ∈ s.lint ∧ f.issue.code = "group_cycle" ↔
      f ∈ (s.groups.filter fun g => OnCycle s.groups g.id).map cycleFinding := by
    intro f
    rw [← filter_isCycle_lint, List.mem_filter, Finding.isCycle, beq_iff_eq]
  unfold Reports
  simp only [← and_assoc, hmem, List.mem_map, List.mem_filter, decide_eq_true_eq]
  constructor
  · rintro ⟨_, ⟨g, ⟨-, hcycle⟩, rfl⟩, htext⟩
    have hid : g.id = id := by simpa [cycleFinding, Subject.text, Owner.text] using htext
    exact hid ▸ hcycle
  · intro h
    obtain ⟨g, hg⟩ := h.exists_group
    obtain rfl := id_of_group? hg
    exact ⟨cycleFinding g, ⟨g, ⟨List.mem_of_find?_eq_some hg, h⟩, rfl⟩, rfl⟩

/-- A climb that is cut at an id that came up before is reported there. -/
theorem reports_groupCycle_of_again (h : ClimbTo s.groups [] start chain (.again id)) :
    Reports s.lint "group_cycle" ("group:" ++ id) :=
  reports_groupCycle_iff.mpr (h.onCycle (by simp))

/-- A climb from a question that ends at an unknown id is reported, too: for the question if the id
is its own, and else for the last group of the climb. -/
theorem hasCode_unknownGroup {q : Question} (hq : q ∈ s.questions)
    (h : ClimbTo s.groups [] q.groupId chain (.unknown id)) :
    HasCode s.lint "unknown_group" := by
  have hnone := h.group?_eq_none
  have hstop := h.id?_halt
  cases hlast : chain.getLast? with
  | none =>
    rw [hlast] at hstop
    exact ⟨_, mem_lint_iff.mpr (.unknownGroup hq hstop.symm hnone), rfl⟩
  | some g =>
    rw [hlast] at hstop
    have hchain : g ∈ groupChain s.groups q.groupId :=
      h.eq_groupChain ▸ List.mem_of_getLast? hlast
    have hg := List.mem_of_find?_eq_some (mem_groupChain.mp hchain).2
    exact ⟨_, mem_lint_iff.mpr (.unknownParent hg hstop.symm hnone), rfl⟩

/-- With neither cycles nor unknown groups in the report, the chain of a question in a group ends at
a group without a parent id. -/
theorem getLast?_groupChain_of_clean (hcycle : ¬ HasCode s.lint "group_cycle")
    (hunknown : ¬ HasCode s.lint "unknown_group") {q : Question} (hq : q ∈ s.questions)
    (hid : q.groupId = some id) :
    ∃ g, (groupChain s.groups q.groupId).getLast? = some g ∧ g.parentId = none := by
  obtain ⟨halt, h⟩ := exists_climbTo s.groups q.groupId
  cases halt with
  | top =>
    have hstop := h.id?_halt
    cases hlast : (groupChain s.groups q.groupId).getLast? with
    | none =>
      rw [hlast, hid] at hstop
      cases hstop
    | some g =>
      rw [hlast] at hstop
      exact ⟨g, rfl, hstop.symm⟩
  | again id => exact absurd (reports_groupCycle_of_again h).hasCode hcycle
  | unknown id => exact absurd (hasCode_unknownGroup hq h) hunknown

end Lint

/-- **Cycles are reported where climbs are cut**, whatever the links between the groups. The loop
that looks out for a group ends, and finds it exactly if its id is on a cycle; then the group is
reported, once for each of its entries, and the climb from it is cut at it. Without a report of
cycles and unknown groups, the chain of a question in a group is not empty and ends at a group
without a parent id; and when the climb from a question comes to an id again, the group with this id
is reported. -/
theorem cycles_reported_iff_climbs_cut (s : Survey) :
    (∀ id, ∃! result, Search s.groups id [] (parentId? s.groups id) result) ∧
    (∀ g ∈ s.groups,
      Search s.groups g.id [] (parentId? s.groups g.id) (inCycle s.groups g.id) ∧
      (Reports s.lint "group_cycle" ("group:" ++ g.id) ↔ OnCycle s.groups g.id) ∧
      (OnCycle s.groups g.id ↔ ∃ chain, ClimbTo s.groups [] (some g.id) chain (.again g.id))) ∧
    s.lint.filter Finding.isCycle =
      (s.groups.filter fun g => OnCycle s.groups g.id).map cycleFinding ∧
    (¬ HasCode s.lint "group_cycle" → ¬ HasCode s.lint "unknown_group" →
      ∀ q ∈ s.questions, ∀ id, q.groupId = some id →
        ∃ g, (groupChain s.groups q.groupId).getLast? = some g ∧ g.parentId = none) ∧
    (∀ q ∈ s.questions,
      (∃ halt, ClimbTo s.groups [] q.groupId (groupChain s.groups q.groupId) halt) ∧
      ∀ chain id, ClimbTo s.groups [] q.groupId chain (.again id) →
        chain = groupChain s.groups q.groupId ∧
          Reports s.lint "group_cycle" ("group:" ++ id)) := by
  refine ⟨?_, ?_, filter_isCycle_lint, ?_, ?_⟩
  · intro id
    exact ⟨_, search_inCycle s.groups id, fun _ h => h.unique (search_inCycle s.groups id)⟩
  · intro g hg
    exact ⟨search_inCycle s.groups g.id, reports_groupCycle_iff, onCycle_iff_climbTo⟩
  · intro hcycle hunknown q hq id hid
    exact getLast?_groupChain_of_clean hcycle hunknown hq hid
  · intro q hq
    refine ⟨exists_climbTo s.groups q.groupId, ?_⟩
    intro chain id h
    exact ⟨h.eq_groupChain, reports_groupCycle_of_again h⟩

/-- A survey with groups of which one leads into a cycle of two others, one is its own parent, and
one has a second entry that nothing leads to. -/
def winding : Survey where
  questions := [{ id := "age", kind := .text, groupId := some "porch" }]
  groups :=
    [{ id := "porch", parentId := some "left" }, { id := "left", parentId := some "right" },
      { id := "right", parentId := some "left" }, { id := "left" },
      { id := "own", parentId := some "own" }]

/-- A survey with a group inside another one. -/
def nested : Survey where
  questions := [{ id := "age", kind := .text, groupId := some "inner" }]
  groups := [{ id := "inner", parentId := some "outer" }, { id := "outer" }]

/-- The groups on the cycles are reported, the second entry of the one with two included, and the
group that leads to them is not: the climb from it is cut further up. From the inner one of two
groups, nothing cuts the climb. -/
theorem cycles_reported_iff_climbs_cut_winding :
    ((winding.lint.filter Finding.isCycle).map (·.subject.text) =
      ["group:left", "group:right", "group:left", "group:own"] ∧
    ¬ Reports winding.lint "group_cycle" "group:porch" ∧
    ∃ chain, ClimbTo winding.groups [] (some "porch") chain (.again "left") ∧
      chain.map (·.id) = ["porch", "left", "right"] ∧
      Reports winding.lint "group_cycle" "group:left") ∧
    ¬ HasCode nested.lint "group_cycle" ∧ ¬ HasCode nested.lint "unknown_group" ∧
    ∃ g, (groupChain nested.groups (some "inner")).getLast? = some g ∧ g.parentId = none := by
  obtain ⟨-, hgroups, hfindings, -, hquestions⟩ := cycles_reported_iff_climbs_cut winding
  obtain ⟨-, -, -, hends, -⟩ := cycles_reported_iff_climbs_cut nested
  have hcycle : ¬ HasCode nested.lint "group_cycle" := by unfold HasCode; decide
  have hunknown : ¬ HasCode nested.lint "unknown_group" := by unfold HasCode; decide
  refine ⟨⟨?_, ?_, ?_⟩, hcycle, hunknown, ?_⟩
  · rw [hfindings]
    decide
  · have hporch : { id := "porch", parentId := some "left" } ∈ winding.groups := by
      simp [winding]
    obtain ⟨-, hreports, -⟩ := hgroups _ hporch
    rw [show "group:porch" = "group:" ++ "porch" from rfl, hreports]
    decide
  · have hage : { id := "age", kind := .text, groupId := some "porch" } ∈ winding.questions := by
      simp [winding]
    have hclimb : ClimbTo winding.groups [] (some "porch") _ (.again "left") :=
      .climb (by decide) rfl (.climb (by decide) rfl (.climb (by decide) rfl (.again (by decide))))
    obtain ⟨-, hcut⟩ := hquestions _ hage
    exact ⟨_, hclimb, by decide, (hcut _ "left" hclimb).2⟩
  · have hage : { id := "age", kind := .text, groupId := some "inner" } ∈ nested.questions := by
      simp [nested]
    exact hends hcycle hunknown _ hage "inner" rfl

end Questionnaire
