import Questionnaire.Branching
import Questionnaire.Lint.Survey

/-!
# What the check reports

The findings of a survey are collected question by question and group by group, and each of them
by a lookup or two. `Lint.Found` says what they are without the traversals, one rule for each part
of a survey that something can be wrong with; nothing that is proved about findings has to unfold
`Survey.lint` again.
-/

namespace Questionnaire

open Lint

variable {s : Survey} {i : Nat} {q : Question}

namespace Lint

/-- Some finding with this code is about the part of the survey that `subject` names. -/
def Reports (findings : List Finding) (code subject : String) : Prop :=
  ∃ f ∈ findings, f.issue.code = code ∧ f.subject.text = subject

/-- Some finding has this code. -/
def HasCode (findings : List Finding) (code : String) : Prop :=
  ∃ f ∈ findings, f.issue.code = code

theorem Reports.hasCode {findings : List Finding} {code subject : String}
    (h : Reports findings code subject) : HasCode findings code := by
  obtain ⟨f, hf, hcode, -⟩ := h
  exact ⟨f, hf, hcode⟩

end Lint

/-! ## All findings -/

namespace Lint

/-- The guards of a survey, each with the question or group that it decides over; a question comes
with its position. -/
inductive HasGuard (s : Survey) : Owner → Option Nat → Guard → Prop
  | question {i : Nat} {q : Question} {g : Guard} : s.questions[i]? = some q → q.guard = some g →
      HasGuard s (.question q.id) (some i) g
  | group {group : Group} {g : Guard} : group ∈ s.groups → group.guard = some g →
      HasGuard s (.group group.id) none g

/-- What the check of a survey has to report, without the order. -/
inductive Found (s : Survey) : Finding → Prop
  | unknownGroup {q : Question} {id : String} : q ∈ s.questions → q.groupId = some id →
      group? id s.groups = none → Found s ⟨.owner (.question q.id), .unknownGroup id⟩
  | unknownParent {g : Group} {id : String} : g ∈ s.groups → g.parentId = some id →
      group? id s.groups = none → Found s ⟨.owner (.group g.id), .unknownParent id⟩
  | groupCycle {g : Group} : g ∈ s.groups → inCycle s.groups g.id = true →
      Found s ⟨.owner (.group g.id), .groupCycle⟩
  | rulesOnNonTable {q : Question} : q ∈ s.questions → q.isTable = false → q.rules ≠ [] →
      Found s ⟨.owner (.question q.id), .rulesOnNonTable⟩
  | condition {o : Owner} {position : Option Nat} {g : Guard} {c : Condition} {issue : Issue} :
      HasGuard s o position g → c ∈ g.conditions → issue ∈ conditionIssues s position c →
      Found s ⟨.condition o c.id, issue⟩
  | rule {i : Nat} {q : Question} {r : Rule} {issue : Issue} : s.questions[i]? = some q →
      q.isTable = true → r ∈ q.rules → issue ∈ ruleIssues s i q r →
      Found s ⟨.rule q.id r.id, issue⟩

variable {f : Finding}

theorem mem_unknownGroup_iff {o : Owner} {issue : String → Issue} {id : Option String} :
    f ∈ unknownGroup s o issue id ↔
      ∃ name, id = some name ∧ group? name s.groups = none ∧ f = ⟨.owner o, issue name⟩ := by
  cases id with
  | none => simp [unknownGroup]
  | some name => simp [unknownGroup]

theorem mem_guardFindings_iff {o : Owner} {position : Option Nat} {guard : Option Guard} :
    f ∈ guardFindings s o position guard ↔ ∃ g, guard = some g ∧ ∃ c ∈ g.conditions,
      ∃ issue ∈ conditionIssues s position c, f = ⟨.condition o c.id, issue⟩ := by
  cases guard with
  | none => simp [guardFindings]
  | some g => simp [guardFindings, eq_comm]

theorem mem_rulesFindings_iff : f ∈ rulesFindings s i q ↔
    q.isTable = false ∧ q.rules ≠ [] ∧ f = ⟨.owner (.question q.id), .rulesOnNonTable⟩ ∨
    q.isTable = true ∧ ∃ r ∈ q.rules, ∃ issue ∈ ruleIssues s i q r,
      f = ⟨.rule q.id r.id, issue⟩ := by
  unfold rulesFindings
  cases hrules : q.rules with
  | nil => simp
  | cons r rest => cases q.isTable <;> simp [eq_comm]

theorem mem_questionFindings_iff : f ∈ questionFindings s i q ↔
    f ∈ unknownGroup s (.question q.id) .unknownGroup q.groupId ∨
    f ∈ guardFindings s (.question q.id) (some i) q.guard ∨ f ∈ rulesFindings s i q := by
  unfold questionFindings
  rw [List.mem_append, List.mem_append, or_assoc]

theorem mem_groupFindings_iff {g : Group} : f ∈ groupFindings s g ↔
    f ∈ unknownGroup s (.group g.id) .unknownParent g.parentId ∨
    (inCycle s.groups g.id = true ∧ f = ⟨.owner (.group g.id), .groupCycle⟩) ∨
    f ∈ guardFindings s (.group g.id) none g.guard := by
  unfold groupFindings
  rw [List.mem_append, List.mem_append, or_assoc]
  simp

end Lint

theorem mem_lint_iff_parts {f : Finding} : f ∈ s.lint ↔
    (∃ i q, s.questions[i]? = some q ∧ f ∈ questionFindings s i q) ∨
      ∃ g ∈ s.groups, f ∈ groupFindings s g := by
  unfold Survey.lint
  rw [List.mem_append, List.mem_flatMap, List.mem_flatten]
  refine or_congr_left ?_
  constructor
  · rintro ⟨_, hfindings, hf⟩
    obtain ⟨i, hlt, rfl⟩ := List.mem_mapIdx.mp hfindings
    exact ⟨i, _, List.getElem?_eq_getElem hlt, hf⟩
  · rintro ⟨i, q, hq, hf⟩
    obtain ⟨hlt, rfl⟩ := List.getElem?_eq_some_iff.mp hq
    exact ⟨_, List.mem_mapIdx.mpr ⟨i, hlt, rfl⟩, hf⟩

/-- **What is reported.** The findings of a survey are those that `Found` describes. -/
theorem mem_lint_iff {f : Finding} : f ∈ s.lint ↔ Found s f := by
  simp only [mem_lint_iff_parts, mem_questionFindings_iff, mem_groupFindings_iff,
    mem_unknownGroup_iff, mem_guardFindings_iff, mem_rulesFindings_iff]
  constructor
  · rintro (⟨i, q, hq, hf⟩ | ⟨g, hg, hf⟩)
    · have hmem := List.mem_of_getElem? hq
      rcases hf with ⟨id, hid, hgroup, rfl⟩ | ⟨guard, hguard, c, hc, issue, hissue, rfl⟩ |
        ⟨htable, hrules, rfl⟩ | ⟨htable, r, hr, issue, hissue, rfl⟩
      · exact .unknownGroup hmem hid hgroup
      · exact .condition (.question hq hguard) hc hissue
      · exact .rulesOnNonTable hmem htable hrules
      · exact .rule hq htable hr hissue
    · rcases hf with ⟨id, hid, hgroup, rfl⟩ | ⟨hcycle, rfl⟩ |
        ⟨guard, hguard, c, hc, issue, hissue, rfl⟩
      · exact .unknownParent hg hid hgroup
      · exact .groupCycle hg hcycle
      · exact .condition (.group hg hguard) hc hissue
  · intro h
    cases h with
    | unknownGroup hq hid hgroup =>
      obtain ⟨i, hi⟩ := List.mem_iff_getElem?.mp hq
      exact .inl ⟨i, _, hi, .inl ⟨_, hid, hgroup, rfl⟩⟩
    | unknownParent hg hid hgroup => exact .inr ⟨_, hg, .inl ⟨_, hid, hgroup, rfl⟩⟩
    | groupCycle hg hcycle => exact .inr ⟨_, hg, .inr (.inl ⟨hcycle, rfl⟩)⟩
    | rulesOnNonTable hq htable hrules =>
      obtain ⟨i, hi⟩ := List.mem_iff_getElem?.mp hq
      exact .inl ⟨i, _, hi, .inr (.inr (.inl ⟨htable, hrules, rfl⟩))⟩
    | condition hguard hc hissue =>
      cases hguard with
      | question hq hg => exact .inl ⟨_, _, hq, .inr (.inl ⟨_, hg, _, hc, _, hissue, rfl⟩)⟩
      | group hgroup hg => exact .inr ⟨_, hgroup, .inr (.inr ⟨_, hg, _, hc, _, hissue, rfl⟩)⟩
    | rule hq htable hr hissue =>
      exact .inl ⟨_, _, hq, .inr (.inr (.inr ⟨htable, _, hr, _, hissue, rfl⟩))⟩

/-! ## Targets of jumps -/

theorem targets_eq (r : Rule) : targets r = match r.branches? with
    | some m => m.values
    | none => r.target.toList := by
  unfold targets
  cases hbranches : r.branches? with
  | some m =>
    obtain ⟨hmap, hempty⟩ := Rule.branches?_eq_some_iff.mp hbranches
    simp [hmap, hempty]
  | none =>
    cases hmap : r.targetMap with
    | none => rfl
    | some m => simp [Rule.branches?_eq_none_iff.mp hbranches m hmap]

/-- Whatever target a rule chooses is among those that are checked. -/
theorem mem_targets_of_chosenTarget? {r : Rule} {scope : Table.Scope} {t : String}
    (h : r.chosenTarget? scope = some t) : t ∈ targets r := by
  unfold Rule.chosenTarget? at h
  rw [targets_eq]
  cases hbranches : r.branches? with
  | none =>
    rw [hbranches] at h
    exact Option.mem_toList.mpr h
  | some m =>
    rw [hbranches] at h
    obtain ⟨_, -, hget⟩ := List.exists_of_findSome?_eq_some h
    exact Entries.mem_values_of_get? hget

theorem mem_targetIssues_iff {t : String} {issue : Issue} : issue ∈ targetIssues s i t ↔
    questionIndex? t s.questions = none ∧ issue = .danglingTarget t ∨
      ∃ j, questionIndex? t s.questions = some j ∧ j ≤ i ∧ issue = .backwardTarget t := by
  unfold targetIssues
  cases questionIndex? t s.questions with
  | none => simp
  | some j => by_cases hle : j ≤ i <;> simp [hle]

theorem mem_jumpIssues_iff {r : Rule} {issue : Issue} : issue ∈ jumpIssues s i r ↔
    r.action = .jump ∧ (targets r = [] ∧ issue = .noTarget ∨
      ∃ t ∈ targets r, issue ∈ targetIssues s i t) := by
  unfold jumpIssues
  cases r.action with
  | finish => simp
  | jump => cases targets r <;> simp

section

variable {r : Rule} (hq : s.questions[i]? = some q) (htable : q.isTable = true) (hr : r ∈ q.rules)
include hq htable hr

/-- What is wrong with the jumps of a rule is reported for the rule. -/
theorem reports_of_jump (issue : Issue) (hissue : issue ∈ jumpIssues s i r) :
    Reports s.lint issue.code ("question:" ++ q.id ++ "/rule:" ++ r.id) :=
  ⟨_, mem_lint_iff.mpr (.rule hq htable hr (List.mem_append_right _ hissue)), rfl, rfl⟩

variable (hjump : r.action = .jump)
include hjump

/-- A jump that has nowhere to lead to is reported. -/
theorem reports_noTarget (hnone : targets r = []) :
    Reports s.lint "goto_without_target" ("question:" ++ q.id ++ "/rule:" ++ r.id) :=
  reports_of_jump hq htable hr .noTarget (mem_jumpIssues_iff.mpr ⟨hjump, .inl ⟨hnone, rfl⟩⟩)

/-- A jump to no question is reported as a dangling target of its rule. -/
theorem reports_danglingTarget {t : String} (ht : t ∈ targets r)
    (hnone : questionIndex? t s.questions = none) :
    Reports s.lint "dangling_target" ("question:" ++ q.id ++ "/rule:" ++ r.id) := by
  have hissue : .danglingTarget t ∈ targetIssues s i t :=
    mem_targetIssues_iff.mpr (.inl ⟨hnone, rfl⟩)
  exact reports_of_jump hq htable hr (.danglingTarget t)
    (mem_jumpIssues_iff.mpr ⟨hjump, .inr ⟨t, ht, hissue⟩⟩)

/-- A jump to a position that is not ahead is reported as a backward target of its rule. -/
theorem reports_backwardTarget {t : String} {j : Nat} (ht : t ∈ targets r)
    (hj : questionIndex? t s.questions = some j) (hle : j ≤ i) :
    Reports s.lint "backward_target" ("question:" ++ q.id ++ "/rule:" ++ r.id) := by
  have hissue : .backwardTarget t ∈ targetIssues s i t :=
    mem_targetIssues_iff.mpr (.inr ⟨j, hj, hle, rfl⟩)
  exact reports_of_jump hq htable hr (.backwardTarget t)
    (mem_jumpIssues_iff.mpr ⟨hjump, .inr ⟨t, ht, hissue⟩⟩)

end

end Questionnaire
