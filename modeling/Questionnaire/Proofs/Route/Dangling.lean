import Questionnaire.Proofs.Entries
import Questionnaire.Proofs.Lint.Report
import Questionnaire.Proofs.Route.Leads

/-!
# Jumps that dangle are reported

The check of a survey lists every target that a rule may have; the step chooses one of them by what
was selected, and falls back to survey order when there is none or when it names no question. The
main statement is that the check reports every rule of which the step may fall back, except for
what no list of targets shows: that the respondent selected nothing which has a target.
-/

namespace Questionnaire

open Lint
open Table (Scope)

namespace Rule

/-- There are targets by value, and some selected value has one. -/
def Hits (r : Rule) (scope : Scope) : Prop :=
  ∃ m, r.targetMap = some m ∧ m.isEmpty = false ∧
    ∃ key ∈ m.keys, key ∈ scope.selectedValues r.selector

/-- There are targets by value, and no selected value has one. -/
def Misses (r : Rule) (scope : Scope) : Prop :=
  ∃ m, r.targetMap = some m ∧ m.isEmpty = false ∧
    ∀ key ∈ m.keys, key ∉ scope.selectedValues r.selector

/-- There is a fixed target, which no targets by value hide. -/
def IsFixed (r : Rule) : Prop :=
  (∀ m, r.targetMap = some m → m.isEmpty = true) ∧ ∃ target, r.target = some target

variable {r : Rule} {scope : Scope}

/-- A rule that chooses no target misses its targets by value, or none is listed. -/
theorem misses_or_of_chosenTarget?_eq_none (h : r.chosenTarget? scope = none) :
    r.Misses scope ∨ targets r = [] := by
  unfold chosenTarget? at h
  rw [targets_eq]
  cases hbranches : r.branches? with
  | none =>
    rw [hbranches] at h
    exact .inr (by simp only [h, Option.toList_none])
  | some m =>
    obtain ⟨hmap, hempty⟩ := branches?_eq_some_iff.mp hbranches
    simp only [hbranches, List.findSome?_eq_none_iff] at h
    refine .inl ⟨m, hmap, hempty, fun key hkey hselected => ?_⟩
    exact Entries.get?_eq_none_iff.mp (h key hselected) hkey

theorem exists_chosenTarget? (h : r.Hits scope ∨ r.IsFixed) :
    ∃ target, r.chosenTarget? scope = some target := by
  unfold chosenTarget?
  rcases h with ⟨m, hmap, hempty, key, hkey, hselected⟩ | ⟨hmap, target, htarget⟩
  · rw [branches?_eq_some_iff.mpr ⟨hmap, hempty⟩]
    obtain ⟨target, hget⟩ := Entries.mem_keys_iff.mp hkey
    refine Option.isSome_iff_exists.mp (List.findSome?_isSome_iff.mpr ⟨key, hselected, ?_⟩)
    rw [hget, Option.isSome_some]
  · rw [branches?_eq_none_iff.mpr hmap]
    exact ⟨target, htarget⟩

end Rule

namespace Survey

variable {s : Survey} {i : Nat} {answer : Option Answer} {options : Options} {q : Question}
  {r : Rule}

/-- A target that is not reported as dangling is the id of a question. -/
theorem exists_index_of_chosenTarget? (hq : s.questions[i]? = some q)
    (hr : q.firedRule? answer options = some r) (hjump : r.action = .jump)
    (hlint : ¬ Reports s.lint "dangling_target" ("question:" ++ q.id ++ "/rule:" ++ r.id))
    {target : String} (htarget : r.chosenTarget? (q.scope answer options) = some target) :
    ∃ j, questionIndex? target s.questions = some j := by
  obtain ⟨htable, hmem, -⟩ := Question.firedRule?_eq_some hr
  refine Option.ne_none_iff_exists'.mp fun hnone => hlint ?_
  exact reports_danglingTarget hq htable hmem hjump (mem_targets_of_chosenTarget? htarget) hnone

/-- **Jumps that dangle are reported.** Where a step is unresolved, the rule that fired misses its
targets by value, or it is reported for a target that dangles or for having none. Hence, when the
check reports neither of any rule, a rule that fires and has a target for what was selected jumps to
the first question of this id. -/
theorem dangling_jump_reported (s : Survey) (i : Nat) (answer : Option Answer)
    (options : Options) :
    (∀ id, (resolve s.questions i answer options).reason = .unresolved id →
      ∃ q r, s.questions[i]? = some q ∧ q.firedRule? answer options = some r ∧ r.id = id ∧
        (r.Misses (q.scope answer options) ∨
          Reports s.lint "dangling_target" ("question:" ++ q.id ++ "/rule:" ++ id) ∨
          Reports s.lint "goto_without_target" ("question:" ++ q.id ++ "/rule:" ++ id))) ∧
    (∀ q r, s.questions[i]? = some q → q.firedRule? answer options = some r → r.action = .jump →
      r.Hits (q.scope answer options) ∨ r.IsFixed →
      ¬ HasCode s.lint "dangling_target" → ¬ HasCode s.lint "goto_without_target" →
      ∃ target j, r.Selects (q.scope answer options) target ∧
        FirstWithId s.questions target j ∧
        resolve s.questions i answer options = ⟨.question j, .jumped r.id target⟩) := by
  constructor
  · intro id hreason
    obtain ⟨q, r, hq, hr, hjump, rfl, hnone⟩ := of_reason_unresolved hreason
    refine ⟨q, r, hq, hr, rfl, ?_⟩
    obtain ⟨htable, hmem, -⟩ := Question.firedRule?_eq_some hr
    cases htarget : r.chosenTarget? (q.scope answer options) with
    | none =>
      rcases Rule.misses_or_of_chosenTarget?_eq_none htarget with hmisses | hnil
      · exact .inl hmisses
      · exact .inr (.inr (reports_noTarget hq htable hmem hjump hnil))
    | some target =>
      have hlisted : target ∈ targets r := mem_targets_of_chosenTarget? htarget
      exact .inr (.inl
        (reports_danglingTarget hq htable hmem hjump hlisted (hnone target htarget)))
  · intro q r hq hr hjump hchooses hlint _
    obtain ⟨target, htarget⟩ := Rule.exists_chosenTarget? hchooses
    obtain ⟨j, hj⟩ := exists_index_of_chosenTarget? hq hr hjump (fun h => hlint h.hasCode) htarget
    obtain ⟨htable, hfirst⟩ := Question.firedRule?_eq_some_iff.mp hr
    have hselects := Rule.chosenTarget?_eq_some_iff.mp htarget
    have hindex := questionIndex?_eq_some_iff.mp hj
    exact ⟨target, j, hselects, hindex,
      resolve_eq_of_leads (.jumps hq htable hfirst hjump hselects hindex)⟩

/-- A rule that leads to `target` after a turn to the left. -/
def leave (target : String) : Rule where
  id := "leave"
  kind := .anyOf
  check := { rowIds := ["row"] }
  action := .jump
  targetMap := some (Entries.empty.put "left" target)

/-- A table that asks for a turn. -/
def road (target : String) : Question where
  id := "road"
  kind := .table
  grid := [{ id := "row", cells := [{ id := "turn", kind := .widget .checkbox }] }]
  rules := [leave target]

/-- A road, and where it may lead. -/
def crossing (target : String) : Survey where
  questions := [road target, { id := "tunnel", kind := .text }, { id := "bridge", kind := .text }]

/-- A turn to the left. -/
def turnsLeft : Answer := .table (Entries.empty.put "turn" (.selections ["left"]))

/-- A turn to the left leads to the bridge. To a ford it does not lead, for there is none, and that
is reported. -/
theorem dangling_jump_reported_crossing :
    (∃ target j, FirstWithId (crossing "bridge").questions target j ∧
      resolve (crossing "bridge").questions 0 (some turnsLeft) {} =
        ⟨.question j, .jumped "leave" target⟩) ∧
    (resolve (crossing "ford").questions 0 (some turnsLeft) {}).reason = .unresolved "leave" ∧
    Reports (crossing "ford").lint "dangling_target" "question:road/rule:leave" := by
  have hbridge : ¬ HasCode (crossing "bridge").lint "dangling_target" ∧
      ¬ HasCode (crossing "bridge").lint "goto_without_target" := by
    unfold HasCode
    decide
  have hhits : (leave "bridge").Hits ((road "bridge").scope (some turnsLeft) {}) :=
    ⟨_, rfl, rfl, "left", by decide, by decide⟩
  have hford : (resolve (crossing "ford").questions 0 (some turnsLeft) {}).reason =
      .unresolved "leave" := by decide
  refine ⟨?_, hford, ?_⟩
  · obtain ⟨target, j, -, hj, hstep⟩ := (dangling_jump_reported (crossing "bridge") 0
      (some turnsLeft) {}).2 _ _ rfl rfl rfl (.inl hhits) hbridge.1 hbridge.2
    exact ⟨target, j, hj, hstep⟩
  · obtain ⟨q, r, hq, hr, -, hreason⟩ := (dangling_jump_reported (crossing "ford") 0
      (some turnsLeft) {}).1 "leave" hford
    have hroad : road "ford" = q := Option.some.inj hq
    subst hroad
    have hleave : leave "ford" = r := Option.some.inj hr
    subst hleave
    rcases hreason with ⟨m, hmap, -, hkeys⟩ | hdangling | hnone
    · have hm : Entries.empty.put "left" "ford" = m := Option.some.inj hmap
      subst hm
      exact absurd (by decide) (hkeys "left" (by decide))
    · exact hdangling
    · refine absurd hnone.hasCode ?_
      unfold HasCode
      decide

end Survey

end Questionnaire
