import Questionnaire.Proofs.Lint.Report
import Questionnaire.Proofs.Route.Resolve
import Questionnaire.Proofs.Route.Walk

/-!
# Loops are predicted

The check of a survey looks at the rules alone: it compares every target a rule could choose with
the position of its question. A walk meets targets only as answers select them. The main statement
is that a walk can loop only through a rule that the check reports, so that a survey without
`backward_target` is walked strictly forward, whatever the answers.
-/

namespace Questionnaire.Survey

open Lint

variable {s : Survey} {answers : Snapshot} {options : Options}

/-- **The step**: where `advance` does not lead ahead, a rule of the question is reported. -/
theorem reports_of_advance_le {i j : Nat} (h : s.advance answers options i = .question j)
    (hle : j ≤ i) :
    ∃ q, s.questions[i]? = some q ∧ ∃ r ∈ q.rules,
      Reports s.lint "backward_target" ("question:" ++ q.id ++ "/rule:" ++ r.id) := by
  obtain ⟨d, hd, hnext⟩ := advance_eq_question_iff.mp h
  have hdj : d ≤ j := (nextVisible?_eq_some_iff.mp hnext).1
  rcases next_resolve_cases hd with hsucc | ⟨q, r, t, hq, hr, hjump, ht, hindex⟩
  · -- the following question is ahead
    omega
  · obtain ⟨htable, hmem, -⟩ := Question.firedRule?_eq_some hr
    have htarget : t ∈ targets r := mem_targets_of_chosenTarget? ht
    exact ⟨q, hq, r, hmem,
      reports_backwardTarget hq htable hmem hjump htarget hindex (by omega)⟩

/-- Without a reported backward target, `advance` only leads ahead. -/
theorem lt_of_advance (hlint : ¬ HasCode s.lint "backward_target") {i j : Nat}
    (h : s.advance answers options i = .question j) : i < j := by
  refine Nat.lt_of_not_le fun hle => ?_
  obtain ⟨_, _, _, _, hreport⟩ := reports_of_advance_le h hle
  exact hlint hreport.hasCode

/-- **Loops are predicted.** When a walk loops, some question on it has a rule that the check
reports as jumping backward. Hence, when the check reports no such rule, `advance` leads ahead or
to the end from every question, and every walk is strictly increasing and free of loops. -/
theorem loop_predicted (s : Survey) (answers : Snapshot) (options : Options) :
    (∀ k, (s.walk answers options).loopAt = some k →
      ∃ i ∈ (s.walk answers options).visited, ∃ q, s.questions[i]? = some q ∧ ∃ r ∈ q.rules,
        Reports s.lint "backward_target" ("question:" ++ q.id ++ "/rule:" ++ r.id)) ∧
    (¬ HasCode s.lint "backward_target" →
      (∀ i < s.questions.length, s.advance answers options i = .finish ∨
        ∃ j, i < j ∧ s.advance answers options i = .question j) ∧
      (s.walk answers options).visited.Pairwise (· < ·) ∧
      (s.walk answers options).loopAt = none) := by
  constructor
  · intro k hk
    -- if every step of the walk led ahead, it would have no loop
    by_contra hnone
    have hahead : ∀ i ∈ (s.walk answers options).visited, ∀ j,
        s.advance answers options i = .question j → i < j := by
      intro i hi j hij
      refine Nat.lt_of_not_le fun hle => hnone ?_
      obtain ⟨q, hq, r, hr, hreport⟩ := reports_of_advance_le hij hle
      exact ⟨i, hi, q, hq, r, hr, hreport⟩
    rw [(increasing_walk hahead).2] at hk
    cases hk
  · intro hlint
    refine ⟨fun i _ => ?_, increasing_walk fun i _ j hij => lt_of_advance hlint hij⟩
    cases hadvance : s.advance answers options i with
    | finish => exact .inl rfl
    | question j => exact .inr ⟨j, lt_of_advance hlint hadvance, rfl⟩

/-- A table after a text question; an answer of "yes" leads to the question named `target`. -/
def yesLeadsTo (target : String) : Survey where
  questions :=
    [{ id := "name", kind := .text },
      { id := "more", kind := .table
        grid := [{ id := "row", cells := [{ id := "cell", kind := .widget .checkbox }] }]
        rules := [{ id := "yes", kind := .anyOf, check := { rowIds := ["row"] }, action := .jump,
                    targetMap := some (Entries.empty.put "yes" target) }] },
      { id := "end", kind := .notice }]

/-- The answer "yes" in the table of `yesLeadsTo`. -/
def saysYes : Snapshot :=
  Snapshot.empty.answer "more" (.table (Entries.empty.put "cell" (.selections ["yes"])))

/-- Leading back to the first question loops, and is reported; leading on to the last one is not
reported, and the walk goes straight through. -/
theorem loop_predicted_yesLeadsTo :
    (((yesLeadsTo "name").walk saysYes {}).loopAt = some 0 ∧
      ∃ i ∈ ((yesLeadsTo "name").walk saysYes {}).visited,
        ∃ q, (yesLeadsTo "name").questions[i]? = some q ∧ ∃ r ∈ q.rules,
          Reports (yesLeadsTo "name").lint "backward_target"
            ("question:" ++ q.id ++ "/rule:" ++ r.id)) ∧
    (¬ HasCode (yesLeadsTo "end").lint "backward_target" ∧
      ((yesLeadsTo "end").walk saysYes {}).visited.Pairwise (· < ·) ∧
      ((yesLeadsTo "end").walk saysYes {}).loopAt = none) := by
  have hloop : ((yesLeadsTo "name").walk saysYes {}).loopAt = some 0 := by decide
  have hlint : ¬ HasCode (yesLeadsTo "end").lint "backward_target" := by
    unfold HasCode
    decide
  exact ⟨⟨hloop, (loop_predicted (yesLeadsTo "name") saysYes {}).1 0 hloop⟩,
    hlint, ((loop_predicted (yesLeadsTo "end") saysYes {}).2 hlint).2⟩

end Questionnaire.Survey
