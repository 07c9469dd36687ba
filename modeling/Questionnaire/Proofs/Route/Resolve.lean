import Questionnaire.Route

/-!
# What a step can be

`resolve` goes through three lookups: the question, the rule that fires, and the target of the
rule. The lemmas here say once how each of them turns out and what the step then is, so that
nothing else has to unfold `resolve`.
-/

namespace Questionnaire

variable {questions : List Question} {current : Nat} {answer : Option Answer} {options : Options}

/-- In survey order the next position is the one after `current`. -/
theorem eq_succ_of_following {i : Nat} (h : following questions current = .question i) :
    i = current + 1 := by
  unfold following at h
  split at h
  · injection h with h
    exact h.symm
  · cases h

/-- Only a rule of a table question fires, and it fires in the grid with the answer. -/
theorem Question.firedRule?_eq_some {q : Question} {r : Rule}
    (h : q.firedRule? answer options = some r) :
    q.isTable = true ∧ r ∈ q.rules ∧ r.fires (q.scope answer options) = true := by
  unfold firedRule? at h
  split at h
  · rename_i htable
    exact ⟨htable, List.mem_of_find?_eq_some h, by simpa using List.find?_some h⟩
  · cases h

/-- The step of a rule: it ends the survey, jumps to a target that resolves, or goes on in order
because there is no such target. -/
theorem Rule.step_cases (r : Rule) (scope : Table.Scope) (questions : List Question)
    (current : Nat) :
    (r.action = .finish ∧ r.step scope questions current = ⟨.finish, .ended r.id⟩) ∨
    (r.action = .jump ∧ ∃ t i, r.chosenTarget? scope = some t ∧
      questionIndex? t questions = some i ∧
      r.step scope questions current = ⟨.question i, .jumped r.id t⟩) ∨
    (r.action = .jump ∧ (∀ t, r.chosenTarget? scope = some t → questionIndex? t questions = none) ∧
      r.step scope questions current = ⟨following questions current, .unresolved r.id⟩) := by
  unfold Rule.step
  cases haction : r.action with
  | finish => exact .inl ⟨rfl, rfl⟩
  | jump =>
    refine .inr ?_
    cases htarget : r.chosenTarget? scope with
    | none => exact .inr ⟨rfl, by simp, rfl⟩
    | some t =>
      cases hindex : questionIndex? t questions with
      | none => exact .inr ⟨rfl, by simp [hindex], by simp [hindex]⟩
      | some i => exact .inl ⟨rfl, t, i, rfl, hindex, by simp [hindex]⟩

/-- A step is in order, or it is the step of the rule that fired. -/
theorem resolve_cases (questions : List Question) (current : Nat) (answer : Option Answer)
    (options : Options) :
    resolve questions current answer options = ⟨following questions current, .inOrder⟩ ∨
    ∃ q r, questions[current]? = some q ∧ q.firedRule? answer options = some r ∧
      resolve questions current answer options =
        r.step (q.scope answer options) questions current := by
  unfold resolve
  cases hq : questions[current]? with
  | none => exact .inl rfl
  | some q =>
    cases hr : q.firedRule? answer options with
    | none => exact .inl (by simp [hr])
    | some r => exact .inr ⟨q, r, rfl, hr, by simp [hr]⟩

/-- A step to a question goes to the following one, or it is the jump of a rule that fired. -/
theorem next_resolve_cases {i : Nat}
    (h : (resolve questions current answer options).next = .question i) :
    i = current + 1 ∨
    ∃ q r t, questions[current]? = some q ∧ q.firedRule? answer options = some r ∧
      r.action = .jump ∧ r.chosenTarget? (q.scope answer options) = some t ∧
      questionIndex? t questions = some i := by
  rcases resolve_cases questions current answer options with horder | ⟨q, r, hq, hr, hstep⟩
  · rw [horder] at h
    exact .inl (eq_succ_of_following h)
  · rw [hstep] at h
    rcases r.step_cases (q.scope answer options) questions current
      with ⟨-, hend⟩ | ⟨hjump, t, j, ht, hj, hgoto⟩ | ⟨-, -, horder⟩
    · rw [hend] at h
      cases h
    · rw [hgoto] at h
      injection h with h
      exact .inr ⟨q, r, t, hq, hr, hjump, ht, h ▸ hj⟩
    · rw [horder] at h
      exact .inl (eq_succ_of_following h)

/-- A step is unresolved because a rule that fired chooses no target, or one that no question has as
its id. -/
theorem of_reason_unresolved {id : String}
    (h : (resolve questions current answer options).reason = .unresolved id) :
    ∃ q r, questions[current]? = some q ∧ q.firedRule? answer options = some r ∧
      r.action = .jump ∧ r.id = id ∧
      ∀ t, r.chosenTarget? (q.scope answer options) = some t →
        questionIndex? t questions = none := by
  rcases resolve_cases questions current answer options with horder | ⟨q, r, hq, hr, hstep⟩
  · rw [horder] at h
    cases h
  · rw [hstep] at h
    rcases r.step_cases (q.scope answer options) questions current
      with ⟨-, hend⟩ | ⟨-, t, j, -, -, hgoto⟩ | ⟨hjump, hnone, horder⟩
    · rw [hend] at h
      cases h
    · rw [hgoto] at h
      cases h
    · rw [horder] at h
      injection h with hid
      exact ⟨q, r, hq, hr, hjump, hid, hnone⟩

end Questionnaire
