import Questionnaire.Proofs.Route.Walk
import Questionnaire.Proofs.Visibility.LookBack

/-!
# Routes look back

Where `advance` leads from a question depends on the answer to that question and on what is
visible up to where it leads. In a survey that looks back, both are settled by the answers below
that place.
-/

namespace Questionnaire.Survey

variable {s : Survey} {r r' : Snapshot} {options : Options}

theorem answerAt?_congr {p i : Nat} (hagree : s.AgreeBelow p r r') (hi : i < p) :
    s.answerAt? r i = s.answerAt? r' i := by
  unfold answerAt?
  cases hq : s.questions[i]? with
  | none => rfl
  | some q => exact hagree i q hi hq

/-- The scan for the next visible question finds the same one when the answers below that one are
the same. -/
theorem nextVisible?_eq_of_agreeBelow (hquestions : s.QuestionsLookBack)
    (hgroups : s.GroupsLookBack) {start d : Nat} (hagree : s.AgreeBelow d r r')
    (h : s.nextVisible? r options start = some d) : s.nextVisible? r' options start = some d :=
  nextVisible?_congr h fun _ _ hj => (showsAt_congr hquestions hgroups hagree hj).symm

/-- **Steps look back**: a step to a question, ahead or back, is the same under all answers that
agree below a position that the step does not pass. -/
theorem successor_eq_of_agreeBelow (hquestions : s.QuestionsLookBack)
    (hgroups : s.GroupsLookBack) {p i d : Nat} (hi : i < p) (hd : d ≤ p)
    (hagree : s.AgreeBelow p r r') (h : s.successor r options i = some d) :
    s.successor r' options i = some d := by
  rw [successor_eq_some_iff, advance_eq_question_iff] at h ⊢
  rw [← answerAt?_congr hagree hi]
  obtain ⟨e, hstep, hnext⟩ := h
  exact ⟨e, hstep, nextVisible?_eq_of_agreeBelow hquestions hgroups (hagree.mono hd) hnext⟩

end Questionnaire.Survey
