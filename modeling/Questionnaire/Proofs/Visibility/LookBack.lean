import Questionnaire.Proofs.Lint.Report
import Questionnaire.Proofs.Lists
import Questionnaire.Proofs.Visibility.Next

/-!
# Visibility looks back

A survey looks back when every condition that decides over a question is about an earlier one, or
about no question at all. For the guards of questions that is what the check of a survey asks for;
for the guards of groups it has to be asked besides. In a survey that looks back, whether a
question is visible depends on the answers to earlier questions only.
-/

namespace Questionnaire

open Lint

namespace Survey

variable {s : Survey} {r r' : Snapshot} {options : Options}

/-- Two snapshots hold the same answers to the questions below a position. -/
def AgreeBelow (s : Survey) (p : Nat) (r r' : Snapshot) : Prop :=
  ∀ i q, i < p → s.questions[i]? = some q → r.get? q.id = r'.get? q.id

theorem AgreeBelow.refl (p : Nat) (r : Snapshot) : s.AgreeBelow p r r := fun _ _ _ _ => rfl

theorem AgreeBelow.trans {p : Nat} {r'' : Snapshot} (h : s.AgreeBelow p r r')
    (h' : s.AgreeBelow p r' r'') : s.AgreeBelow p r r'' :=
  fun i q hi hq => (h i q hi hq).trans (h' i q hi hq)

theorem AgreeBelow.mono {p p' : Nat} (h : s.AgreeBelow p r r') (hle : p' ≤ p) :
    s.AgreeBelow p' r r' :=
  fun i q hi hq => h i q (Nat.lt_of_lt_of_le hi hle) hq

/-- The conditions of a guard are about questions below a position, or about unknown ones. -/
def LooksBelow (s : Survey) (p : Nat) (g : Guard) : Prop :=
  ∀ c ∈ g.conditions, ∀ i ∈ questionIndex? c.source s.questions, i < p

instance (s : Survey) (p : Nat) (g : Guard) : Decidable (s.LooksBelow p g) :=
  inferInstanceAs (Decidable (∀ c ∈ g.conditions, ∀ i ∈ questionIndex? c.source s.questions, i < p))

/-- The guards of the questions are about earlier questions. -/
def QuestionsLookBack (s : Survey) : Prop :=
  ∀ p q, s.questions[p]? = some q → ∀ g ∈ q.guard, s.LooksBelow p g

/-- The guards of the groups around each question are about earlier questions. -/
def GroupsLookBack (s : Survey) : Prop :=
  ∀ p (h : p < s.questions.length), ∀ group ∈ groupChain s.groups s.questions[p].groupId,
    ∀ g ∈ group.guard, s.LooksBelow p g

instance (s : Survey) : Decidable s.GroupsLookBack :=
  inferInstanceAs (Decidable (∀ p (h : p < s.questions.length),
    ∀ group ∈ groupChain s.groups s.questions[p].groupId, ∀ g ∈ group.guard, s.LooksBelow p g))

theorem GroupsLookBack.of_getElem? (h : s.GroupsLookBack) {p : Nat} {q : Question}
    (hq : s.questions[p]? = some q) :
    ∀ group ∈ groupChain s.groups q.groupId, ∀ g ∈ group.guard, s.LooksBelow p g := by
  obtain ⟨hp, rfl⟩ := List.getElem?_eq_some_iff.mp hq
  exact h p hp

/-- A guard that looks ahead is reported. -/
theorem questionsLookBack_of_lint (hlint : ¬ HasCode s.lint "forward_source_question") :
    s.QuestionsLookBack := by
  intro p q hq g hg c hc i hi
  refine Nat.lt_of_not_le fun hle => hlint ?_
  have hissue : Issue.forwardSource c.source ∈ conditionIssues s (some p) c := by
    rw [conditionIssues, hi]
    exact List.mem_append_left _ (by simp [hle])
  exact ⟨_, mem_lint_iff.mpr (.condition (.question hq hg) hc hissue), rfl⟩

/-! ## What a decision can depend on -/

theorem holds_congr_of_agreeBelow {p : Nat} (hagree : s.AgreeBelow p r r') {c : Condition}
    (hc : ∀ i ∈ questionIndex? c.source s.questions, i < p) :
    c.holds r s.questions options = c.holds r' s.questions options := by
  unfold Condition.holds
  cases hsource : question? c.source s.questions with
  | none => rfl
  | some source =>
    obtain ⟨i, hindex, hi⟩ := exists_index_of_question? hsource
    simp only [hagree i source (hc i hindex) hi]

theorem guard_holds_congr {p : Nat} (hagree : s.AgreeBelow p r r') {g : Guard}
    (hg : s.LooksBelow p g) :
    g.holds r s.questions options = g.holds r' s.questions options := by
  have heach : ∀ c ∈ g.enabled, c.holds r s.questions options = c.holds r' s.questions options :=
    fun c hc => holds_congr_of_agreeBelow hagree (hg c (List.mem_filter.mp hc).1)
  unfold Guard.holds
  rw [all_eq_of_mem (fun _ => Iff.rfl) heach, any_eq_of_mem (fun _ => Iff.rfl) heach]

theorem guardHolds_congr {p : Nat} (hagree : s.AgreeBelow p r r') {g : Option Guard}
    (hg : ∀ guard ∈ g, s.LooksBelow p guard) :
    guardHolds g r s.questions options = guardHolds g r' s.questions options := by
  cases g with
  | none => rfl
  | some guard => exact guard_holds_congr hagree (hg guard rfl)

/-- In a survey that looks back, whether a question shows depends on earlier answers only. -/
theorem shows_congr (hquestions : s.QuestionsLookBack) (hgroups : s.GroupsLookBack) {p : Nat}
    {q : Question} (hq : s.questions[p]? = some q) (hagree : s.AgreeBelow p r r') :
    s.shows r options q = s.shows r' options q := by
  have hown : guardHolds q.guard r s.questions options =
      guardHolds q.guard r' s.questions options :=
    guardHolds_congr hagree (hquestions p q hq)
  have haround : ∀ group ∈ groupChain s.groups q.groupId,
      guardHolds group.guard r s.questions options =
        guardHolds group.guard r' s.questions options :=
    fun group hgroup => guardHolds_congr hagree (hgroups.of_getElem? hq group hgroup)
  unfold shows Question.isVisible
  rw [hown, all_eq_of_mem (fun _ => Iff.rfl) haround]

theorem showsAt_congr (hquestions : s.QuestionsLookBack) (hgroups : s.GroupsLookBack) {p i : Nat}
    (hagree : s.AgreeBelow p r r') (hi : i ≤ p) :
    s.ShowsAt r options i ↔ s.ShowsAt r' options i := by
  unfold ShowsAt
  constructor
  · rintro ⟨q, hq, hshows⟩
    exact ⟨q, hq, shows_congr hquestions hgroups hq (hagree.mono hi) ▸ hshows⟩
  · rintro ⟨q, hq, hshows⟩
    exact ⟨q, hq, (shows_congr hquestions hgroups hq (hagree.mono hi)).symm ▸ hshows⟩

end Survey

end Questionnaire
