import Questionnaire.Proofs.Table.Monotone
import Questionnaire.Visibility

/-!
# Guards that negate nothing

A guard is positive when it does not ask that its conditions fail, and none of its enabled
conditions has a check that asks for no hit. Whatever keeps the conditions of positive guards
keeps the questions they decide over: a question that is visible stays visible
(`isVisible_mono`), be it that the answers change or the options.
-/

namespace Questionnaire

/-- A test without a check for the absence of hits. -/
def Test.IsPositive : Test → Prop
  | .value _ => True
  | .cells primary extra => (∀ c ∈ primary, c.IsPositive) ∧ ∀ c ∈ extra, c.IsPositive

instance : (t : Test) → Decidable t.IsPositive
  | .value _ => .isTrue trivial
  | .cells primary extra =>
    inferInstanceAs (Decidable ((∀ c ∈ primary, c.IsPositive) ∧ ∀ c ∈ extra, c.IsPositive))

/-- A guard that does not ask for the failure of its conditions, with positive enabled ones. -/
def Guard.IsPositive (g : Guard) : Prop := g.logic ≠ .not ∧ ∀ c ∈ g.enabled, c.test.IsPositive

instance (g : Guard) : Decidable g.IsPositive :=
  inferInstanceAs (Decidable (g.logic ≠ .not ∧ ∀ c ∈ g.enabled, c.test.IsPositive))

/-- The guard of a question and those of the groups around it are positive. -/
def Question.NegatesNothing (q : Question) (groups : List Group) : Prop :=
  (∀ g ∈ q.guard, g.IsPositive) ∧
    ∀ group ∈ groupChain groups q.groupId, ∀ g ∈ group.guard, g.IsPositive

instance (q : Question) (groups : List Group) : Decidable (q.NegatesNothing groups) :=
  inferInstanceAs (Decidable ((∀ g ∈ q.guard, g.IsPositive) ∧
    ∀ group ∈ groupChain groups q.groupId, ∀ g ∈ group.guard, g.IsPositive))

variable {r r' : Snapshot} {options options' : Options} {questions : List Question}

/-- A guard that does not negate its conditions goes on holding while they do. -/
theorem Guard.holds_mono {g : Guard} (hlogic : g.logic ≠ .not)
    (hconditions : ∀ c ∈ g.enabled,
      c.holds r questions options = true → c.holds r' questions options' = true)
    (h : g.holds r questions options = true) : g.holds r' questions options' = true := by
  unfold holds at h ⊢
  rw [Bool.or_eq_true] at h ⊢
  rcases h with hempty | h
  · exact .inl hempty
  · right
    cases hcase : g.logic with
    | and =>
      rw [hcase] at h
      apply List.all_eq_true.mpr
      intro c hc
      exact hconditions c hc (List.all_eq_true.mp h c hc)
    | or =>
      rw [hcase] at h
      obtain ⟨c, hc, hholds⟩ := List.any_eq_true.mp h
      exact List.any_eq_true.mpr ⟨c, hc, hconditions c hc hholds⟩
    | not => exact absurd hcase hlogic

/-- **Visibility is monotone** where nothing is negated: what keeps every condition with a positive
test keeps a visible question visible. -/
theorem isVisible_mono {q : Question} {groups : List Group} (hq : q.NegatesNothing groups)
    (hconditions : ∀ c : Condition, c.test.IsPositive →
      c.holds r questions options = true → c.holds r' questions options' = true)
    (h : q.isVisible r questions groups options = true) :
    q.isVisible r' questions groups options' = true := by
  obtain ⟨hown, haround⟩ := hq
  have hguard : ∀ guard : Option Guard, (∀ g ∈ guard, g.IsPositive) →
      guardHolds guard r questions options = true →
        guardHolds guard r' questions options' = true := by
    intro guard hpositive hholds
    cases guard with
    | none => rfl
    | some g =>
      obtain ⟨hlogic, htests⟩ := hpositive g rfl
      exact g.holds_mono hlogic (fun c hc => hconditions c (htests c hc)) hholds
  unfold Question.isVisible at h ⊢
  rw [Bool.and_eq_true, List.all_eq_true] at h ⊢
  constructor
  · exact hguard q.guard hown h.1
  · intro group hgroup
    exact hguard group.guard (haround group hgroup) (h.2 group hgroup)

end Questionnaire
