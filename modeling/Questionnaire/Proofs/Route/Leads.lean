import Questionnaire.Proofs.Route.Resolve
import Questionnaire.Proofs.Table.Selection

/-!
# Where a step leads

`resolve` looks up a question, a rule, a target and the position of the target, and falls back to
survey order in four places. `Leads` says what the step has to be without these lookups: one rule
for each outcome, with the first rule that fires, the target under the first selected value that
has one, and the first question of the target's id described by what precedes them. The main
statement is that a step is the result of `resolve` exactly if `Leads` allows it, so that it always
allows one step and no other.
-/

namespace Questionnaire

open Table (Scope Place)

/-- The first rule of a list that fires. -/
def FirstToFire (rules : List Rule) (scope : Scope) (r : Rule) : Prop :=
  ∃ k : Nat, rules[k]? = some r ∧ r.fires scope = true ∧
    ∀ j < k, ∀ r' : Rule, rules[j]? = some r' → r'.fires scope = false

/-- The position of the first question with this id. -/
def FirstWithId (questions : List Question) (id : String) (i : Nat) : Prop :=
  (∃ q : Question, questions[i]? = some q ∧ q.id = id) ∧
    ∀ j < i, ∀ q : Question, questions[j]? = some q → q.id ≠ id

/-- The target that a rule selects: with targets by value, the one of the selected value at the
first place of which the value has a target; otherwise the fixed one. The values are selected in
the rows of the additional check, or of the primary one when there is no other. -/
inductive Rule.Selects (r : Rule) (scope : Scope) : String → Prop
  | byValue {targets : Entries String} {place : Place} {value target : String} :
      r.targetMap = some targets → targets.isEmpty = false →
      scope.Offers (r.extra.getD r.check) place value → targets.get? value = some target →
      (∀ earlier other, scope.Offers (r.extra.getD r.check) earlier other → earlier.Before place →
        targets.get? other = none) →
      Selects r scope target
  | fixed {target : String} :
      (∀ targets, r.targetMap = some targets → targets.isEmpty = true) → r.target = some target →
      Selects r scope target

/-- Where survey order leads from `current`: to the next position, or to the end when there is no
question there. -/
inductive InSurveyOrder (questions : List Question) (current : Nat) : Destination → Prop
  | next : current + 1 < questions.length →
      InSurveyOrder questions current (.question (current + 1))
  | finish : questions.length ≤ current + 1 → InSurveyOrder questions current .finish

/-- What the step from the question at `current` has to be, given an answer to it. -/
inductive Leads (questions : List Question) (current : Nat) (answer : Option Answer)
    (options : Options) : Step → Prop
  | outside {next : Destination} : questions.length ≤ current →
      InSurveyOrder questions current next →
      Leads questions current answer options ⟨next, .inOrder⟩
  | noTable {q : Question} {next : Destination} : questions[current]? = some q →
      q.isTable = false → InSurveyOrder questions current next →
      Leads questions current answer options ⟨next, .inOrder⟩
  | noneFires {q : Question} {next : Destination} : questions[current]? = some q →
      (∀ r ∈ q.rules, r.fires (q.scope answer options) = false) →
      InSurveyOrder questions current next →
      Leads questions current answer options ⟨next, .inOrder⟩
  | ends {q : Question} {r : Rule} : questions[current]? = some q → q.isTable = true →
      FirstToFire q.rules (q.scope answer options) r → r.action = .finish →
      Leads questions current answer options ⟨.finish, .ended r.id⟩
  | jumps {q : Question} {r : Rule} {target : String} {i : Nat} :
      questions[current]? = some q → q.isTable = true →
      FirstToFire q.rules (q.scope answer options) r → r.action = .jump →
      r.Selects (q.scope answer options) target → FirstWithId questions target i →
      Leads questions current answer options ⟨.question i, .jumped r.id target⟩
  | unresolved {q : Question} {r : Rule} {next : Destination} :
      questions[current]? = some q → q.isTable = true →
      FirstToFire q.rules (q.scope answer options) r → r.action = .jump →
      (∀ target, r.Selects (q.scope answer options) target →
        ∀ q' ∈ questions, q'.id ≠ target) →
      InSurveyOrder questions current next →
      Leads questions current answer options ⟨next, .unresolved r.id⟩

variable {questions : List Question} {current : Nat} {answer : Option Answer} {options : Options}

/-! ## The lookups -/

theorem following_eq_iff {next : Destination} :
    following questions current = next ↔ InSurveyOrder questions current next := by
  unfold following
  constructor
  · rintro rfl
    split
    · rename_i hlt
      exact .next hlt
    · rename_i hge
      exact .finish (Nat.le_of_not_lt hge)
  · intro h
    cases h with
    | next hlt => exact if_pos hlt
    | finish hge => exact if_neg (Nat.not_lt.mpr hge)

theorem inSurveyOrder_following : InSurveyOrder questions current (following questions current) :=
  following_eq_iff.mp rfl

theorem InSurveyOrder.lt_length {next : Destination} (h : InSurveyOrder questions current next)
    {i : Nat} (hi : next = .question i) : i < questions.length := by
  cases h with
  | next hlt =>
    injection hi with hi
    exact hi ▸ hlt
  | finish => cases hi

theorem find?_fires_eq_some_iff {rules : List Rule} {scope : Scope} {r : Rule} :
    rules.find? (fun r => r.fires scope) = some r ↔ FirstToFire rules scope r := by
  unfold FirstToFire
  rw [List.find?_eq_some_iff_getElem]
  constructor
  · rintro ⟨hfires, k, hk, rfl, hbefore⟩
    refine ⟨k, List.getElem?_eq_getElem hk, hfires, ?_⟩
    intro j hj r' hr'
    obtain ⟨_, rfl⟩ := List.getElem?_eq_some_iff.mp hr'
    simpa using hbefore j hj
  · rintro ⟨k, hk, hfires, hbefore⟩
    obtain ⟨hlt, rfl⟩ := List.getElem?_eq_some_iff.mp hk
    refine ⟨hfires, k, hlt, rfl, ?_⟩
    intro j hj
    simpa using hbefore j hj _ (List.getElem?_eq_getElem (by omega))

theorem Question.firedRule?_eq_some_iff {q : Question} {r : Rule} :
    q.firedRule? answer options = some r ↔
      q.isTable = true ∧ FirstToFire q.rules (q.scope answer options) r := by
  unfold firedRule?
  cases q.isTable with
  | false => simp
  | true => simpa using find?_fires_eq_some_iff

theorem questionIndex?_eq_some_iff {id : String} {i : Nat} :
    questionIndex? id questions = some i ↔ FirstWithId questions id i := by
  unfold questionIndex? FirstWithId
  rw [List.findIdx?_eq_some_iff_getElem]
  constructor
  · rintro ⟨hi, hid, hbefore⟩
    refine ⟨⟨_, List.getElem?_eq_getElem hi, by simpa using hid⟩, ?_⟩
    intro j hj q hq
    obtain ⟨_, rfl⟩ := List.getElem?_eq_some_iff.mp hq
    simpa using hbefore j hj
  · rintro ⟨⟨q, hq, hid⟩, hbefore⟩
    obtain ⟨hi, rfl⟩ := List.getElem?_eq_some_iff.mp hq
    refine ⟨hi, by simpa using hid, ?_⟩
    intro j hj
    simpa using hbefore j hj _ (List.getElem?_eq_getElem (by omega))

theorem questionIndex?_eq_none_iff {id : String} :
    questionIndex? id questions = none ↔ ∀ q ∈ questions, q.id ≠ id := by
  unfold questionIndex?
  rw [List.findIdx?_eq_none_iff]
  simp

/-- The target that is chosen is the one that the rule selects. -/
theorem Rule.chosenTarget?_eq_some_iff {r : Rule} {scope : Scope} {target : String} :
    r.chosenTarget? scope = some target ↔ r.Selects scope target := by
  have hlists := Scope.lists_selectedValues scope r.selector
  unfold chosenTarget?
  cases hbranches : r.branches? with
  | none =>
    have hempty := branches?_eq_none_iff.mp hbranches
    constructor
    · exact .fixed hempty
    · intro h
      cases h with
      | byValue hmap hnot =>
        rw [hempty _ hmap] at hnot
        cases hnot
      | fixed _ htarget => exact htarget
  | some targets =>
    obtain ⟨hmap, hempty⟩ := branches?_eq_some_iff.mp hbranches
    -- a search through the selected values is one by their places
    simp only [hlists.findSome?_eq_some_iff fun _ _ => Place.Before.asymm]
    constructor
    · rintro ⟨place, value, hvalue, htarget, hearlier⟩
      exact .byValue hmap hempty hvalue htarget hearlier
    · intro h
      cases h with
      | byValue hsome _ hvalue htarget hearlier =>
        rw [hmap, Option.some.injEq] at hsome
        subst hsome
        exact ⟨_, _, hvalue, htarget, hearlier⟩
      | fixed hnone _ =>
        rw [hnone targets hmap] at hempty
        cases hempty

/-! ## The step -/

/-- The step of the first rule that fires. -/
theorem resolve_of_firstToFire {q : Question} {r : Rule} (hq : questions[current]? = some q)
    (htable : q.isTable = true) (hr : FirstToFire q.rules (q.scope answer options) r) :
    resolve questions current answer options =
      r.step (q.scope answer options) questions current := by
  have hfired : q.firedRule? answer options = some r :=
    Question.firedRule?_eq_some_iff.mpr ⟨htable, hr⟩
  simp only [resolve, hq, hfired]

/-- Where no rule fires, the step is in survey order. -/
theorem resolve_of_firedRule?_eq_none {q : Question} (hq : questions[current]? = some q)
    (hr : q.firedRule? answer options = none) :
    resolve questions current answer options = ⟨following questions current, .inOrder⟩ := by
  simp only [resolve, hq, hr]

theorem leads_resolve : Leads questions current answer options
    (resolve questions current answer options) := by
  cases hq : questions[current]? with
  | none =>
    simp only [resolve, hq]
    exact .outside (List.getElem?_eq_none_iff.mp hq) inSurveyOrder_following
  | some q =>
    cases hr : q.firedRule? answer options with
    | none =>
      rw [resolve_of_firedRule?_eq_none hq hr]
      unfold Question.firedRule? at hr
      split at hr
      · refine .noneFires hq ?_ inSurveyOrder_following
        intro r hmem
        simpa using List.find?_eq_none.mp hr r hmem
      · rename_i htable
        exact .noTable hq (by simpa using htable) inSurveyOrder_following
    | some r =>
      obtain ⟨htable, hfirst⟩ := Question.firedRule?_eq_some_iff.mp hr
      rw [resolve_of_firstToFire hq htable hfirst]
      rcases r.step_cases (q.scope answer options) questions current
        with ⟨hfinish, hstep⟩ | ⟨hjump, target, i, htarget, hi, hstep⟩ | ⟨hjump, hnone, hstep⟩
      · rw [hstep]
        exact .ends hq htable hfirst hfinish
      · rw [hstep]
        exact .jumps hq htable hfirst hjump (Rule.chosenTarget?_eq_some_iff.mp htarget)
          (questionIndex?_eq_some_iff.mp hi)
      · rw [hstep]
        refine .unresolved hq htable hfirst hjump ?_ inSurveyOrder_following
        intro target htarget
        exact questionIndex?_eq_none_iff.mp
          (hnone target (Rule.chosenTarget?_eq_some_iff.mpr htarget))

/-- A step does not lead out of the survey. -/
theorem Leads.lt_length {step : Step} (h : Leads questions current answer options step) {i : Nat}
    (hi : step.next = .question i) : i < questions.length := by
  cases h with
  | outside _ hnext => exact hnext.lt_length hi
  | noTable _ _ hnext => exact hnext.lt_length hi
  | noneFires _ _ hnext => exact hnext.lt_length hi
  | ends => cases hi
  | jumps _ _ _ _ _ hindex =>
    obtain ⟨⟨q, hq, -⟩, -⟩ := hindex
    injection hi with hi
    exact hi ▸ (List.getElem?_eq_some_iff.mp hq).1
  | unresolved _ _ _ _ _ hnext => exact hnext.lt_length hi

theorem resolve_eq_of_leads {step : Step} (h : Leads questions current answer options step) :
    resolve questions current answer options = step := by
  cases h with
  | outside hcurrent hnext =>
    simp only [resolve, List.getElem?_eq_none hcurrent, following_eq_iff.mpr hnext]
  | @noTable q _ hq htable hnext =>
    rw [← following_eq_iff.mpr hnext]
    apply resolve_of_firedRule?_eq_none hq
    simp [Question.firedRule?, htable]
  | @noneFires q _ hq hnone hnext =>
    rw [← following_eq_iff.mpr hnext]
    apply resolve_of_firedRule?_eq_none hq
    unfold Question.firedRule?
    split
    · rw [List.find?_eq_none]
      intro r hr
      simp [hnone r hr]
    · rfl
  | ends hq htable hr haction =>
    rw [resolve_of_firstToFire hq htable hr]
    simp only [Rule.step, haction]
  | jumps hq htable hr haction htarget hi =>
    rw [resolve_of_firstToFire hq htable hr]
    simp only [Rule.step, haction, Rule.chosenTarget?_eq_some_iff.mpr htarget,
      questionIndex?_eq_some_iff.mpr hi]
  | @unresolved q r _ hq htable hr haction hnone hnext =>
    rw [← following_eq_iff.mpr hnext, resolve_of_firstToFire hq htable hr]
    cases htarget : r.chosenTarget? (q.scope answer options) with
    | none => simp only [Rule.step, haction, htarget]
    | some target =>
      have hindex := hnone target (Rule.chosenTarget?_eq_some_iff.mp htarget)
      simp only [Rule.step, haction, htarget, questionIndex?_eq_none_iff.mpr hindex]

/-- **A step leads where it has to.** For all questions, any position, answer and options, the
result of `resolve` is the one step that `Leads` allows. -/
theorem resolve_eq_iff_leads (questions : List Question) (current : Nat) (answer : Option Answer)
    (options : Options) (step : Step) :
    resolve questions current answer options = step ↔
      Leads questions current answer options step := by
  constructor
  · rintro rfl
    exact leads_resolve
  · exact resolve_eq_of_leads

/-- Plans for a day, which depend on the sky: in the sun and in the snow one goes out, and rain is
for the museum. -/
def dayPlans : List Question :=
  [{ id := "weather", kind := .table
     grid := [{ id := "day", cells :=
       [{ id := "sky", kind := .widget .checkbox
          checkboxChoices := [{ id := "sun", value := some "good" }, { id := "rain" }] }] }]
     rules := [{ id := "stay", kind := .noneOf, check := { rowIds := ["day"] }, action := .finish },
       { id := "go", kind := .anyOf, check := { rowIds := ["day"] }, action := .jump
         targetMap := some
           (((Entries.empty.put "rain" "museum").put "good" "beach").put "snow" "slope") }] },
    { id := "museum", kind := .text }, { id := "beach", kind := .text }]

/-- A sky of these kinds. -/
def sky (kinds : List String) : Answer := .table (Entries.empty.put "sky" (.selections kinds))

/-- The sun stands for good weather, of which the target comes before the one of the rain. There is
no slope, so that snow leads on in survey order, as does the question after the table. Nothing at
all ends the day, and it has ended after the last plan and beyond. -/
theorem resolve_eq_iff_leads_dayPlans :
    Leads dayPlans 0 (some (sky ["sun", "rain"])) {} ⟨.question 2, .jumped "go" "beach"⟩ ∧
    Leads dayPlans 0 (some (sky ["snow"])) {} ⟨.question 1, .unresolved "go"⟩ ∧
    Leads dayPlans 0 none {} ⟨.finish, .ended "stay"⟩ ∧
    Leads dayPlans 1 none {} ⟨.question 2, .inOrder⟩ ∧
    Leads dayPlans 2 none {} ⟨.finish, .inOrder⟩ ∧ Leads dayPlans 7 none {} ⟨.finish, .inOrder⟩ ∧
    ¬ Leads dayPlans 0 (some (sky ["sun", "rain"])) {} ⟨.question 1, .jumped "go" "museum"⟩ := by
  refine ⟨?_, ?_, ?_, ?_, ?_, ?_, ?_⟩
  all_goals
    rw [← resolve_eq_iff_leads]
    decide

end Questionnaire
