import Questionnaire.Proofs.Condition.Holds
import Questionnaire.Proofs.Lists

/-!
# How guards combine conditions

Conditions that are not enabled play no part in a guard, and a guard that is left without any holds
whatever its logic. This exception is made after the others are left out, and for all three logics.
It agrees with "all of none hold" and with "none of none holds" but not with "some of none holds", so
that only statements about `or` need an enabled condition (`holds_or_iff`). The main statement puts
together which laws the three logics obey.
-/

namespace Questionnaire

/-- Some of the conditions count. -/
def AnyEnabled (conditions : List Condition) : Prop := ∃ c ∈ conditions, c.isEnabled = true

instance (conditions : List Condition) : Decidable (AnyEnabled conditions) :=
  inferInstanceAs (Decidable (∃ c ∈ conditions, c.isEnabled = true))

variable {answers : Snapshot} {questions : List Question} {options : Options}

/-- A condition holds only if it counts. -/
theorem Condition.isEnabled_of_holds {c : Condition} (h : c.holds answers questions options = true) :
    c.isEnabled = true :=
  (holds_iff.mp h).1

namespace Guard

variable {l l' : List Condition}

theorem mem_enabled_iff {g : Guard} {c : Condition} :
    c ∈ g.enabled ↔ c ∈ g.conditions ∧ c.isEnabled = true :=
  List.mem_filter

theorem isEmpty_enabled_iff {g : Guard} :
    g.enabled.isEmpty = true ↔ ¬ AnyEnabled g.conditions := by
  unfold enabled AnyEnabled
  rw [List.isEmpty_iff, List.filter_eq_nil_iff]
  push Not
  rfl

theorem holds_of_not_anyEnabled {g : Guard} (h : ¬ AnyEnabled g.conditions) :
    g.holds answers questions options = true := by
  unfold holds
  rw [isEmpty_enabled_iff.mpr h, Bool.true_or]

theorem anyEnabled_append_iff : AnyEnabled (l ++ l') ↔ AnyEnabled l ∨ AnyEnabled l' := by
  unfold AnyEnabled
  simp only [List.mem_append, or_and_right, exists_or]

/-! ## The three logics -/

theorem holds_and_iff : holds ⟨l, .and⟩ answers questions options = true ↔
    ∀ c ∈ l, c.isEnabled = true → c.holds answers questions options = true := by
  unfold holds
  rw [Bool.or_eq_true, isEmpty_enabled_iff, List.all_eq_true]
  simp only [mem_enabled_iff, and_imp]
  constructor
  · rintro (hnone | hall)
    · exact fun c hc henabled => absurd ⟨c, hc, henabled⟩ hnone
    · exact hall
  · exact .inr

/-- Only here does it matter whether there is a condition that counts. -/
theorem holds_or_iff : holds ⟨l, .or⟩ answers questions options = true ↔
    (AnyEnabled l → ∃ c ∈ l, c.holds answers questions options = true) := by
  unfold holds
  rw [Bool.or_eq_true, isEmpty_enabled_iff, List.any_eq_true, ← imp_iff_not_or]
  refine imp_congr_right fun _ => exists_congr fun c => ?_
  rw [mem_enabled_iff, and_assoc, and_congr_right_iff]
  exact fun _ => ⟨And.right, fun hholds => ⟨c.isEnabled_of_holds hholds, hholds⟩⟩

theorem holds_not_iff : holds ⟨l, .not⟩ answers questions options = true ↔
    ∀ c ∈ l, c.holds answers questions options = false := by
  unfold holds
  rw [Bool.or_eq_true, isEmpty_enabled_iff, Bool.not_eq_true', List.any_eq_false]
  constructor
  · intro h c hc
    rw [Bool.eq_false_iff]
    intro hholds
    have henabled := c.isEnabled_of_holds hholds
    rcases h with hnone | hall
    · exact hnone ⟨c, hc, henabled⟩
    · exact hall c (mem_enabled_iff.mpr ⟨hc, henabled⟩) hholds
  · intro h
    right
    intro c hc
    rw [h c (mem_enabled_iff.mp hc).1]
    exact Bool.false_ne_true

theorem holds_not_eq (h : AnyEnabled l) : holds ⟨l, .not⟩ answers questions options =
    !holds ⟨l, .or⟩ answers questions options := by
  rw [Bool.eq_iff_iff, Bool.not_eq_true', ← Bool.not_eq_true, holds_not_iff, holds_or_iff]
  simp [h]

theorem holds_or_of_and (h : holds ⟨l, .and⟩ answers questions options = true) :
    holds ⟨l, .or⟩ answers questions options = true := by
  rw [holds_or_iff]
  rintro ⟨c, hc, henabled⟩
  exact ⟨c, hc, holds_and_iff.mp h c hc henabled⟩

/-! ## Lists of conditions -/

/-- Guards of one logic with the same enabled conditions are decided alike. -/
theorem holds_congr {g g' : Guard} (hlogic : g'.logic = g.logic)
    (henabled : ∀ c, c ∈ g'.enabled ↔ c ∈ g.enabled) :
    g'.holds answers questions options = g.holds answers questions options := by
  have hempty : g'.enabled.isEmpty = g.enabled.isEmpty := by
    rw [Bool.eq_iff_iff, List.isEmpty_iff, List.isEmpty_iff, List.eq_nil_iff_forall_not_mem,
      List.eq_nil_iff_forall_not_mem]
    exact forall_congr' fun c => not_congr (henabled c)
  have hall := all_eq_of_mem henabled fun c _ => Eq.refl (c.holds answers questions options)
  have hany := any_eq_of_mem henabled fun c _ => Eq.refl (c.holds answers questions options)
  unfold holds
  rw [hempty, hlogic, hall, hany]

theorem holds_and_append : holds ⟨l ++ l', .and⟩ answers questions options =
    (holds ⟨l, .and⟩ answers questions options && holds ⟨l', .and⟩ answers questions options) := by
  rw [Bool.eq_iff_iff, Bool.and_eq_true, holds_and_iff, holds_and_iff, holds_and_iff]
  exact List.forall_mem_append

theorem holds_or_append (h : AnyEnabled l) (h' : AnyEnabled l') :
    holds ⟨l ++ l', .or⟩ answers questions options =
      (holds ⟨l, .or⟩ answers questions options || holds ⟨l', .or⟩ answers questions options) := by
  rw [Bool.eq_iff_iff, Bool.or_eq_true, holds_or_iff, holds_or_iff, holds_or_iff]
  simp only [anyEnabled_append_iff, h, h', or_self, true_imp_iff, List.mem_append, or_and_right,
    exists_or]

/-- Conditions that do not count can be added in front of others or after them. -/
theorem mem_enabled_append_of_not_anyEnabled (h : ¬ AnyEnabled l) (l' : List Condition)
    (logic : Logic) (c : Condition) :
    (c ∈ (Guard.mk (l ++ l') logic).enabled ↔ c ∈ (Guard.mk l' logic).enabled) ∧
      (c ∈ (Guard.mk (l' ++ l) logic).enabled ↔ c ∈ (Guard.mk l' logic).enabled) := by
  have hnone : ¬ (c ∈ l ∧ c.isEnabled = true) := fun hc => h ⟨c, hc⟩
  simp only [mem_enabled_iff, List.mem_append, or_and_right, hnone, false_or, or_false, and_self]

end Guard

/-- **The logic of guards.** Without an enabled condition a guard holds, whatever its logic. With
one, `and` asks that all enabled conditions hold and `or` that some do, `not` is the opposite of
`or`, and `and` implies `or`. The enabled conditions decide alone: neither others nor their order
nor repetitions matter. Two lists in a row hold under `and` if both do, and under `or` if one of them
does, provided that both have an enabled condition; a list that has none makes no difference. -/
theorem guards_combine_conditions (answers : Snapshot) (questions : List Question)
    (options : Options) :
    (∀ g : Guard, ¬ AnyEnabled g.conditions → g.holds answers questions options = true) ∧
    (∀ l : List Condition, AnyEnabled l →
      (Guard.holds ⟨l, .and⟩ answers questions options = true ↔
        ∀ c ∈ l, c.isEnabled = true → c.holds answers questions options = true) ∧
      (Guard.holds ⟨l, .or⟩ answers questions options = true ↔
        ∃ c ∈ l, c.isEnabled = true ∧ c.holds answers questions options = true) ∧
      Guard.holds ⟨l, .not⟩ answers questions options =
        !Guard.holds ⟨l, .or⟩ answers questions options ∧
      (Guard.holds ⟨l, .and⟩ answers questions options = true →
        Guard.holds ⟨l, .or⟩ answers questions options = true)) ∧
    (∀ l l' : List Condition, (∀ c, c.isEnabled = true → (c ∈ l' ↔ c ∈ l)) → ∀ logic : Logic,
      Guard.holds ⟨l', logic⟩ answers questions options =
        Guard.holds ⟨l, logic⟩ answers questions options) ∧
    (∀ l l' : List Condition, Guard.holds ⟨l ++ l', .and⟩ answers questions options =
      (Guard.holds ⟨l, .and⟩ answers questions options &&
        Guard.holds ⟨l', .and⟩ answers questions options)) ∧
    (∀ l l' : List Condition, AnyEnabled l → AnyEnabled l' →
      Guard.holds ⟨l ++ l', .or⟩ answers questions options =
        (Guard.holds ⟨l, .or⟩ answers questions options ||
          Guard.holds ⟨l', .or⟩ answers questions options)) ∧
    (∀ l l' : List Condition, ¬ AnyEnabled l →
      Guard.holds ⟨l ++ l', .or⟩ answers questions options =
          Guard.holds ⟨l', .or⟩ answers questions options ∧
        Guard.holds ⟨l' ++ l, .or⟩ answers questions options =
          Guard.holds ⟨l', .or⟩ answers questions options) := by
  refine ⟨fun g => Guard.holds_of_not_anyEnabled, ?_, ?_, fun l l' => Guard.holds_and_append,
    fun l l' => Guard.holds_or_append, ?_⟩
  · intro l hl
    refine ⟨Guard.holds_and_iff, ?_, Guard.holds_not_eq hl, Guard.holds_or_of_and⟩
    rw [Guard.holds_or_iff, imp_iff_right hl]
    refine exists_congr fun c => and_congr_right fun _ => ?_
    exact ⟨fun h => ⟨c.isEnabled_of_holds h, h⟩, And.right⟩
  · intro l l' hsame logic
    refine Guard.holds_congr rfl fun c => ?_
    rw [Guard.mem_enabled_iff, Guard.mem_enabled_iff, and_congr_left_iff]
    exact hsame c
  · intro l l' hl
    have hmem := Guard.mem_enabled_append_of_not_anyEnabled hl l' .or
    exact ⟨Guard.holds_congr rfl fun c => (hmem c).1, Guard.holds_congr rfl fun c => (hmem c).2⟩

/-- A question about pets and one about the rooms of a home. -/
def home : List Question :=
  [{ id := "pets", kind := .checkbox },
    { id := "rooms", kind := .table
      grid := [{ id := "yard", cells := [{ id := "y", kind := .widget .checkbox }] }] }]

/-- There is a dog. -/
def hasDog : Condition := .ofValues "dog" "pets" ["dog"]

/-- There is a yard. -/
def hasYard : Condition := .ofChecks "yard" "rooms" { rowIds := ["yard"] } none

/-- There is a cat, which is not asked any more. -/
def hasCat : Condition := (Condition.ofValues "cat" "pets" ["cat"]).disabled

/-- With a dog and without a yard, `or` finds the dog and ignores the cat; the cat alone is no
restriction, and adds nothing to the yard. -/
theorem guards_combine_conditions_home :
    let answers := (Snapshot.empty.answer "pets" (.ofValues ["dog"])).answer "rooms" (.table .empty)
    (¬ AnyEnabled [hasCat] ∧ AnyEnabled [hasDog, hasCat] ∧ AnyEnabled [hasYard] ∧
      ∀ c, c.isEnabled = true → (c ∈ [hasYard, hasDog, hasCat, hasDog] ↔ c ∈ [hasDog, hasYard])) ∧
    Guard.holds ⟨[hasCat], .or⟩ answers home {} = true ∧
    Guard.holds ⟨[hasDog, hasCat], .not⟩ answers home {} = false ∧
    Guard.holds ⟨[hasYard, hasDog, hasCat, hasDog], .and⟩ answers home {} = false ∧
    Guard.holds ⟨[hasDog, hasCat] ++ [hasYard], .and⟩ answers home {} = false ∧
    Guard.holds ⟨[hasDog, hasCat] ++ [hasYard], .or⟩ answers home {} = true ∧
    Guard.holds ⟨[hasCat] ++ [hasYard], .or⟩ answers home {} = false := by
  intro answers
  have hcat : ¬ AnyEnabled [hasCat] := by decide
  have hdog : AnyEnabled [hasDog, hasCat] := by decide
  have hyard : AnyEnabled [hasYard] := by decide
  have hsame : ∀ c, c.isEnabled = true →
      (c ∈ [hasYard, hasDog, hasCat, hasDog] ↔ c ∈ [hasDog, hasYard]) := by
    intro c hc
    have hne : c ≠ hasCat := by
      rintro rfl
      cases hc
    simp only [List.mem_cons, List.not_mem_nil, hne, or_false, false_or]
    tauto
  obtain ⟨hnone, hsome, hsets, hand, hor, hadded⟩ := guards_combine_conditions answers home {}
  obtain ⟨-, -, hnot, -⟩ := hsome _ hdog
  refine ⟨⟨hcat, hdog, hyard, hsame⟩, ?_, ?_, ?_, ?_, ?_, ?_⟩
  · exact hnone ⟨[hasCat], .or⟩ hcat
  · exact hnot.trans (by decide)
  · exact (hsets _ _ hsame .and).trans (by decide)
  · exact (hand _ _).trans (by decide)
  · exact (hor _ _ hdog hyard).trans (by decide)
  · exact (hadded _ [hasYard] hcat).1.trans (by decide)

end Questionnaire
