import Questionnaire.Proofs.Condition.Holds
import Questionnaire.Proofs.Lint.Checks
import Questionnaire.Proofs.Table.Monotone

/-!
# Checks fail closed

A combinator that asks for no hit would take a broken reference for a success. The main statement is
that no check does: one that refers to something that the table lacks is false whatever is asked of
it, and so is every rule and every condition that makes it. Of a check whose references are sound,
the results stand to each other as the names of the combinators say, and they depend on which rows
the check names, not on their order nor on how often each is named.
-/

namespace Questionnaire

namespace Table

variable {check check' : Check} {rows : List Row}

theorem Check.failsOn_of_not_resolvable (h : ¬ check.Resolvable rows) : check.FailsOn rows := by
  rw [Check.failsOn_iff .empty {}, Bool.eq_false_iff]
  intro hresolves
  exact h (Scope.resolves_iff_resolvable.mp hresolves)

namespace Scope

variable {s : Scope}

/-! ## One combinator and another -/

/-- "All" is not true for want of rows: what resolves names one. -/
theorem satisfied_any_of_all (h : s.satisfied check .all = true) :
    s.satisfied check .any = true := by
  obtain ⟨id, hid, hhit⟩ := exists_rowHit_of_satisfied (by decide) h
  unfold satisfied at h ⊢
  rw [Bool.and_eq_true] at h ⊢
  exact ⟨h.1, List.any_eq_true.mpr ⟨id, hid, hhit⟩⟩

theorem satisfied_all_of_exclusive (h : s.exclusive check = true) :
    s.satisfied check .all = true := by
  unfold exclusive at h
  rw [Bool.and_eq_true] at h
  exact h.1

/-! ## The rows as a set -/

section

variable {ids : List String} (hids : ∀ id, id ∈ ids ↔ id ∈ check.rowIds)
include hids

theorem resolvable_of_same_rows :
    Check.Resolvable rows { check with rowIds := ids } ↔ check.Resolvable rows := by
  have hnames : ids ≠ [] ↔ check.rowIds ≠ [] := by
    refine not_congr ?_
    rw [List.eq_nil_iff_forall_not_mem, List.eq_nil_iff_forall_not_mem]
    simp only [hids]
  constructor
  · rintro ⟨hne, hknown, hcolumn⟩
    exact ⟨hnames.mp hne, fun id hid => hknown id ((hids id).mpr hid),
      fun col hcol id hid => hcolumn col hcol id ((hids id).mpr hid)⟩
  · rintro ⟨hne, hknown, hcolumn⟩
    exact ⟨hnames.mpr hne, fun id hid => hknown id ((hids id).mp hid),
      fun col hcol id hid => hcolumn col hcol id ((hids id).mp hid)⟩

theorem resolves_of_same_rows :
    s.resolves { check with rowIds := ids } = s.resolves check := by
  rw [Bool.eq_iff_iff, resolves_iff_resolvable, resolves_iff_resolvable]
  exact resolvable_of_same_rows hids

theorem mem_coveredRows_of_same_rows (id : String) :
    id ∈ s.coveredRows { check with rowIds := ids } ↔ id ∈ s.coveredRows check := by
  rw [mem_coveredRows_iff, mem_coveredRows_iff]
  simp only [hids]
  rfl

/-- The order of the rows that a check names makes no difference, nor does naming a row again. -/
theorem satisfied_of_same_rows (how : Combinator) :
    s.satisfied { check with rowIds := ids } how = s.satisfied check how :=
  satisfied_congr (resolves_of_same_rows hids) (mem_coveredRows_of_same_rows hids)
    (fun _ => rfl) how

theorem exclusive_of_same_rows : s.exclusive { check with rowIds := ids } = s.exclusive check :=
  exclusive_congr (resolves_of_same_rows hids) (mem_coveredRows_of_same_rows hids)
    (fun _ => rfl) rfl

end

end Scope

end Table

open Table

/-! ## Rules and conditions -/

/-- A rule does not fire with a check that fails. -/
theorem fires_of_failsOn {r : Rule} {check : Check} {scope : Scope} (hcheck : check ∈ r.checks)
    (h : check.FailsOn scope.rows) : r.fires scope = false := by
  obtain ⟨hsatisfied, hexclusive⟩ := h scope.cells scope.options
  unfold Rule.fires
  rcases List.mem_cons.mp hcheck with rfl | hextra
  · have hprimary : r.primaryHolds scope = false := by
      unfold Rule.primaryHolds
      cases r.kind with
      | anyOf => exact hsatisfied .any
      | allOf => exact hsatisfied .all
      | combination => exact hsatisfied .all
      | noneOf => exact hsatisfied .none
      | exclusive => exact hexclusive
    rw [hprimary, Bool.false_and]
  · have hholds : scope.holds check = false := hsatisfied _
    rw [Option.mem_toList.mp hextra, Option.all_some, hholds, Bool.and_false]

/-- A condition does not hold with a check that fails. -/
theorem holds_of_failsOn {c : Condition} {check : Check} {questions : List Question}
    {source : Question} (hsource : question? c.source questions = some source)
    (hcheck : check ∈ c.test.checks) (h : check.FailsOn source.rows) (answers : Snapshot)
    (options : Options) : c.holds answers questions options = false := by
  rw [Bool.eq_false_iff]
  intro hholds
  obtain ⟨-, source', a, hsource', -, hpasses⟩ := Condition.holds_iff.mp hholds
  obtain rfl := Option.some.inj (hsource.symm.trans hsource')
  have hfails : ∀ cells, Scope.holds ⟨source.rows, cells, options⟩ check ≠ true := by
    intro cells
    rw [← Bool.eq_false_iff]
    exact (h cells options).1 _
  cases htest : c.test with
  | value required => simp [htest, Test.checks] at hcheck
  | cells primary extra =>
    rw [htest] at hcheck hpasses
    obtain ⟨first, cells, rfl, -, hfirst, hextra⟩ := Test.passes_cells_iff.mp hpasses
    rcases List.mem_append.mp hcheck with hprimary | hmem
    · obtain rfl := Option.some.inj (Option.mem_toList.mp hprimary)
      exact hfails cells hfirst
    · exact hfails cells (hextra check (Option.mem_toList.mp hmem))

/-- **Checks fail closed.** A check that names no row, a row that the table lacks, or a column that
one of its rows lacks is false under every combinator and as an exclusive one; no rule that makes it
fires, and no condition that makes it holds. Any other check holds under "any" exactly if it does
not under "none", under "any" if it does under "all", and under "all" if it is exclusive. Checks
that name the same rows, in whatever order and however often, have the same results. -/
theorem checks_fail_closed (rows : List Row) (check : Check) :
    (¬ check.Resolvable rows →
      (∀ (cells : TableAnswer) (options : Options),
        (∀ how, Scope.satisfied ⟨rows, cells, options⟩ check how = false) ∧
          Scope.exclusive ⟨rows, cells, options⟩ check = false) ∧
      (∀ r : Rule, check ∈ r.checks → ∀ (cells : TableAnswer) (options : Options),
        r.fires ⟨rows, cells, options⟩ = false) ∧
      (∀ (c : Condition) (questions : List Question) (source : Question),
        question? c.source questions = some source → source.rows = rows →
        check ∈ c.test.checks → ∀ (answers : Snapshot) (options : Options),
          c.holds answers questions options = false)) ∧
    (check.Resolvable rows → ∀ (cells : TableAnswer) (options : Options),
      (Scope.satisfied ⟨rows, cells, options⟩ check .any =
        !Scope.satisfied ⟨rows, cells, options⟩ check .none) ∧
      (Scope.satisfied ⟨rows, cells, options⟩ check .all = true →
        Scope.satisfied ⟨rows, cells, options⟩ check .any = true) ∧
      (Scope.exclusive ⟨rows, cells, options⟩ check = true →
        Scope.satisfied ⟨rows, cells, options⟩ check .all = true)) ∧
    (∀ ids : List String, (∀ id, id ∈ ids ↔ id ∈ check.rowIds) →
      ∀ (cells : TableAnswer) (options : Options),
        (∀ how, Scope.satisfied ⟨rows, cells, options⟩ { check with rowIds := ids } how =
          Scope.satisfied ⟨rows, cells, options⟩ check how) ∧
        Scope.exclusive ⟨rows, cells, options⟩ { check with rowIds := ids } =
          Scope.exclusive ⟨rows, cells, options⟩ check) := by
  refine ⟨?_, ?_, ?_⟩
  · intro hcheck
    have hfails : check.FailsOn rows := Check.failsOn_of_not_resolvable hcheck
    refine ⟨hfails, ?_, ?_⟩
    · intro r hr cells options
      exact fires_of_failsOn hr hfails
    · rintro c questions source hsource rfl hc answers options
      exact holds_of_failsOn hsource hc hfails answers options
  · intro hcheck cells options
    have hresolves : Scope.resolves ⟨rows, cells, options⟩ check = true :=
      Scope.resolves_iff_resolvable.mpr hcheck
    refine ⟨?_, Scope.satisfied_any_of_all, Scope.satisfied_all_of_exclusive⟩
    rw [Scope.satisfied_none_of_resolves hresolves, Bool.not_not]
  · intro ids hids cells options
    exact ⟨Scope.satisfied_of_same_rows hids, Scope.exclusive_of_same_rows hids⟩

/-- A table of chores with two rows for the bath, of which the first has no second column. -/
def chores : Question where
  id := "chores"
  kind := .table
  grid :=
    [{ id := "kitchen", cells := [{ id := "k1" }, { id := "k2", kind := .widget .checkbox }] },
      { id := "bath", cells := [{ id := "b1", kind := .widget .checkbox }] },
      { id := "bath", cells := [{ id := "c1" }, { id := "c2", kind := .widget .checkbox }] }]

/-- A check of the second column of the bath. -/
def bathCheck : Check := { rowIds := ["kitchen", "bath"], columnIndex := some 1 }

/-- A check of everything in the kitchen and in the bath. -/
def roomsCheck : Check := { rowIds := ["kitchen", "bath"] }

/-- A rule that ends the survey when nothing of `bathCheck` is ticked. -/
def nothingDone : Rule where
  id := "nothing"
  kind := .noneOf
  check := bathCheck
  action := .finish

/-- The first row for the bath lacks the column, so that the rule about it never fires, even if
nothing is ticked; nor does a question show which asks for it. The check of both rooms is sound, and
naming the rooms in another order and twice makes no difference to it. -/
theorem checks_fail_closed_chores :
    (¬ bathCheck.Resolvable chores.rows ∧ roomsCheck.Resolvable chores.rows ∧
      ∀ id, id ∈ ["bath", "kitchen", "bath"] ↔ id ∈ roomsCheck.rowIds) ∧
    nothingDone.fires ⟨chores.rows, .empty, {}⟩ = false ∧
    (Condition.ofChecks "" "chores" roomsCheck (some bathCheck)).holds
      (Snapshot.empty.answer "chores" (.table (Entries.empty.put "k2" (.text "x")))) [chores] {} =
        false ∧
    Scope.satisfied ⟨chores.rows, .empty, {}⟩ roomsCheck .any = false ∧
    Scope.satisfied ⟨chores.rows, Entries.empty.put "k2" (.text "x"), {}⟩
      { roomsCheck with rowIds := ["bath", "kitchen", "bath"] } .any = true := by
  have hbath : ¬ bathCheck.Resolvable chores.rows := by decide
  have hrooms : roomsCheck.Resolvable chores.rows := by decide
  have hids : ∀ id, id ∈ ["bath", "kitchen", "bath"] ↔ id ∈ roomsCheck.rowIds := by
    intro id
    simp only [roomsCheck, List.mem_cons, List.not_mem_nil, or_false]
    tauto
  obtain ⟨-, hrules, hconditions⟩ := (checks_fail_closed chores.rows bathCheck).1 hbath
  obtain ⟨-, hdecided, hsame⟩ := checks_fail_closed chores.rows roomsCheck
  refine ⟨⟨hbath, hrooms, hids⟩, ?_, ?_, ?_, ?_⟩
  · exact hrules nothingDone List.mem_cons_self .empty {}
  · exact hconditions _ [chores] chores rfl rfl (List.mem_append_right _ List.mem_cons_self) _ {}
  · exact (hdecided hrooms .empty {}).1.trans (by decide)
  · exact ((hsame _ hids (Entries.empty.put "k2" (.text "x")) {}).1 .any).trans (by decide)

end Questionnaire
