import Questionnaire.Proofs.Lint.Report
import Questionnaire.Proofs.Table.Merge
import Questionnaire.Proofs.Table.Resolved

/-!
# Checks that fail are reported

A table check that refers to a row or a column that its table lacks is false under every
combinator, and the evaluation of the survey says nothing about it. The main statement is that the
check of a survey does: without errors in its report, every table check of the survey that names
rows resolves on the table it is about, and a check is reported for a missing row or column exactly
if it names rows and fails for good.

The evaluation and the report look things up differently: the first row of an id against all rows
of any of the ids, the source of a condition against its position. Both are brought to the same
terms first, check by check (`missing_iff_failsOn`); where the checks of a survey stand is a matter
of `Survey.HasCheck` alone.
-/

namespace Questionnaire

open Lint
open Table (Check Row Scope row?)

/-- The checks that a test makes. -/
def Test.checks : Test → List Check
  | .value _ => []
  | .cells primary extra => primary.toList ++ extra.toList

/-- The checks that a rule makes. -/
def Rule.checks (r : Rule) : List Check := r.check :: r.extra.toList

/-- The checks of a survey: where each one stands, and the question that it is about. In a condition
that is the source, if there is such a question; in a rule it is the table question of the rule. -/
inductive Survey.HasCheck (s : Survey) : Subject → Option Question → Check → Prop
  | condition {o : Owner} {position : Option Nat} {g : Guard} {c : Condition} {check : Check} :
      HasGuard s o position g → c ∈ g.conditions → check ∈ c.test.checks →
      HasCheck s (.condition o c.id) (question? c.source s.questions) check
  | rule {q : Question} {r : Rule} {check : Check} :
      q ∈ s.questions → q.isTable = true → r ∈ q.rules → check ∈ r.checks →
      HasCheck s (.rule q.id r.id) (some q) check

namespace Lint

/-- A check refers to a row or to a column that is missing. -/
def Issue.IsMissingPart (i : Issue) : Prop :=
  i.code = "unknown_row" ∨ i.code = "column_out_of_range"

instance (i : Issue) : Decidable i.IsMissingPart :=
  inferInstanceAs (Decidable (i.code = "unknown_row" ∨ i.code = "column_out_of_range"))

theorem Issue.severity_of_isMissingPart {i : Issue} (h : i.IsMissingPart) :
    i.severity = .error := by
  cases i <;> simp [IsMissingPart, code, severity] at h ⊢

/-! ## One check -/

variable {table : Question} {check : Check}

theorem exists_missing_unknownRows_iff :
    (∃ issue ∈ unknownRows table check, issue.IsMissingPart) ↔
      ∃ id ∈ check.rowIds, row? id table.rows = none := by
  simp [unknownRows, row?, Issue.IsMissingPart, Issue.code]

theorem shortRow?_eq_none_iff {rows : List Row} {ids : List String} {col : Nat} :
    shortRow? rows ids col = none ↔ ∀ r ∈ rows, r.id ∈ ids → col < r.cells.length := by
  simp [shortRow?]

theorem of_shortRow?_eq_some {rows : List Row} {ids : List String} {col : Nat} {r : Row}
    (h : shortRow? rows ids col = some r) : r ∈ rows ∧ r.id ∈ ids ∧ r.cells.length ≤ col := by
  have hmem := List.mem_filter.mp (List.mem_of_find?_eq_some h)
  exact ⟨hmem.1, by simpa using hmem.2, by simpa using List.find?_some h⟩

theorem exists_missing_columnIssues_iff :
    (∃ issue ∈ columnIssues table check, issue.IsMissingPart) ↔
      ∃ col ∈ check.column, ∃ r ∈ table.rows, r.id ∈ check.rowIds ∧ r.cells.length ≤ col := by
  unfold columnIssues
  cases check.column with
  | none => simp [Issue.IsMissingPart, Issue.code]
  | some col =>
    simp only [Option.mem_some_iff, exists_eq_left']
    cases hshort : shortRow? table.rows check.rowIds col with
    | none =>
      simp only [List.not_mem_nil, false_and, exists_false, false_iff]
      rintro ⟨r, hr, hid, hlen⟩
      have hlt := shortRow?_eq_none_iff.mp hshort r hr hid
      omega
    | some r =>
      simp only [List.mem_singleton, exists_eq_left]
      exact ⟨fun _ => ⟨r, of_shortRow?_eq_some hshort⟩, fun _ => .inr rfl⟩

/-- A check is reported for a missing part if it names a row that the table does not have, or if
some row with one of its ids lacks the column. -/
theorem exists_missing_iff : (∃ issue ∈ checkIssues table check, issue.IsMissingPart) ↔
    (∃ id ∈ check.rowIds, row? id table.rows = none) ∨
      ∃ col ∈ check.column, ∃ r ∈ table.rows, r.id ∈ check.rowIds ∧ r.cells.length ≤ col := by
  rw [← exists_missing_unknownRows_iff, ← exists_missing_columnIssues_iff]
  simp only [checkIssues, List.mem_append, or_and_right, exists_or]

/-- A check that names rows and is not reported for a missing part resolves. -/
theorem resolves_of_not_missing (hids : check.rowIds ≠ [])
    (hnone : ¬ ∃ issue ∈ checkIssues table check, issue.IsMissingPart) (cells : TableAnswer)
    (options : Options) : Scope.resolves ⟨table.rows, cells, options⟩ check = true := by
  rw [exists_missing_iff, not_or] at hnone
  refine Scope.resolves_iff.mpr ⟨hids, fun id hid => ?_⟩
  obtain ⟨r, hr⟩ := Option.ne_none_iff_exists'.mp fun h => hnone.1 ⟨id, hid, h⟩
  refine ⟨r, hr, fun col hcol => ?_⟩
  have hmem : r ∈ table.rows := List.mem_of_find?_eq_some hr
  have hrid : r.id = id := by simpa using List.find?_some hr
  exact Nat.lt_of_not_le fun hlen => hnone.2 ⟨col, hcol, r, hmem, hrid ▸ hid, hlen⟩

/-- With distinct row ids, a check that is reported for a missing part does not resolve: the short
row that was found is the one that its id leads to. -/
theorem not_resolves_of_missing (hrows : (table.rows.map (·.id)).Nodup)
    (h : ∃ issue ∈ checkIssues table check, issue.IsMissingPart) (cells : TableAnswer)
    (options : Options) : Scope.resolves ⟨table.rows, cells, options⟩ check = false := by
  rw [Bool.eq_false_iff]
  intro hresolves
  have hall := (Scope.resolves_iff.mp hresolves).2
  rcases exists_missing_iff.mp h with ⟨id, hid, hnone⟩ | ⟨col, hcol, r, hr, hid, hlen⟩
  · obtain ⟨r, hr, -⟩ := hall id hid
    rw [hnone] at hr
    cases hr
  · obtain ⟨r', hr', hlt⟩ := hall r.id hid
    rw [Table.row?_of_mem hrows hr, Option.some.injEq] at hr'
    have hlt := hlt col hcol
    rw [← hr'] at hlt
    omega

theorem rowIds_ne_nil_of_missing (h : ∃ issue ∈ checkIssues table check, issue.IsMissingPart) :
    check.rowIds ≠ [] := by
  rcases exists_missing_iff.mp h with ⟨id, hid, -⟩ | ⟨_, -, r, -, hid, -⟩
  · exact List.ne_nil_of_mem hid
  · exact List.ne_nil_of_mem hid

/-- **The report and the evaluation agree on a check**: with distinct row ids, it is reported for a
missing part exactly if it names rows and fails for good. -/
theorem missing_iff_failsOn (hrows : (table.rows.map (·.id)).Nodup) :
    (∃ issue ∈ checkIssues table check, issue.IsMissingPart) ↔
      check.rowIds ≠ [] ∧ check.FailsOn table.rows := by
  constructor
  · intro h
    exact ⟨rowIds_ne_nil_of_missing h,
      (Check.failsOn_iff .empty {}).mpr (not_resolves_of_missing hrows h .empty {})⟩
  · rintro ⟨hids, hfails⟩
    by_contra hnone
    have hresolves := resolves_of_not_missing hids hnone .empty {}
    rw [(Check.failsOn_iff .empty {}).mp hfails] at hresolves
    cases hresolves

/-! ## Where checks stand -/

variable {s : Survey} {source : Question} {position : Option Nat} {c : Condition} {issue : Issue}

theorem conditionIssues_of_unknown (h : question? c.source s.questions = none) :
    conditionIssues s position c = [.unknownSource c.source] := by
  rw [conditionIssues, questionIndex?_eq_none_of_question? h]

/-- What is wrong with a condition is its place, or what is wrong with its test of the source. -/
theorem mem_conditionIssues_iff (h : question? c.source s.questions = some source) :
    issue ∈ conditionIssues s position c ↔
      (issue = .forwardSource c.source ∧
        ∃ i, questionIndex? c.source s.questions = some i ∧ position.any (· ≤ i) = true) ∨
      issue ∈ testIssues source c.test := by
  obtain ⟨i, hindex, hi⟩ := exists_index_of_question? h
  simp only [conditionIssues, hindex, hi, List.mem_append]
  refine or_congr_left ?_
  cases hahead : position.any (· ≤ i) <;> simp [hahead]

theorem mem_optionalCheckIssues_iff {table : Question} {check : Option Check} :
    issue ∈ optionalCheckIssues table check ↔ ∃ c ∈ check, issue ∈ checkIssues table c := by
  cases check <;> simp [optionalCheckIssues]

/-- What is wrong with a test of a table is that it has no check, or what is wrong with one. -/
theorem mem_testIssues_iff {t : Test} (htable : source.isTable = true) :
    issue ∈ testIssues source t ↔
      (∃ extra, t = .cells none extra) ∧ issue = .missingCheck ∨
      ∃ check ∈ t.checks, issue ∈ checkIssues source check := by
  cases t with
  | value required => simp [testIssues, Test.checks]
  | cells primary extra =>
    simp only [testIssues, htable, Bool.not_true, Bool.false_eq_true, if_false, List.mem_append,
      mem_optionalCheckIssues_iff, Test.checks]
    cases primary <;> simp [or_and_right, exists_or]

/-- Of a source that is no table, any test of its cells is wrong. -/
theorem mem_testIssues_iff_of_not_table {t : Test} (htable : source.isTable = false) :
    issue ∈ testIssues source t ↔
      (∃ primary extra, t = .cells primary extra) ∧ issue = .sourceNotTable source.id := by
  cases t with
  | value required => simp [testIssues]
  | cells primary extra => simp [testIssues, htable]

theorem mem_ruleIssues_iff {i : Nat} {q : Question} {r : Rule} : issue ∈ ruleIssues s i q r ↔
    (∃ check ∈ r.checks, issue ∈ checkIssues q check) ∨ issue ∈ jumpIssues s i r := by
  simp [ruleIssues, Rule.checks, mem_optionalCheckIssues_iff, or_assoc]

/-- Jumps have no checks. -/
theorem not_isMissingPart_of_mem_jumpIssues {i : Nat} {r : Rule} (h : issue ∈ jumpIssues s i r) :
    ¬ issue.IsMissingPart := by
  obtain ⟨-, ⟨-, rfl⟩ | ⟨target, -, htarget⟩⟩ := mem_jumpIssues_iff.mp h
  · decide
  · rcases mem_targetIssues_iff.mp htarget with ⟨-, rfl⟩ | ⟨j, -, -, rfl⟩
    · simp [Issue.IsMissingPart, Issue.code]
    · simp [Issue.IsMissingPart, Issue.code]

end Lint

namespace Survey

/-- A check of the survey that the report looks into: the one that it is about is a table. -/
def Inspects (s : Survey) (subject : Subject) (table : Question) (check : Check) : Prop :=
  s.HasCheck subject (some table) check ∧ table.isTable = true

variable {s : Survey} {subject : Subject} {about : Option Question} {check : Check} {f : Finding}

/-- What is wrong with a check of a table is reported where the check stands. -/
theorem HasCheck.found (h : s.HasCheck subject about check) {table : Question}
    (habout : about = some table) (htable : table.isTable = true) {issue : Issue}
    (hissue : issue ∈ checkIssues table check) : Found s ⟨subject, issue⟩ := by
  cases h with
  | condition hg hc hcheck =>
    have htest := (mem_testIssues_iff htable).mpr (.inr ⟨check, hcheck, hissue⟩)
    exact .condition hg hc ((mem_conditionIssues_iff habout).mpr (.inr htest))
  | rule hq hisTable hr hcheck =>
    cases habout
    obtain ⟨i, hi⟩ := List.mem_iff_getElem?.mp hq
    exact .rule hi htable hr (mem_ruleIssues_iff.mpr (.inl ⟨check, hcheck, hissue⟩))

/-- A missing part is reported of the checks that are looked into, and of nothing else. -/
theorem exists_check_of_found (h : Found s f) (hmissing : f.issue.IsMissingPart) :
    ∃ table check, s.Inspects f.subject table check ∧ f.issue ∈ checkIssues table check := by
  cases h with
  | unknownGroup => simp [Issue.IsMissingPart, Issue.code] at hmissing
  | unknownParent => simp [Issue.IsMissingPart, Issue.code] at hmissing
  | groupCycle => simp [Issue.IsMissingPart, Issue.code] at hmissing
  | rulesOnNonTable => simp [Issue.IsMissingPart, Issue.code] at hmissing
  | @condition o position g c issue hg hc hissue =>
    cases hsource : question? c.source s.questions with
    | none =>
      rw [conditionIssues_of_unknown hsource, List.mem_singleton] at hissue
      simp [hissue, Issue.IsMissingPart, Issue.code] at hmissing
    | some source =>
      rcases (mem_conditionIssues_iff hsource).mp hissue with ⟨rfl, -⟩ | htest
      · simp [Issue.IsMissingPart, Issue.code] at hmissing
      · cases htable : source.isTable with
        | false =>
          obtain ⟨-, rfl⟩ := (mem_testIssues_iff_of_not_table htable).mp htest
          simp [Issue.IsMissingPart, Issue.code] at hmissing
        | true =>
          rcases (mem_testIssues_iff htable).mp htest with ⟨-, rfl⟩ | ⟨check, hcheck, hmem⟩
          · simp [Issue.IsMissingPart, Issue.code] at hmissing
          · exact ⟨source, check, ⟨hsource ▸ .condition hg hc hcheck, htable⟩, hmem⟩
  | @rule i q r issue hq htable hr hissue =>
    rcases mem_ruleIssues_iff.mp hissue with ⟨check, hcheck, hmem⟩ | hjump
    · exact ⟨q, check, ⟨.rule (List.mem_of_getElem? hq) htable hr hcheck, htable⟩, hmem⟩
    · exact absurd hmissing (not_isMissingPart_of_mem_jumpIssues hjump)

theorem mem_lint_iff_of_isMissingPart (hmissing : f.issue.IsMissingPart) : f ∈ s.lint ↔
    ∃ table check, s.Inspects f.subject table check ∧ f.issue ∈ checkIssues table check := by
  rw [mem_lint_iff]
  constructor
  · intro h
    exact exists_check_of_found h hmissing
  · rintro ⟨table, check, ⟨hcheck, htable⟩, hissue⟩
    exact hcheck.found rfl htable hissue

/-- Without errors in the report, every check of the survey is about a table. -/
theorem HasCheck.exists_table (hlint : ∀ f ∈ s.lint, f.severity ≠ .error)
    (h : s.HasCheck subject about check) : ∃ table, about = some table ∧ table.isTable = true := by
  cases h with
  | @condition o position g c _ hg hc hcheck =>
    cases hsource : question? c.source s.questions with
    | none =>
      have hissue : .unknownSource c.source ∈ conditionIssues s position c := by
        rw [conditionIssues_of_unknown hsource]
        exact List.mem_singleton_self _
      exact absurd rfl (hlint _ (mem_lint_iff.mpr (.condition hg hc hissue)))
    | some source =>
      refine ⟨source, rfl, ?_⟩
      by_contra htable
      rw [Bool.not_eq_true] at htable
      -- only a test of cells has checks, and it is reported for such a source
      have hcells : ∃ primary extra, c.test = .cells primary extra := by
        cases htest : c.test with
        | value required => simp [htest, Test.checks] at hcheck
        | cells primary extra => exact ⟨primary, extra, rfl⟩
      have hissue : .sourceNotTable source.id ∈ conditionIssues s position c :=
        (mem_conditionIssues_iff hsource).mpr
          (.inr ((mem_testIssues_iff_of_not_table htable).mpr ⟨hcells, rfl⟩))
      exact absurd rfl (hlint _ (mem_lint_iff.mpr (.condition hg hc hissue)))
  | rule hq htable hr hcheck => exact ⟨_, rfl, htable⟩

/-- Without errors in the report, every check of the survey that names rows resolves. -/
theorem HasCheck.resolves (hlint : ∀ f ∈ s.lint, f.severity ≠ .error) {table : Question}
    (h : s.HasCheck subject (some table) check) (htable : table.isTable = true)
    (hids : check.rowIds ≠ []) (cells : TableAnswer) (options : Options) :
    Scope.resolves ⟨table.rows, cells, options⟩ check = true := by
  refine resolves_of_not_missing hids ?_ cells options
  rintro ⟨issue, hissue, hmissing⟩
  have hfound := mem_lint_iff.mpr (h.found rfl htable hissue)
  exact hlint _ hfound (Issue.severity_of_isMissingPart hmissing)

/-- **Checks that fail are reported.** Without errors in the report of a survey, every check that
names rows is about a table on which it resolves, so that it holds under exactly one of "any" and
"none" for every answer. The missing rows and columns in the report are those of the checks that it
looks into, each reported where its check stands; with distinct row ids, such a check is among them
exactly if it names rows and is false under all combinators and as an exclusive one, for every
answer. A check that names no rows fails likewise, and is not among them. -/
theorem failing_checks_reported (s : Survey) :
    ((∀ f ∈ s.lint, f.severity ≠ .error) →
      ∀ subject about check, s.HasCheck subject about check → check.rowIds ≠ [] →
        ∃ table, about = some table ∧ table.isTable = true ∧
          ∀ (cells : TableAnswer) (options : Options),
            Scope.resolves ⟨table.rows, cells, options⟩ check = true ∧
            Scope.satisfied ⟨table.rows, cells, options⟩ check .none =
              !Scope.satisfied ⟨table.rows, cells, options⟩ check .any) ∧
    (∀ f : Finding, f.issue.IsMissingPart →
      (f ∈ s.lint ↔ ∃ table check, s.Inspects f.subject table check ∧
        f.issue ∈ checkIssues table check)) ∧
    (∀ subject table check, s.Inspects subject table check → (table.rows.map (·.id)).Nodup →
      ((∃ issue ∈ checkIssues table check, issue.IsMissingPart) ↔
        check.rowIds ≠ [] ∧ check.FailsOn table.rows)) ∧
    (∀ subject table check, s.Inspects subject table check → check.rowIds = [] →
      (¬ ∃ issue ∈ checkIssues table check, issue.IsMissingPart) ∧ check.FailsOn table.rows) := by
  refine ⟨?_, fun f => mem_lint_iff_of_isMissingPart, ?_, ?_⟩
  · intro hlint subject about check h hids
    obtain ⟨table, rfl, htable⟩ := h.exists_table hlint
    refine ⟨table, rfl, htable, fun cells options => ?_⟩
    have hresolves := h.resolves hlint htable hids cells options
    exact ⟨hresolves, Scope.satisfied_none_of_resolves hresolves⟩
  · intro subject table check _ hrows
    exact missing_iff_failsOn hrows
  · intro subject table check _ hids
    refine ⟨fun hmissing => rowIds_ne_nil_of_missing hmissing hids, ?_⟩
    rw [Check.failsOn_iff .empty {}, Bool.eq_false_iff]
    exact fun hresolves => (Scope.resolves_iff.mp hresolves).1 hids

/-- A table of the fields of a farm, which ends the survey where `check` does not hold. -/
def fields (check : Check) : Question where
  id := "fields"
  kind := .table
  grid := [{ id := "north", cells := [{ id := "sown", kind := .widget .checkbox }] }]
  rules := [{ id := "fallow", kind := .noneOf, check, action := .finish }]

/-- A question about the crops, asked where `check` holds of the fields. -/
def crops (check : Check) : Question where
  id := "crops"
  kind := .text
  guard := some { conditions := [.ofChecks "sown" "fields" check none] }

/-- A survey about a farm. -/
def farm (check : Check) : Survey where
  questions := [fields check, crops check]

theorem inspects_farm (check : Check) :
    (farm check).Inspects (.condition (.question "crops") "sown") (fields check) check := by
  have hcrops : HasGuard (farm check) (.question (crops check).id) (some 1)
      { conditions := [.ofChecks "sown" "fields" check none] } := .question rfl rfl
  exact ⟨.condition hcrops List.mem_cons_self List.mem_cons_self, rfl⟩

/-- A check of the north field is not reported, and it decides. One of a south field is reported and
decides nothing; neither does one of no field, about which the report is silent. -/
theorem failing_checks_reported_farm :
    (∀ (cells : TableAnswer) (options : Options),
      Scope.satisfied ⟨(fields { rowIds := ["north"] }).rows, cells, options⟩
          { rowIds := ["north"] } .none =
        !Scope.satisfied ⟨(fields { rowIds := ["north"] }).rows, cells, options⟩
          { rowIds := ["north"] } .any) ∧
    Finding.mk (.condition (.question "crops") "sown") (.unknownRow "south" "fields") ∈
      (farm { rowIds := ["south"] }).lint ∧
    Check.FailsOn (fields { rowIds := ["south"] }).rows { rowIds := ["south"] } ∧
    Check.FailsOn (fields {}).rows {} := by
  have hnorth := (failing_checks_reported (farm { rowIds := ["north"] })).1 (by decide) _ _ _
    (inspects_farm { rowIds := ["north"] }).1 (by decide)
  have hsouth := failing_checks_reported (farm { rowIds := ["south"] })
  have hnone := failing_checks_reported (farm {})
  have hissue : Issue.unknownRow "south" "fields" ∈
      checkIssues (fields { rowIds := ["south"] }) { rowIds := ["south"] } := by decide
  refine ⟨?_, ?_, ?_, ?_⟩
  · obtain ⟨table, htable, -, hdecides⟩ := hnorth
    cases htable
    exact fun cells options => (hdecides cells options).2
  · exact (hsouth.2.1 ⟨.condition (.question "crops") "sown", .unknownRow "south" "fields"⟩
      (.inl rfl)).mpr ⟨_, _, inspects_farm _, hissue⟩
  · exact ((hsouth.2.2.1 _ _ _ (inspects_farm _) (by decide)).mp ⟨_, hissue, .inl rfl⟩).2
  · exact (hnone.2.2.2 _ _ _ (inspects_farm {}) rfl).2

end Survey

end Questionnaire
