import Questionnaire.Proofs.Condition.Holds
import Questionnaire.Proofs.Table.Hits
import Questionnaire.Proofs.Visibility.Positive

/-!
# The stricter policy only narrows

The policy for checks without a column asks for one cell of a row or for all of them. The main
statement is that the stricter policy hits fewer rows: it changes nothing about checks with a
column, a check for some hit or for all hits that holds under it holds under the looser one, and a
check for no hit the other way round. Hence a question over which positive guards decide never
shows under the stricter policy alone. That a row without cells is hit under neither policy is what
keeps the stricter one from being true for nothing.
-/

namespace Questionnaire

/-- Every interactive column of a row has to be hit by a check that names none. -/
def Options.strict : Options := { unscopedColumns := .all }

/-- One interactive column of a row is enough for a check that names none. -/
def Options.loose : Options := { unscopedColumns := .any }

namespace Table.Scope

variable {rows : List Row} {cells : TableAnswer} {check : Check}

/-! ## Rows -/

/-- With a column, the policy plays no part. -/
theorem rowHit_of_column {col : Nat} (hcolumn : check.column = some col) (options options' : Options)
    (id : String) :
    rowHit ⟨rows, cells, options'⟩ check id = rowHit ⟨rows, cells, options⟩ check id := by
  have hnot : check.column ≠ none := by
    rw [hcolumn]
    exact Option.some_ne_none col
  rw [Bool.eq_iff_iff, rowHit_iff, rowHit_iff]
  constructor
  · intro h
    exact ⟨h.some_hit, fun hnone => absurd hnone hnot⟩
  · intro h
    exact ⟨h.some_hit, fun hnone => absurd hnone hnot⟩

/-- What is hit under the stricter policy is hit under the looser one. -/
theorem rowHit_loose_of_strict {id : String} (h : rowHit ⟨rows, cells, .strict⟩ check id = true) :
    rowHit ⟨rows, cells, .loose⟩ check id = true := by
  rw [rowHit_iff] at h ⊢
  exact ⟨h.some_hit, fun _ hpolicy => by cases hpolicy⟩

/-! ## Checks -/

section

variable {col : Nat} (hcolumn : check.column = some col) (options options' : Options)
include hcolumn

theorem satisfied_of_column (how : Combinator) :
    satisfied ⟨rows, cells, options'⟩ check how = satisfied ⟨rows, cells, options⟩ check how := by
  have hrows : (⟨rows, cells, options'⟩ : Scope).rows = (⟨rows, cells, options⟩ : Scope).rows := rfl
  refine satisfied_congr (resolves_congr hrows) ?_ (rowHit_of_column hcolumn options options') how
  intro id
  rw [coveredRows_congr hrows]

theorem exclusive_of_column :
    exclusive ⟨rows, cells, options'⟩ check = exclusive ⟨rows, cells, options⟩ check := by
  have hrows : (⟨rows, cells, options'⟩ : Scope).rows = (⟨rows, cells, options⟩ : Scope).rows := rfl
  refine exclusive_congr (resolves_congr hrows) ?_ (rowHit_of_column hcolumn options options') hrows
  intro id
  rw [coveredRows_congr hrows]

end

theorem satisfied_loose_of_strict {how : Combinator} (hhow : how ≠ .none)
    (h : satisfied ⟨rows, cells, .strict⟩ check how = true) :
    satisfied ⟨rows, cells, .loose⟩ check how = true := by
  have hrows : (⟨rows, cells, .loose⟩ : Scope).rows = (⟨rows, cells, .strict⟩ : Scope).rows := rfl
  refine satisfied_mono hrows hhow ?_ h
  intro id _ hhit
  exact rowHit_loose_of_strict hhit

/-- Where no row is hit under the looser policy, none is under the stricter one. -/
theorem satisfied_strict_none_of_loose
    (h : satisfied ⟨rows, cells, .loose⟩ check .none = true) :
    satisfied ⟨rows, cells, .strict⟩ check .none = true := by
  have hresolves : resolves ⟨rows, cells, .strict⟩ check = true := by
    unfold satisfied at h
    rw [Bool.and_eq_true] at h
    exact h.1
  rw [satisfied_none_of_resolves hresolves, Bool.not_eq_true', Bool.eq_false_iff]
  intro hany
  rw [satisfied_none_of_resolves (s := ⟨rows, cells, .loose⟩) hresolves,
    satisfied_loose_of_strict (by decide) hany] at h
  cases h

end Table.Scope

/-! ## Conditions -/

/-- A positive test that passes under the stricter policy passes under the looser one. -/
theorem passes_loose_of_strict {t : Test} (ht : t.IsPositive) {source : Question} {a : Answer}
    (h : t.passes source a .strict = true) : t.passes source a .loose = true := by
  cases t with
  | value required => exact h
  | cells primary extra =>
    obtain ⟨hprimary, hextra⟩ := ht
    obtain ⟨check, cells, rfl, rfl, hholds, hmore⟩ := Test.passes_cells_iff.mp h
    refine Test.passes_cells_iff.mpr ⟨check, cells, rfl, rfl, ?_, ?_⟩
    · exact Table.Scope.satisfied_loose_of_strict (hprimary check rfl).combinator_ne hholds
    · intro c hc
      exact Table.Scope.satisfied_loose_of_strict (hextra c hc).combinator_ne (hmore c hc)

theorem holds_loose_of_strict {c : Condition} (hc : c.test.IsPositive) {r : Snapshot}
    {questions : List Question} (h : c.holds r questions .strict = true) :
    c.holds r questions .loose = true := by
  obtain ⟨henabled, source, a, hsource, hget, hpasses⟩ := Condition.holds_iff.mp h
  exact Condition.holds_iff.mpr
    ⟨henabled, source, a, hsource, hget, passes_loose_of_strict hc hpasses⟩

open Table

/-- **The stricter policy only narrows.** A check with a column has the same results under both
policies. A check that holds under the stricter policy for some hit or for all hits holds under the
looser one, and a check for no hit that holds under the looser policy holds under the stricter one.
Where nothing is negated, a question that shows under the stricter policy shows under the looser
one. -/
theorem stricter_policy_narrows :
    (∀ (rows : List Row) (cells : TableAnswer) (check : Check),
      (∀ col, check.column = some col →
        (∀ how, Scope.satisfied ⟨rows, cells, .strict⟩ check how =
          Scope.satisfied ⟨rows, cells, .loose⟩ check how) ∧
        Scope.exclusive ⟨rows, cells, .strict⟩ check =
          Scope.exclusive ⟨rows, cells, .loose⟩ check) ∧
      (∀ how, how ≠ .none → Scope.satisfied ⟨rows, cells, .strict⟩ check how = true →
        Scope.satisfied ⟨rows, cells, .loose⟩ check how = true) ∧
      (Scope.satisfied ⟨rows, cells, .loose⟩ check .none = true →
        Scope.satisfied ⟨rows, cells, .strict⟩ check .none = true)) ∧
    (∀ (s : Survey) (answers : Snapshot) (q : Question), q.NegatesNothing s.groups →
      s.shows answers .strict q = true → s.shows answers .loose q = true) := by
  constructor
  · intro rows cells check
    refine ⟨?_, ?_, Scope.satisfied_strict_none_of_loose⟩
    · intro col hcolumn
      exact ⟨Scope.satisfied_of_column hcolumn .loose .strict,
        Scope.exclusive_of_column hcolumn .loose .strict⟩
    · intro how hhow h
      exact Scope.satisfied_loose_of_strict hhow h
  · intro s answers q hq h
    exact isVisible_mono hq (fun c hc hholds => holds_loose_of_strict hc hholds) h

/-- What to pack: two widgets for the bag, and one for the coat beside its label. -/
def packing : Question where
  id := "packing"
  kind := .table
  grid :=
    [{ id := "bag", cells :=
        [{ id := "tent", kind := .widget .checkbox }, { id := "food", kind := .widget .input }] },
      { id := "coat", cells := [{ id := "label" }, { id := "warm", kind := .widget .radio }] }]

/-- A reminder that shows when the bag and the coat are packed, on trips outdoors. -/
def reminder : Question where
  id := "reminder"
  kind := .notice
  groupId := some "outdoors"
  guard := some { conditions :=
    [.ofChecks "" "packing" { rowIds := ["bag", "coat"], type := .combine .all } none] }

/-- A survey about a trip. -/
def trip : Survey where
  questions := [{ id := "place", kind := .text }, packing, reminder]
  groups := [{ id := "outdoors", guard := some { conditions := [.ofValues "" "place" []] } }]

/-- Everything packed. -/
def packed : TableAnswer :=
  ((Entries.empty.put "tent" (.text "two")).put "food" (.text "rice")).put "warm" (.text "yes")

/-- The answers of someone who has packed everything. -/
def readyToGo : Snapshot :=
  (Snapshot.empty.answer "place" (.text "hills")).answer "packing" (.table packed)

/-- Whoever fills in every cell is reminded under both policies. With the food alone, the bag counts
under the looser policy, so that no check for an empty bag holds under it; with nothing it does, and
under the stricter policy as well. The column of the food is the same under both. -/
theorem stricter_policy_narrows_trip :
    (reminder.NegatesNothing trip.groups ∧ trip.shows readyToGo .strict reminder = true ∧
      trip.shows readyToGo .loose reminder = true) ∧
    (Scope.satisfied ⟨packing.rows, .empty, .loose⟩ { rowIds := ["bag"] } .none = true ∧
      Scope.satisfied ⟨packing.rows, .empty, .strict⟩ { rowIds := ["bag"] } .none = true) ∧
    (Scope.satisfied ⟨packing.rows, packed, .strict⟩ { rowIds := ["bag"] } .all = true ∧
      Scope.satisfied ⟨packing.rows, packed, .loose⟩ { rowIds := ["bag"] } .all = true) ∧
    Scope.exclusive ⟨packing.rows, packed, .strict⟩ { rowIds := ["bag"], columnIndex := some 0 } =
      Scope.exclusive ⟨packing.rows, packed, .loose⟩ { rowIds := ["bag"], columnIndex := some 0 } := by
  have hpositive : reminder.NegatesNothing trip.groups := by decide
  have hshows : trip.shows readyToGo .strict reminder = true := by decide
  have hnone : Scope.satisfied ⟨packing.rows, .empty, .loose⟩ { rowIds := ["bag"] } .none = true := by
    decide
  have hall : Scope.satisfied ⟨packing.rows, packed, .strict⟩ { rowIds := ["bag"] } .all = true := by
    decide
  obtain ⟨hchecks, hquestions⟩ := stricter_policy_narrows
  refine ⟨⟨hpositive, hshows, hquestions trip readyToGo reminder hpositive hshows⟩, ⟨hnone, ?_⟩,
    ⟨hall, ?_⟩, ?_⟩
  · exact (hchecks packing.rows .empty { rowIds := ["bag"] }).2.2 hnone
  · exact (hchecks packing.rows packed { rowIds := ["bag"] }).2.1 .all (by decide) hall
  · exact ((hchecks packing.rows packed { rowIds := ["bag"], columnIndex := some 0 }).1 0 rfl).2

end Questionnaire
