import Questionnaire.Proofs.Condition.Holds
import Questionnaire.Proofs.Visibility.Positive

/-!
# Filling in blanks

A snapshot is filled in by another one that keeps all its data: an answer that holds data stays,
except that more cells of a table may be filled in. What held no data may be anything afterwards.
The main statement is that filling in never hides a question over which positive guards decide.

A test that passes has read data, so the answer is one that is kept (`isAnswered_of_passes`); and
what it has read in a table are cells that hold a value, which are kept one by one.
-/

namespace Questionnaire

/-- Every cell that holds a value keeps it. -/
def KeepsCells (cells cells' : TableAnswer) : Prop :=
  ∀ id a, cells.get? id = some a → a.isAnswered = true → cells'.get? id = some a

/-- An answer stays as it is, or is a table of which more cells are filled in. -/
inductive Answer.FilledIn : Answer → Answer → Prop
  | same (a : Answer) : FilledIn a a
  | table {cells cells' : TableAnswer} : KeepsCells cells cells' →
      FilledIn (.table cells) (.table cells')

/-- Every answer that holds data stays, or is filled in. -/
def Snapshot.FilledIn (r r' : Snapshot) : Prop :=
  ∀ id a, r.get? id = some a → a.isAnswered = true → ∃ a', r'.get? id = some a' ∧ a.FilledIn a'

/-- Putting a value into a cell that holds none keeps all cells. -/
theorem KeepsCells.put {cells : TableAnswer} {id : String} {new : CellAnswer}
    (hblank : ∀ a, cells.get? id = some a → a.isAnswered = false) :
    KeepsCells cells (cells.put id new) := by
  intro other a hget hanswered
  by_cases hid : id = other
  · subst hid
    rw [hblank a hget] at hanswered
    cases hanswered
  · rw [Entries.get?_put, if_neg hid]
    exact hget

/-- Giving an answer fills in a snapshot if it fills in the answer that was there. -/
theorem Snapshot.FilledIn.answer {r : Snapshot} {id : String} {new : Answer}
    (hnew : ∀ a, r.get? id = some a → a.isAnswered = true → a.FilledIn new) :
    r.FilledIn (r.answer id new) := by
  intro other a hget hanswered
  rw [Snapshot.get?_answer]
  by_cases hid : id = other
  · subst hid
    exact ⟨new, if_pos rfl, hnew a hget hanswered⟩
  · exact ⟨a, by rw [if_neg hid]; exact hget, .same a⟩

/-! ## Tables -/

namespace Table.Scope

variable {s s' : Scope} {c : Check}

/-- A cell with a value is an answered cell. -/
theorem exists_answered_of_values {cell : Cell} (h : s.values cell ≠ []) :
    ∃ a, s.cells.get? cell.id = some a ∧ a.isAnswered = true := by
  unfold values at h
  cases hget : s.cells.get? cell.id with
  | none => simp [hget] at h
  | some a =>
    rw [hget] at h
    refine ⟨a, rfl, ?_⟩
    unfold CellAnswer.isAnswered
    simpa using h

/-- A positive check that holds has read a cell with a value. -/
theorem exists_answered_of_holds (hc : c.IsPositive) (h : s.holds c = true) :
    ∃ id a, s.cells.get? id = some a ∧ a.isAnswered = true := by
  obtain ⟨id, -, hrow⟩ := exists_rowHit_of_satisfied hc.combinator_ne h
  obtain ⟨cell, hcell⟩ := exists_cellHit_of_rowHit hrow
  obtain ⟨a, hget, hanswered⟩ := exists_answered_of_values (values_ne_nil_of_cellHit hcell)
  exact ⟨cell.id, a, hget, hanswered⟩

theorem cellHit_of_keepsCells (hkeeps : KeepsCells s.cells s'.cells) {expected : List String}
    {cell : Cell} (h : s.cellHit expected cell = true) : s'.cellHit expected cell = true := by
  obtain ⟨a, hget, hanswered⟩ := exists_answered_of_values (values_ne_nil_of_cellHit h)
  have hkept : s'.cells.get? cell.id = some a := hkeeps cell.id a hget hanswered
  have hvalues : s'.values cell = s.values cell := by
    simp only [values, hget, hkept]
  rw [cellHit_congr hvalues]
  exact h

/-- A positive check that holds goes on holding when cells are filled in. -/
theorem holds_of_keepsCells (hrows : s'.rows = s.rows) (hoptions : s'.options = s.options)
    (hkeeps : KeepsCells s.cells s'.cells) (hc : c.IsPositive) (h : s.holds c = true) :
    s'.holds c = true := by
  refine satisfied_mono hrows hc.combinator_ne ?_ h
  intro id _ hhit
  refine rowHit_mono hrows hoptions ?_ hhit
  intro cell hcell
  exact cellHit_of_keepsCells hkeeps hcell

end Table.Scope

/-! ## Answers -/

namespace Answer

variable {a a' : Answer}

theorem isAnswered_table_iff {cells : TableAnswer} :
    (table cells).isAnswered = true ↔ ∃ id c, cells.get? id = some c ∧ c.isAnswered = true := by
  unfold isAnswered
  rw [List.any_eq_true]
  constructor
  · rintro ⟨c, hc, hanswered⟩
    obtain ⟨id, hget⟩ := Entries.mem_values_iff.mp hc
    exact ⟨id, c, hget, hanswered⟩
  · rintro ⟨id, c, hget, hanswered⟩
    exact ⟨c, Entries.mem_values_iff.mpr ⟨id, hget⟩, hanswered⟩

/-- An answer that makes a choice holds data. -/
theorem isAnswered_of_choiceValues (h : a.choiceValues ≠ []) : a.isAnswered = true := by
  cases a with
  | table cells => exact absurd rfl h
  | unsupported content => exact absurd rfl h
  | text s => simpa [isAnswered] using h
  | other o => simpa [isAnswered] using h
  | choices picks => simpa [isAnswered] using h

theorem isAnswered_of_matches {required : List String} (h : a.matches required = true) :
    a.isAnswered = true := by
  unfold Answer.matches at h
  split at h
  · exact h
  · apply isAnswered_of_choiceValues
    intro hnil
    rw [hnil] at h
    cases h

/-- Filling in keeps data. -/
theorem isAnswered_of_filledIn (hfilled : a.FilledIn a') (h : a.isAnswered = true) :
    a'.isAnswered = true := by
  cases hfilled with
  | same => exact h
  | table hkeeps =>
    obtain ⟨id, c, hget, hanswered⟩ := isAnswered_table_iff.mp h
    exact isAnswered_table_iff.mpr ⟨id, c, hkeeps id c hget hanswered, hanswered⟩

theorem matches_of_filledIn (hfilled : a.FilledIn a') {required : List String}
    (h : a.matches required = true) : a'.matches required = true := by
  unfold Answer.matches at h ⊢
  split at h
  · rename_i hrequired
    rw [if_pos hrequired]
    exact isAnswered_of_filledIn hfilled h
  · rename_i hrequired
    rw [if_neg hrequired]
    cases hfilled with
    | same => exact h
    | table hkeeps => cases h

end Answer

/-! ## Tests and conditions -/

section

variable {t : Test} {source : Question} {a a' : Answer} {options : Options}

/-- A positive test passes on data only. -/
theorem isAnswered_of_passes (ht : t.IsPositive) (h : t.passes source a options = true) :
    a.isAnswered = true := by
  cases t with
  | value required => exact Answer.isAnswered_of_matches h
  | cells primary extra =>
    obtain ⟨check, cells, rfl, rfl, hholds, -⟩ := Test.passes_cells_iff.mp h
    exact Answer.isAnswered_table_iff.mpr
      (Table.Scope.exists_answered_of_holds (ht.1 check rfl) hholds)

/-- A positive test that passes goes on passing when the answer is filled in. -/
theorem passes_of_filledIn (ht : t.IsPositive) (hfilled : a.FilledIn a')
    (h : t.passes source a options = true) : t.passes source a' options = true := by
  cases t with
  | value required => exact Answer.matches_of_filledIn hfilled h
  | cells primary extra =>
    obtain ⟨hprimary, hextra⟩ := ht
    obtain ⟨check, cells, rfl, rfl, hholds, hmore⟩ := Test.passes_cells_iff.mp h
    cases hfilled with
    | same => exact h
    | @table _ cells' hkeeps =>
      refine Test.passes_cells_iff.mpr ⟨check, cells', rfl, rfl, ?_, ?_⟩
      · exact Table.Scope.holds_of_keepsCells (by rfl) (by rfl) hkeeps (hprimary check rfl) hholds
      · intro c hc
        exact Table.Scope.holds_of_keepsCells (by rfl) (by rfl) hkeeps (hextra c hc) (hmore c hc)

end

/-- A condition with a positive test that holds goes on holding when the snapshot is filled in. -/
theorem holds_of_filledIn {r r' : Snapshot} (hfilled : r.FilledIn r') {c : Condition}
    (hc : c.test.IsPositive) {questions : List Question} {options : Options}
    (h : c.holds r questions options = true) : c.holds r' questions options = true := by
  obtain ⟨henabled, source, a, hsource, hget, hpasses⟩ := Condition.holds_iff.mp h
  -- the test has read data, so that this answer is one that is kept
  obtain ⟨a', hget', hkept⟩ := hfilled source.id a hget (isAnswered_of_passes hc hpasses)
  exact Condition.holds_iff.mpr
    ⟨henabled, source, a', hsource, hget', passes_of_filledIn hc hkept hpasses⟩

namespace Survey

/-- **Filling in blanks hides nothing** where nothing is negated: a question whose guards are
positive and that shows under some answers shows under all answers that keep their data. -/
theorem shows_of_filledIn (s : Survey) (q : Question) (hq : q.NegatesNothing s.groups)
    (r r' : Snapshot) (hfilled : r.FilledIn r') (options : Options)
    (h : s.shows r options q = true) : s.shows r' options q = true := by
  refine isVisible_mono hq ?_ h
  intro c hc hholds
  exact holds_of_filledIn hfilled hc hholds

/-- A question about a flat that shows when both rooms are painted, one of them in white or blue,
and that belongs to a group which shows once there are a name or remarks. -/
def quote : Question :=
  { id := "quote", kind := .notice, groupId := some "offer"
    guard := some { conditions :=
      [.ofChecks "" "rooms" { rowIds := ["kitchen", "bath"], type := .combine .all }
        (some { rowIds := ["bath", "attic"], expected := ["white", "blue"] })] } }

/-- A survey about a flat. -/
def flat : Survey where
  questions :=
    [{ id := "rooms", kind := .table
       grid :=
        [{ id := "kitchen", cells := [{ id := "k", kind := .widget .radio }] },
          { id := "bath", cells := [{ id := "b", kind := .widget .checkbox }] },
          { id := "attic", cells := [{ id := "a", kind := .widget .input }] }] },
      { id := "name", kind := .text },
      { id := "remarks", kind := .textarea },
      quote]
  groups :=
    [{ id := "offer", guard := some
        { conditions := [.ofValues "" "name" [], .ofValues "" "remarks" []], logic := .or } }]

/-- The colours of two rooms, with a blank for the attic. -/
def colours : TableAnswer :=
  ((Entries.empty.put "k" (.text "red")).put "b" (.selections ["green", "blue"])).put "a" (.text " ")

/-- The answers to `flat` of someone who has painted two rooms. -/
def painted : Snapshot :=
  (Snapshot.empty.answer "rooms" (.table colours)).answer "name" (.text "Ada")

/-- The quote that shows after two rooms still shows when the blank for the attic is filled in. -/
theorem shows_of_filledIn_flat :
    (quote.NegatesNothing flat.groups ∧
      painted.FilledIn (painted.answer "rooms" (.table (colours.put "a" (.text "grey")))) ∧
      flat.shows painted {} quote = true) ∧
    flat.shows (painted.answer "rooms" (.table (colours.put "a" (.text "grey")))) {} quote =
      true := by
  have hpositive : quote.NegatesNothing flat.groups := by decide
  have hfilled : painted.FilledIn
      (painted.answer "rooms" (.table (colours.put "a" (.text "grey")))) := by
    apply Snapshot.FilledIn.answer
    intro a hget _
    obtain rfl : .table colours = a := Option.some.inj hget
    refine .table (.put ?_)
    intro blank hblank
    obtain rfl : .text " " = blank := Option.some.inj hblank
    decide
  have hshows : flat.shows painted {} quote = true := by decide
  exact ⟨⟨hpositive, hfilled, hshows⟩,
    shows_of_filledIn flat quote hpositive painted _ hfilled {} hshows⟩

end Survey

end Questionnaire
