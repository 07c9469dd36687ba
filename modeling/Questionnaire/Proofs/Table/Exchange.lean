import Questionnaire.Route
import Questionnaire.Proofs.Table.Merge
import Questionnaire.Proofs.Table.Resolved
import Mathlib.Data.List.Forall2

/-!
# Merged rows are interchangeable

A rule may name any row of a group: in a well-formed column, putting one row of a group in the
place of another changes no result. The main statement follows such an exchange from the lookups
of single rows through the checks of a table to the rule that fires and the step that is taken.
-/

namespace Questionnaire

namespace Table

variable {rows : List Row} {col : Nat} {a b : String}

/-! ## What a check reads of a row -/

theorem hasColumn_row?_of_cellAt? {i : Nat} {c : Cell} (hi : rowPosition? a rows = some i)
    (hc : cellAt? rows i col = some c) :
    (row? a rows).any (Scope.hasColumn (some col)) = true := by
  obtain ⟨r, hr, hcell⟩ := Option.bind_eq_some_iff.mp hc
  have hlt := (List.getElem?_eq_some_iff.mp hcell).1
  rw [row?_eq_bind, hi, Option.bind_some, hr, Option.any_some]
  simpa [Scope.hasColumn] using hlt

/-- Of two merged rows both have the column, or neither has it. -/
theorem hasColumn_row?_eq_of_mem (hids : (rows.map (·.id)).Nodup)
    (hcol : WellFormedColumn rows col) (hb : b ∈ mergedRowIds a rows col) :
    (row? b rows).any (Scope.hasColumn (some col)) =
      (row? a rows).any (Scope.hasColumn (some col)) := by
  rcases group_of_mem hids hcol hb with rfl | ⟨i, j, span, hi, hj, hspan, hspan'⟩
  · rfl
  · have hcell : ∀ {id k}, rowPosition? id rows = some k → mergeSpan? rows k col = some span →
        ∃ c, cellAt? rows k col = some c := by
      intro id k hk hkspan
      obtain ⟨r, hr, -⟩ := getElem?_of_rowPosition? hk
      obtain ⟨hle, hlt, -⟩ := mem_of_mergeSpan? (List.getElem?_eq_some_iff.mp hr).1 hkspan
      exact exists_cellAt?_of_mem hcol hkspan hle hlt
    obtain ⟨c, hc⟩ := hcell hi hspan
    obtain ⟨c', hc'⟩ := hcell hj hspan'
    rw [hasColumn_row?_of_cellAt? hi hc, hasColumn_row?_of_cellAt? hj hc']

/-- A check with a column covers the groups of its rows. -/
theorem mem_coveredRows {s : Scope} {c : Check} (hcol : c.column = some col) {id : String} :
    id ∈ s.coveredRows c ↔ id ∈ c.rowIds.flatMap fun x => mergedRowIds x s.rows col := by
  rw [Scope.mem_coveredRows_iff, List.mem_flatMap, hcol]
  refine exists_congr fun x => and_congr_right fun _ => ?_
  simp only [withMerged, scopeColumns, List.flatMap_singleton, List.mem_cons]
  constructor
  · rintro (rfl | hid)
    · exact self_mem_mergedRowIds _ _ _
    · exact hid
  · exact .inr

theorem rowCells_eq_of_mem {s : Scope} {c : Check} (hids : (s.rows.map (·.id)).Nodup)
    (hcol : WellFormedColumn s.rows col) (hc : c.column = some col)
    (hb : b ∈ mergedRowIds a s.rows col) : s.rowCells c b = s.rowCells c a := by
  simp only [Scope.rowCells, hc, scopeColumns, List.filterMap_cons, List.filterMap_nil,
    ownerCell?_eq_of_mem hids hcol hb]

/-! ## Exchanging rows in a check -/

/-- A list of rows in which some occurrences of `a` are replaced by `b`. -/
def Replaced (a b : String) (ids ids' : List String) : Prop :=
  List.Forall₂ (fun x y => y = x ∨ x = a ∧ y = b) ids ids'

/-- A check that is the same, or is about a column and has some occurrences of row `a` replaced
by row `b`. -/
inductive Check.Exchanged (col : Nat) (a b : String) (c : Check) : Check → Prop
  | same : Exchanged col a b c c
  | replaced {ids : List String} : c.column = some col → Replaced a b c.rowIds ids →
      Exchanged col a b c { c with rowIds := ids }

/-- Whatever takes one value on merged rows takes the same values on both lists. -/
theorem Replaced.map_eq {β : Type} {f : String → β} {ids ids' : List String}
    (h : Replaced a b ids ids') (hf : f b = f a) : ids'.map f = ids.map f := by
  induction h with
  | nil => rfl
  | cons hxy _ ih =>
    rcases hxy with rfl | ⟨rfl, rfl⟩
    · rw [List.map_cons, List.map_cons, ih]
    · rw [List.map_cons, List.map_cons, ih, hf]

section

variable {s : Scope} {c c' : Check} (hids : (s.rows.map (·.id)).Nodup)
  (hcol : WellFormedColumn s.rows col) (hb : b ∈ mergedRowIds a s.rows col)
  (h : c.Exchanged col a b c')
include hids hcol hb h

theorem resolves_exchanged : s.resolves c' = s.resolves c := by
  cases h with
  | same => rfl
  | @replaced ids hc hreplaced =>
    have hempty : ids.isEmpty = c.rowIds.isEmpty := by
      have hlen := List.Forall₂.length_eq hreplaced
      rw [Bool.eq_iff_iff, List.isEmpty_iff_length_eq_zero, List.isEmpty_iff_length_eq_zero, hlen]
    have hmap := hreplaced.map_eq (f := fun id => (row? id s.rows).any (Scope.hasColumn (some col)))
      (hasColumn_row?_eq_of_mem hids hcol hb)
    have hall := congrArg (List.all · id) hmap
    simp only [List.all_map, Function.id_comp] at hall
    unfold Scope.resolves
    rw [hempty]
    simp only [Check.column] at hc ⊢
    rw [hc]
    exact congrArg _ hall

theorem mem_coveredRows_exchanged (id : String) :
    id ∈ s.coveredRows c' ↔ id ∈ s.coveredRows c := by
  cases h with
  | same => exact Iff.rfl
  | @replaced ids hc hreplaced =>
    have hmap := hreplaced.map_eq (f := fun x => mergedRowIds x s.rows col)
      (mergedRowIds_eq_of_mem hids hcol hb)
    have hc' : Check.column { c with rowIds := ids } = some col := hc
    rw [mem_coveredRows hc, mem_coveredRows hc', List.flatMap_def, List.flatMap_def, hmap]

omit hids hcol hb in
theorem rowHit_exchanged (id : String) : s.rowHit c' id = s.rowHit c id := by
  cases h <;> rfl

theorem satisfied_exchanged (how : Combinator) : s.satisfied c' how = s.satisfied c how :=
  Scope.satisfied_congr (resolves_exchanged hids hcol hb h)
    (mem_coveredRows_exchanged hids hcol hb h) (rowHit_exchanged h) how

theorem exclusive_exchanged : s.exclusive c' = s.exclusive c :=
  Scope.exclusive_congr (resolves_exchanged hids hcol hb h)
    (mem_coveredRows_exchanged hids hcol hb h) (rowHit_exchanged h) rfl

theorem selectedValues_exchanged : s.selectedValues c' = s.selectedValues c := by
  cases h with
  | same => rfl
  | @replaced ids hc hreplaced =>
    have hcells := rowCells_eq_of_mem (s := s) hids hcol hc hb
    have hmap := hreplaced.map_eq
      (f := fun id => ((s.rowCells c id).filter fun cell => cell.kind.isInteractive).flatMap
        s.selectedIn) (by rw [hcells])
    unfold Scope.selectedValues
    rw [List.flatMap_def, List.flatMap_def]
    exact congrArg List.flatten hmap

theorem holds_exchanged : s.holds c' = s.holds c := by
  have htype : c'.type = c.type := by cases h <;> rfl
  unfold Scope.holds
  rw [htype, satisfied_exchanged hids hcol hb h]

end

end Table

open Table

/-! ## Exchanging rows in the rules of a question -/

/-- A rule whose checks are exchanged. -/
def Rule.Exchanged (col : Nat) (a b : String) (r r' : Rule) : Prop :=
  ∃ check extra, r.check.Exchanged col a b check ∧
    Option.Rel (Check.Exchanged col a b) r.extra extra ∧ r' = { r with check, extra }

section

variable {s : Scope} {col : Nat} {a b : String} {r r' : Rule}
  (hids : (s.rows.map (·.id)).Nodup) (hcol : WellFormedColumn s.rows col)
  (hb : b ∈ mergedRowIds a s.rows col)
include hids hcol hb

theorem fires_exchanged (h : r.Exchanged col a b r') : r'.fires s = r.fires s := by
  obtain ⟨check, extra, hcheck, hextra, rfl⟩ := h
  have hprimary : Rule.primaryHolds { r with check, extra } s = r.primaryHolds s := by
    unfold Rule.primaryHolds
    simp only [satisfied_exchanged hids hcol hb hcheck, exclusive_exchanged hids hcol hb hcheck]
  unfold Rule.fires
  rw [hprimary]
  generalize r.extra = e at hextra ⊢
  cases hextra with
  | none => rfl
  | some hc => rw [Option.all_some, Option.all_some, holds_exchanged hids hcol hb hc]

theorem chosenTarget?_exchanged (h : r.Exchanged col a b r') :
    r'.chosenTarget? s = r.chosenTarget? s := by
  obtain ⟨check, extra, hcheck, hextra, rfl⟩ := h
  have hselector : r.selector.Exchanged col a b (Rule.selector { r with check, extra }) := by
    unfold Rule.selector
    generalize r.extra = e at hextra ⊢
    cases hextra with
    | none => exact hcheck
    | some hc => exact hc
  unfold Rule.chosenTarget?
  rw [selectedValues_exchanged hids hcol hb hselector]
  rfl

omit hids hcol hb in
theorem map_id_eq_of_exchanged {fired fired' : Option Rule}
    (h : Option.Rel (Rule.Exchanged col a b) fired fired') :
    fired'.map (·.id) = fired.map (·.id) := by
  cases h with
  | none => rfl
  | some hr =>
    obtain ⟨check, extra, -, -, rfl⟩ := hr
    rfl

/-- The first rule that fires stands at the same place of both lists. -/
theorem find?_fires_exchanged {rules rules' : List Rule}
    (h : List.Forall₂ (Rule.Exchanged col a b) rules rules') :
    Option.Rel (Rule.Exchanged col a b) (rules.find? (·.fires s)) (rules'.find? (·.fires s)) := by
  induction h with
  | nil => exact .none
  | @cons r r' rules rules' hr _ ih =>
    rw [List.find?_cons, List.find?_cons, fires_exchanged hids hcol hb hr]
    cases r.fires s with
    | true => exact .some hr
    | false => exact ih

end

/-- Positions of ids are the same in question lists with the same ids. -/
theorem questionIndex?_congr {questions questions' : List Question}
    (h : questions'.map (·.id) = questions.map (·.id)) (id : String) :
    questionIndex? id questions' = questionIndex? id questions := by
  have hmap : ∀ qs : List Question, questionIndex? id qs = (qs.map (·.id)).findIdx? (· == id) := by
    intro qs
    rw [List.findIdx?_map]
    rfl
  rw [hmap, hmap, h]

theorem following_congr {questions questions' : List Question}
    (h : questions'.map (·.id) = questions.map (·.id)) (current : Nat) :
    following questions' current = following questions current := by
  have hlen : questions'.length = questions.length := by simpa using congrArg List.length h
  unfold following
  rw [hlen]

/-- A step depends on the questions through their ids alone. -/
theorem Rule.step_congr {questions questions' : List Question}
    (h : questions'.map (·.id) = questions.map (·.id)) (r : Rule) (s : Scope) (current : Nat) :
    r.step s questions' current = r.step s questions current := by
  unfold Rule.step
  simp only [questionIndex?_congr h, following_congr h]

theorem step_exchanged {s : Scope} {col : Nat} {a b : String} {r r' : Rule}
    (hids : (s.rows.map (·.id)).Nodup) (hcol : WellFormedColumn s.rows col)
    (hb : b ∈ mergedRowIds a s.rows col) (h : r.Exchanged col a b r')
    (questions : List Question) (current : Nat) :
    r'.step s questions current = r.step s questions current := by
  have htarget := chosenTarget?_exchanged hids hcol hb h
  obtain ⟨check, extra, -, -, rfl⟩ := h
  unfold Rule.step
  simp only [htarget]

theorem map_id_set {questions : List Question} {current : Nat} {q q' : Question}
    (hq : questions[current]? = some q) (hid : q'.id = q.id) :
    (questions.set current q').map (·.id) = questions.map (·.id) := by
  have hmap : (questions.map (·.id))[current]? = some q'.id := by
    rw [List.getElem?_map, hq, Option.map_some, hid]
  obtain ⟨_, heq⟩ := List.getElem?_eq_some_iff.mp hmap
  rw [List.map_set, ← heq, List.set_getElem_self]

/-! ## Exchanging rows in a question -/

section

variable {q : Question} {rules : List Rule} {col : Nat} {a b : String}
  (hids : (q.rows.map (·.id)).Nodup) (hcol : WellFormedColumn q.rows col)
  (hb : b ∈ mergedRowIds a q.rows col)
  (hrules : List.Forall₂ (Rule.Exchanged col a b) q.rules rules)
include hids hcol hb hrules

/-- Of the exchanged rules the one fires that takes the place of the rule that fired. -/
theorem firedRule?_exchanged (answer : Option Answer) (options : Options) :
    Option.Rel (Rule.Exchanged col a b) (q.firedRule? answer options)
      (Question.firedRule? { q with rules } answer options) := by
  have htable : Question.isTable { q with rules } = q.isTable := rfl
  unfold Question.firedRule?
  rw [htable]
  cases q.isTable with
  | false => exact .none
  | true => exact find?_fires_exchanged (s := q.scope answer options) hids hcol hb hrules

theorem resolve_exchanged {questions : List Question} {current : Nat}
    (hq : questions[current]? = some q) (answer : Option Answer) (options : Options) :
    resolve (questions.set current { q with rules }) current answer options =
      resolve questions current answer options := by
  have hset : (questions.set current { q with rules })[current]? = some { q with rules } :=
    List.getElem?_set_self (List.getElem?_eq_some_iff.mp hq).1
  have hsame : (questions.set current { q with rules }).map (·.id) = questions.map (·.id) :=
    map_id_set hq rfl
  have hrel := firedRule?_exchanged hids hcol hb hrules answer options
  unfold resolve
  rw [hset, hq]
  simp only
  generalize q.firedRule? answer options = fired at hrel ⊢
  generalize Question.firedRule? { q with rules } answer options = fired' at hrel ⊢
  cases hrel with
  | none => simp only [following_congr hsame]
  | @some r r' hr =>
    exact (Rule.step_congr hsame r' _ current).trans
      (step_exchanged (s := q.scope answer options) hids hcol hb hr questions current)

end

/-- **Merged rows are interchangeable.** In a table with distinct row ids and a well-formed column,
let `b` be merged with `a`. Both have the same group, information and owner; a check about the
column in which occurrences of `a` are replaced by `b` is satisfied under the same combinators, is
as exclusive, and selects the same values; and a table question whose rules have such checks fires
the same rule and leads to the same step. -/
theorem merged_rows_interchangeable (rows : List Row) (hids : (rows.map (·.id)).Nodup) (col : Nat)
    (hcol : WellFormedColumn rows col) (a b : String) (hb : b ∈ mergedRowIds a rows col) :
    (mergedRowIds b rows col = mergedRowIds a rows col ∧
      mergeInfo b rows col = mergeInfo a rows col ∧
      ownerCell? b rows col = ownerCell? a rows col) ∧
    (∀ (cells : TableAnswer) (options : Options) (c : Check) (ids : List String),
      c.column = some col → Replaced a b c.rowIds ids →
      (∀ how, Scope.satisfied ⟨rows, cells, options⟩ { c with rowIds := ids } how =
        Scope.satisfied ⟨rows, cells, options⟩ c how) ∧
      Scope.exclusive ⟨rows, cells, options⟩ { c with rowIds := ids } =
        Scope.exclusive ⟨rows, cells, options⟩ c ∧
      Scope.selectedValues ⟨rows, cells, options⟩ { c with rowIds := ids } =
        Scope.selectedValues ⟨rows, cells, options⟩ c) ∧
    (∀ (questions : List Question) (current : Nat) (q : Question) (rules : List Rule),
      questions[current]? = some q → q.rows = rows →
      List.Forall₂ (Rule.Exchanged col a b) q.rules rules →
      ∀ (answer : Option Answer) (options : Options),
        (Question.firedRule? { q with rules := rules } answer options).map (·.id) =
          (q.firedRule? answer options).map (·.id) ∧
        resolve (questions.set current { q with rules := rules }) current answer options =
          resolve questions current answer options) := by
  refine ⟨⟨mergedRowIds_eq_of_mem hids hcol hb, mergeInfo_eq_of_mem hids hcol hb,
    ownerCell?_eq_of_mem hids hcol hb⟩, ?_, ?_⟩
  · intro cells options c ids hc hreplaced
    have hexchanged := Check.Exchanged.replaced hc hreplaced
    exact ⟨fun how => satisfied_exchanged (s := ⟨rows, cells, options⟩) hids hcol hb hexchanged how,
      exclusive_exchanged (s := ⟨rows, cells, options⟩) hids hcol hb hexchanged,
      selectedValues_exchanged (s := ⟨rows, cells, options⟩) hids hcol hb hexchanged⟩
  · rintro questions current q rules hq rfl hrules answer options
    refine ⟨?_, resolve_exchanged hids hcol hb hrules hq answer options⟩
    exact map_id_eq_of_exchanged (firedRule?_exchanged hids hcol hb hrules answer options)

/-- Five regions in two groups of merged rows. The cell of "east" would span five rows, of which
the table has three. -/
def regions : List Row :=
  [{ id := "north", cells := [{ id := "n", kind := .widget .checkbox, rowspan := some 2 }] },
    { id := "south", cells := [{ id := "s", isHidden := true }] },
    { id := "east", cells := [{ id := "e", kind := .widget .checkbox, rowspan := some 5 }] },
    { id := "west", cells := [{ id := "w", isHidden := true }] },
    { id := "coast", cells := [{ id := "c", isHidden := true }] }]

/-- A rule that leads to the sea if the group of this row is all that is filled in. -/
def toTheSea (rowId : String) : Rule :=
  { id := "coastal", kind := .exclusive, check := { rowIds := [rowId], columnIndex := some 0 }
    action := .jump, target := some "sea" }

/-- The question about `regions`, before one about the land and one about the sea. -/
def regionQuestions (rowId : String) : List Question :=
  [{ id := "regions", kind := .table, grid := regions, rules := [toTheSea rowId] },
    { id := "land", kind := .text },
    { id := "sea", kind := .text }]

/-- In the group that is clipped, the last row stands for the one in the middle: a rule about
either leads to the sea when the group is filled in. -/
theorem merged_rows_interchangeable_regions :
    ((regions.map (·.id)).Nodup ∧ WellFormedColumn regions 0 ∧
      "west" ∈ mergedRowIds "coast" regions 0) ∧
    mergeInfo "west" regions 0 = ⟨true, "east", ["east", "west", "coast"]⟩ ∧
    resolve (regionQuestions "west") 0 (some (.table (Entries.empty.put "e" (.text "x")))) {} =
      ⟨.question 2, .jumped "coastal" "sea"⟩ := by
  have hids : (regions.map (·.id)).Nodup := by decide
  have hcol : WellFormedColumn regions 0 := by decide
  have hmem : "west" ∈ mergedRowIds "coast" regions 0 := by decide
  obtain ⟨⟨-, hinfo, -⟩, -, hresolve⟩ :=
    merged_rows_interchangeable regions hids 0 hcol "coast" "west" hmem
  have hrules : List.Forall₂ (Rule.Exchanged 0 "coast" "west") [toTheSea "coast"]
      [toTheSea "west"] :=
    .cons ⟨_, none, .replaced rfl (.cons (.inr ⟨rfl, rfl⟩) .nil), .none, rfl⟩ .nil
  have hsame := (hresolve (regionQuestions "coast") 0 _ _ rfl rfl hrules
    (some (.table (Entries.empty.put "e" (.text "x")))) {}).2
  refine ⟨⟨hids, hcol, hmem⟩, hinfo.trans (by decide), Eq.trans hsame ?_⟩
  decide

end Questionnaire
