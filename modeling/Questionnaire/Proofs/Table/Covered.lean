import Questionnaire.Proofs.Table.Exchange
import Questionnaire.Proofs.Table.Monotone

/-!
# What lies under other cells is not read

When the rows of a grid are merged, values that were put into the lower cells before stay in the
answer. The main statement is that they are dead: in a well-formed grid, answers that differ only
in such values, in values of fixed cells or in values of cells that the grid does not have satisfy
the same checks, fire the same rule and lead to the same step.

Every value is read through the cell that `ownerCell?` finds, and only where a widget is. So it is
enough that this cell lies under no other one (`exists_place_of_owner`) and that cells are told
apart by their ids; from there on, two scopes that hold the same values in the cells that are read
(`Scope.ReadsAlike`) give the same results one function after the other.
-/

namespace Questionnaire

namespace Table

variable {rows : List Row} {col : Nat}

/-! ## Dead keys -/

/-- The row at `k` lies under a cell of the column that spans it from above. -/
def LiesUnder (rows : List Row) (col k : Nat) : Prop :=
  ∃ start < k, ∃ c, cellAt? rows start col = some c ∧ k < start + c.span

/-- The ids of the cells of a grid. -/
def cellIds (rows : List Row) : List String := rows.flatMap fun r => r.cells.map (·.id)

/-- A key whose value does not count: that of a cell which lies under another one, that of a cell
with fixed content, or one that no cell of the grid has. -/
inductive Dead (rows : List Row) (key : String) : Prop
  | covered {k col : Nat} {c : Cell} : cellAt? rows k col = some c → LiesUnder rows col k →
      c.id = key → Dead rows key
  | fixed {k col : Nat} {c : Cell} : cellAt? rows k col = some c → c.kind.isInteractive = false →
      c.id = key → Dead rows key
  | unknown : key ∉ cellIds rows → Dead rows key

theorem mem_cellIds_of_cellAt? {k : Nat} {c : Cell} (h : cellAt? rows k col = some c) :
    c.id ∈ cellIds rows := by
  obtain ⟨r, hr, hcell⟩ := Option.bind_eq_some_iff.mp h
  refine List.mem_flatMap.mpr ⟨r, List.mem_of_getElem? hr, ?_⟩
  exact List.mem_map.mpr ⟨c, List.mem_of_getElem? hcell, rfl⟩

/-- With distinct cell ids, an id leads to one place of the grid. -/
theorem place_eq_of_id_eq (hids : (cellIds rows).Nodup) {k k' col col' : Nat} {c c' : Cell}
    (hc : cellAt? rows k col = some c) (hc' : cellAt? rows k' col' = some c') (hid : c.id = c'.id) :
    k = k' ∧ col = col' := by
  obtain ⟨r, hr, hcell⟩ := Option.bind_eq_some_iff.mp hc
  obtain ⟨r', hr', hcell'⟩ := Option.bind_eq_some_iff.mp hc'
  obtain ⟨hwithin, hacross⟩ := List.nodup_flatMap.mp hids
  have hmem : c.id ∈ r.cells.map (·.id) := List.mem_map.mpr ⟨c, List.mem_of_getElem? hcell, rfl⟩
  have hmem' : c.id ∈ r'.cells.map (·.id) :=
    List.mem_map.mpr ⟨c', List.mem_of_getElem? hcell', hid.symm⟩
  obtain ⟨hk, rfl⟩ := List.getElem?_eq_some_iff.mp hr
  obtain ⟨hk', rfl⟩ := List.getElem?_eq_some_iff.mp hr'
  have hrow : k = k' := by
    rcases Nat.lt_trichotomy k k' with hlt | heq | hlt
    · exact absurd hmem' (List.pairwise_iff_getElem.mp hacross k k' hk hk' hlt hmem)
    · exact heq
    · exact absurd hmem (List.pairwise_iff_getElem.mp hacross k' k hk' hk hlt hmem')
  subst hrow
  exact ⟨rfl, eq_of_nodup_map (hwithin _ (List.getElem_mem hk)) hcell hcell' hid⟩

/-- In a well-formed column, the cell that holds the value of a row lies under no other one. -/
theorem exists_place_of_owner (hcol : WellFormedColumn rows col) {id : String} {c : Cell}
    (h : ownerCell? id rows col = some c) :
    ∃ k, cellAt? rows k col = some c ∧ ¬ LiesUnder rows col k := by
  unfold ownerCell? at h
  obtain ⟨i, -, hc⟩ := Option.bind_eq_some_iff.mp h
  cases hspan : mergeSpan? rows i col with
  | none =>
    rw [hspan] at hc
    have hi : i < rows.length := lt_length_of_cellAt? hc
    refine ⟨i, hc, ?_⟩
    -- a cell that spans row `i` would have been found by the search
    rintro ⟨start, hlt, above, habove, hspans⟩
    have hfound : mergeSpan? rows i col = some ⟨start, min (start + above.span) rows.length⟩ :=
      mergeSpan?_eq_some_iff.mpr ⟨start, Nat.le_of_lt hlt, above, habove, ⟨by omega, hspans⟩,
        fun k hk hki => letsPass_of_spanned hcol habove hk (by omega) (by omega) i, rfl⟩
    rw [hspan] at hfound
    cases hfound
  | some span =>
    rw [hspan] at hc
    obtain ⟨owner, -, c', hc', hreach, -, rfl⟩ := mergeSpan?_eq_some_iff.mp hspan
    refine ⟨owner, hc, ?_⟩
    -- a cell under another one spans its own row only, and this one spans more
    rintro ⟨start, hlt, above, habove, hspans⟩
    obtain ⟨hidden, hmem, -, hone⟩ := hcol start (lt_length_of_cellAt? habove) above habove owner
      (lt_length_of_cellAt? hc') hlt hspans
    rw [hc', Option.some.injEq] at hmem
    have hmore := hreach.1
    rw [hmem, hone] at hmore
    omega

/-- No value that is read stands under a dead key. -/
theorem not_dead_of_owner (hids : (cellIds rows).Nodup) (hcols : ∀ col, WellFormedColumn rows col)
    {id : String} {c : Cell} (h : ownerCell? id rows col = some c)
    (hc : c.kind.isInteractive = true) : ¬ Dead rows c.id := by
  obtain ⟨k, hk, hfree⟩ := exists_place_of_owner (hcols col) h
  intro hdead
  cases hdead with
  | covered hc' hunder hid =>
    obtain ⟨rfl, rfl⟩ := place_eq_of_id_eq hids hc' hk hid
    exact hfree hunder
  | fixed hc' hfixed hid =>
    obtain ⟨rfl, rfl⟩ := place_eq_of_id_eq hids hc' hk hid
    rw [hk, Option.some.injEq] at hc'
    rw [← hc', hc] at hfixed
    cases hfixed
  | unknown hnone => exact hnone (mem_cellIds_of_cellAt? hk)

/-! ## Checks read owners only -/

namespace Scope

variable {s s' : Scope} {check : Check} {id : String} {c : Cell}

theorem exists_owner_of_mem_rowCells (h : c ∈ s.rowCells check id) :
    ∃ col, ownerCell? id s.rows col = some c := by
  obtain ⟨col, -, hc⟩ := List.mem_filterMap.mp (List.mem_filter.mp h).1
  exact ⟨col, hc⟩

/-- Two scopes of one grid that hold the same values wherever values are read. -/
structure ReadsAlike (s s' : Scope) : Prop where
  rows : s'.rows = s.rows
  options : s'.options = s.options
  values : ∀ id col c, ownerCell? id s.rows col = some c → c.kind.isInteractive = true →
    s'.values c = s.values c

namespace ReadsAlike

variable (h : ReadsAlike s s')
include h

theorem rowCells_eq (id : String) : s'.rowCells check id = s.rowCells check id := by
  unfold rowCells
  rw [h.rows]

theorem cellHit_eq {expected : List String} (hc : c ∈ s.rowCells check id) :
    s'.cellHit expected c = s.cellHit expected c := by
  obtain ⟨col, howner⟩ := exists_owner_of_mem_rowCells hc
  cases hkind : c.kind with
  | widget w => exact cellHit_congr (h.values id col c howner (by rw [hkind]; rfl))
  | text => simp only [cellHit, hkind]
  | image => simp only [cellHit, hkind]

theorem rowHit_eq : s'.rowHit check = s.rowHit check := by
  funext id
  have hcell : ∀ c ∈ s.rowCells check id,
      s'.cellHit check.expected c = s.cellHit check.expected c := fun c hc => h.cellHit_eq hc
  unfold rowHit
  rw [h.rowCells_eq, h.options]
  simp only [any_eq_of_mem (fun _ => Iff.rfl) hcell, all_eq_of_mem (fun _ => Iff.rfl) hcell]

theorem satisfied_eq (how : Combinator) : s'.satisfied check how = s.satisfied check how := by
  unfold satisfied combined
  rw [resolves_congr h.rows, coveredRows_congr h.rows, h.rowHit_eq]

theorem exclusive_eq : s'.exclusive check = s.exclusive check := by
  unfold exclusive
  rw [resolves_congr h.rows, coveredRows_congr h.rows, h.rowHit_eq, h.rows]

theorem selectedValues_eq : s'.selectedValues check = s.selectedValues check := by
  unfold selectedValues
  refine List.flatMap_congr fun id _ => ?_
  rw [h.rowCells_eq]
  refine List.flatMap_congr fun c hc => ?_
  obtain ⟨hmem, hinteractive⟩ := List.mem_filter.mp hc
  obtain ⟨col, howner⟩ := exists_owner_of_mem_rowCells hmem
  unfold selectedIn
  rw [h.values id col c howner hinteractive]

end ReadsAlike

/-- Answers that differ under dead keys only hold the same values where any are read. -/
theorem readsAlike_of_dead {rows : List Row} (hids : (cellIds rows).Nodup)
    (hcols : ∀ col, WellFormedColumn rows col) {cells cells' : TableAnswer}
    (hdiff : ∀ key, cells'.get? key ≠ cells.get? key → Dead rows key) (options : Options) :
    ReadsAlike ⟨rows, cells, options⟩ ⟨rows, cells', options⟩ where
  rows := rfl
  options := rfl
  values := by
    intro id col c howner hinteractive
    have hsame : cells'.get? c.id = cells.get? c.id := by
      by_contra hne
      exact not_dead_of_owner hids hcols howner hinteractive (hdiff c.id hne)
    simp only [values, hsame]

end Scope

end Table

open Table

/-! ## Rules and steps -/

section

variable {s s' : Scope} (h : s.ReadsAlike s')
include h

theorem fires_of_readsAlike (r : Rule) : r.fires s' = r.fires s := by
  have hholds : s'.holds = s.holds := funext fun _ => h.satisfied_eq _
  unfold Rule.fires Rule.primaryHolds
  simp only [h.satisfied_eq, h.exclusive_eq, hholds]

theorem step_of_readsAlike (r : Rule) (questions : List Question) (current : Nat) :
    r.step s' questions current = r.step s questions current := by
  unfold Rule.step Rule.chosenTarget?
  rw [h.selectedValues_eq]

end

/-- **What lies under other cells is dead.** In a grid with distinct cell ids and well-formed
columns, let two answers to the question differ only under the ids of cells that lie under others,
under those of fixed cells, and under ids that no cell has. Then all checks are satisfied alike,
under every combinator and as exclusive ones, and the question fires the same rule and leads to the
same step. -/
theorem dead_entries_ignored (q : Question) (hids : (cellIds q.rows).Nodup)
    (hcols : ∀ col, WellFormedColumn q.rows col) (cells cells' : TableAnswer)
    (hdiff : ∀ key, cells'.get? key ≠ cells.get? key → Dead q.rows key) (options : Options) :
    (∀ check : Check,
      (∀ how, Scope.satisfied ⟨q.rows, cells', options⟩ check how =
        Scope.satisfied ⟨q.rows, cells, options⟩ check how) ∧
      Scope.exclusive ⟨q.rows, cells', options⟩ check =
        Scope.exclusive ⟨q.rows, cells, options⟩ check) ∧
    q.firedRule? (some (.table cells')) options = q.firedRule? (some (.table cells)) options ∧
    ∀ (questions : List Question) (current : Nat), questions[current]? = some q →
      resolve questions current (some (.table cells')) options =
        resolve questions current (some (.table cells)) options := by
  have hreads : Scope.ReadsAlike ⟨q.rows, cells, options⟩ ⟨q.rows, cells', options⟩ :=
    Scope.readsAlike_of_dead hids hcols hdiff options
  have hfired : q.firedRule? (some (.table cells')) options =
      q.firedRule? (some (.table cells)) options := by
    have hfires : ∀ r : Rule, r.fires (q.scope (some (.table cells')) options) =
        r.fires (q.scope (some (.table cells)) options) := fires_of_readsAlike hreads
    unfold Question.firedRule?
    simp only [hfires]
  refine ⟨fun check => ⟨hreads.satisfied_eq, hreads.exclusive_eq⟩, hfired, ?_⟩
  intro questions current hq
  unfold resolve
  rw [hq]
  simp only [hfired]
  cases q.firedRule? (some (.table cells)) options with
  | none => rfl
  | some r => exact step_of_readsAlike hreads r questions current

/-- Who opens and who closes a shop: one box for both shifts, with a box under it. A tick for the
closing shift leads to the keys. -/
def shifts : Question :=
  { id := "shifts", kind := .table
    grid :=
      [{ id := "open", cells :=
          [{ id := "morning" }, { id := "both", kind := .widget .checkbox, rowspan := some 2 }] },
        { id := "close", cells :=
          [{ id := "evening" }, { id := "late", kind := .widget .checkbox, isHidden := true }] }]
    rules := [{ id := "closing", kind := .anyOf, action := .jump, target := some "keys"
                check := { rowIds := ["close"] } }] }

/-- The question about shifts, before one about holidays and one about keys. -/
def shopQuestions : List Question :=
  [shifts, { id := "holidays", kind := .text }, { id := "keys", kind := .text }]

/-- What an earlier grid left: a tick in the box that is covered now, a text where a label is now,
and one for a cell that is gone. -/
def leftover : TableAnswer :=
  ((Entries.empty.put "late" (.selections ["yes"])).put "evening" (.text "x")).put "noon" (.text "x")

theorem dead_of_leftover (key : String) (h : leftover.get? key ≠ Entries.empty.get? key) :
    Dead shifts.rows key := by
  simp only [leftover, Entries.get?_put, Entries.get?_empty] at h
  split at h
  · subst key
    exact .unknown (by decide)
  · split at h
    · exact .fixed (show cellAt? shifts.rows 1 0 = some _ from rfl) rfl ‹_›
    · split at h
      · exact .covered (show cellAt? shifts.rows 1 1 = some _ from rfl)
          ⟨0, by decide, _, rfl, by decide⟩ ‹_›
      · exact absurd rfl h

/-- The tick in the box that is covered leads nobody to the keys. -/
theorem dead_entries_ignored_shifts :
    ((cellIds shifts.rows).Nodup ∧ (∀ col, WellFormedColumn shifts.rows col) ∧
      ∀ key, leftover.get? key ≠ Entries.empty.get? key → Dead shifts.rows key) ∧
    resolve shopQuestions 0 (some (.table leftover)) {} = ⟨.question 1, .inOrder⟩ := by
  have hids : (cellIds shifts.rows).Nodup := by decide
  have hcols : ∀ col, WellFormedColumn shifts.rows col :=
    wellFormedColumn_of_width (n := 2) (by decide) (by decide)
  refine ⟨⟨hids, hcols, dead_of_leftover⟩, ?_⟩
  have hsame := (dead_entries_ignored shifts hids hcols .empty leftover dead_of_leftover {}).2.2
    shopQuestions 0 rfl
  rw [hsame]
  decide

end Questionnaire
