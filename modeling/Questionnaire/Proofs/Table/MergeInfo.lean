import Questionnaire.Proofs.Table.Merge

/-!
# What is said about a group of merged rows

The list of merged rows, the record about a merged row and the cell that holds its value all come
from one span, so that they agree: the record lists the merged rows, starts with the first of them,
and the value is in the cell of that row. Only the flag of the record can go astray. It is read off
the cell that covers the row, before the span is cut at the end of the table: a cell of the last row
that spans rows below it makes a group of one row, which is flagged as merged (`Overhangs`). The main
statement says that the flag is right everywhere else.
-/

namespace Questionnaire.Table

variable {rows : List Row} {col i : Nat} {id : String} {span : Span}

/-! ## The rows of a span -/

theorem head?_slice (h : span.start < span.stop) :
    (span.slice rows).head? = rows[span.start]? := by
  unfold Span.slice
  rw [List.head?_drop, List.getElem?_take_of_lt h]

theorem length_slice (h : span.stop ≤ rows.length) :
    (span.slice rows).length = span.stop - span.start := by
  unfold Span.slice
  rw [List.length_drop, List.length_take, Nat.min_eq_left h]

/-! ## The group of an id -/

theorem groupSpan?_eq_some_iff : groupSpan? id rows col = some span ↔
    ∃ i, rowPosition? id rows = some i ∧ mergeSpan? rows i col = some span :=
  Option.bind_eq_some_iff

theorem lt_length_of_rowPosition? (h : rowPosition? id rows = some i) : i < rows.length := by
  obtain ⟨r, hr, -⟩ := getElem?_of_rowPosition? h
  exact (List.getElem?_eq_some_iff.mp hr).1

/-- A group lies in the table and is not empty. -/
theorem bounds_of_groupSpan? (h : groupSpan? id rows col = some span) :
    span.start < span.stop ∧ span.stop ≤ rows.length := by
  obtain ⟨i, hi, hspan⟩ := groupSpan?_eq_some_iff.mp h
  obtain ⟨hle, hlt, hstop⟩ := mem_of_mergeSpan? (lt_length_of_rowPosition? hi) hspan
  exact ⟨Nat.lt_of_le_of_lt hle hlt, hstop⟩

theorem exists_startRow (h : groupSpan? id rows col = some span) :
    ∃ r, rows[span.start]? = some r ∧ (mergeInfo id rows col).startRowId = r.id := by
  obtain ⟨hlt, hstop⟩ := bounds_of_groupSpan? h
  have hrow := List.getElem?_eq_getElem (l := rows) (Nat.lt_of_lt_of_le hlt hstop)
  refine ⟨_, hrow, ?_⟩
  simp only [mergeInfo, h, hrow, Option.map_some, Option.getD_some]

theorem startRowId_of_alone (h : groupSpan? id rows col = none) :
    (mergeInfo id rows col).startRowId = id := by
  simp only [mergeInfo, h]

theorem rowIds_mergeInfo (id : String) (rows : List Row) (col : Nat) :
    (mergeInfo id rows col).rowIds = mergedRowIds id rows col := by
  unfold mergeInfo mergedRowIds
  cases groupSpan? id rows col <;> rfl

theorem isMerged_mergeInfo (id : String) (rows : List Row) (col : Nat) :
    (mergeInfo id rows col).isMerged = (groupSpan? id rows col).isSome := by
  unfold mergeInfo
  cases groupSpan? id rows col <;> rfl

/-- The record about a row names the first of the merged rows. -/
theorem head?_mergedRowIds (id : String) (rows : List Row) (col : Nat) :
    (mergedRowIds id rows col).head? = some (mergeInfo id rows col).startRowId := by
  cases hgroup : groupSpan? id rows col with
  | none => rw [startRowId_of_alone hgroup, mergedRowIds, hgroup, List.head?_cons]
  | some span =>
    obtain ⟨r, hr, hstart⟩ := exists_startRow hgroup
    have hhead : (span.slice rows).head? = rows[span.start]? :=
      head?_slice (bounds_of_groupSpan? hgroup).1
    simp only [mergedRowIds, hgroup, List.head?_map, hhead, hr, hstart, Option.map_some]

theorem length_mergedRowIds (h : groupSpan? id rows col = some span) :
    (mergedRowIds id rows col).length = span.stop - span.start := by
  simp only [mergedRowIds, h, List.length_map]
  exact length_slice (bounds_of_groupSpan? h).2

/-! ## The cell that holds the value -/

theorem rowPosition?_eq_none_iff : rowPosition? id rows = none ↔ ∀ r ∈ rows, r.id ≠ id := by
  simp [rowPosition?, List.findIdx?_eq_none_iff]

/-- The value of a row is in the cell of the row that starts its group. -/
theorem ownerCell?_eq_some_iff (hids : (rows.map (·.id)).Nodup) {c : Cell} :
    ownerCell? id rows col = some c ↔
      ∃ r ∈ rows, r.id = (mergeInfo id rows col).startRowId ∧ r.cells[col]? = some c := by
  -- the row of an id is the only one that has it
  have hrow {k : Nat} {start : Row} (hstart : rows[k]? = some start) :
      cellAt? rows k col = some c ↔ ∃ r ∈ rows, r.id = start.id ∧ r.cells[col]? = some c := by
    rw [cellAt?, hstart, Option.bind_some]
    constructor
    · exact fun hc => ⟨start, List.mem_of_getElem? hstart, rfl, hc⟩
    · rintro ⟨r, hr, hid, hc⟩
      rwa [← List.inj_on_of_nodup_map hids hr (List.mem_of_getElem? hstart) hid]
  cases hi : rowPosition? id rows with
  | none =>
    have halone : groupSpan? id rows col = none := by rw [groupSpan?, hi, Option.bind_none]
    rw [ownerCell?, hi, Option.bind_none, startRowId_of_alone halone]
    constructor
    · intro hnone
      cases hnone
    · rintro ⟨r, hr, hid, -⟩
      exact absurd hid (rowPosition?_eq_none_iff.mp hi r hr)
  | some i =>
    rw [ownerCell?, hi, Option.bind_some]
    cases hspan : mergeSpan? rows i col with
    | none =>
      have halone : groupSpan? id rows col = none := by
        rw [groupSpan?, hi, Option.bind_some, hspan]
      obtain ⟨r, hr, rfl⟩ := getElem?_of_rowPosition? hi
      rw [startRowId_of_alone halone]
      exact hrow hr
    | some span =>
      obtain ⟨r, hr, hstart⟩ := exists_startRow (groupSpan?_eq_some_iff.mpr ⟨i, hi, hspan⟩)
      rw [hstart]
      exact hrow hr

/-! ## The flag -/

/-- The row with this id is the last one, and its own cell spans rows below it. -/
def Overhangs (rows : List Row) (id : String) (col : Nat) : Prop :=
  ∃ r ∈ rows.getLast?, r.id = id ∧ ∃ c ∈ r.cells[col]?, 1 < c.span

instance (rows : List Row) (id : String) (col : Nat) : Decidable (Overhangs rows id col) :=
  inferInstanceAs (Decidable (∃ r ∈ rows.getLast?, r.id = id ∧ ∃ c ∈ r.cells[col]?, 1 < c.span))

/-- A cell that spans several rows covers its own row. -/
theorem mergeSpan?_of_span {c : Cell} (hc : cellAt? rows i col = some c) (h : 1 < c.span) :
    mergeSpan? rows i col = some ⟨i, min (i + c.span) rows.length⟩ := by
  rw [mergeSpan?_eq_some_iff]
  exact ⟨i, Nat.le_refl i, c, hc, ⟨h, by omega⟩, fun k hk hki => by omega, rfl⟩

/-- Below the last row there is nothing to merge it with. -/
theorem groupSpan?_of_overhangs (hids : (rows.map (·.id)).Nodup) (h : Overhangs rows id col) :
    ∃ i, groupSpan? id rows col = some ⟨i, i + 1⟩ := by
  obtain ⟨r, hlast, rfl, c, hc, hspan⟩ := h
  rw [Option.mem_def, List.getLast?_eq_getElem?] at hlast
  have hpos : rows.length - 1 < rows.length := (List.getElem?_eq_some_iff.mp hlast).1
  have hcell : cellAt? rows (rows.length - 1) col = some c := by
    rw [cellAt?, hlast, Option.bind_some, Option.mem_def.mp hc]
  refine ⟨rows.length - 1, groupSpan?_eq_some_iff.mpr
    ⟨rows.length - 1, rowPosition?_of_getElem? hids hlast, ?_⟩⟩
  rw [mergeSpan?_of_span hcell hspan, Option.some.injEq, Span.mk.injEq]
  omega

/-- A group of one row is cut off by the end of the table. -/
theorem overhangs_of_groupSpan? (h : groupSpan? id rows col = some span)
    (hone : span.stop - span.start < 2) : Overhangs rows id col := by
  obtain ⟨i, hi, hspan⟩ := groupSpan?_eq_some_iff.mp h
  obtain ⟨r, hr, hid⟩ := getElem?_of_rowPosition? hi
  have hlt := lt_length_of_rowPosition? hi
  obtain ⟨start, hle, c, hc, ⟨hseveral, hreach⟩, -, rfl⟩ := mergeSpan?_eq_some_iff.mp hspan
  -- what covers the row is its own cell, and no row follows
  obtain ⟨rfl, hend⟩ : start = i ∧ i = rows.length - 1 := by
    simp only at hone
    omega
  refine ⟨r, ?_, hid, c, ?_, hseveral⟩
  · rw [Option.mem_def, List.getLast?_eq_getElem?, ← hend, hr]
  · rwa [cellAt?, hr, Option.bind_some] at hc

/-- The flag says that there are several merged rows, or that the cell overhangs. -/
theorem isMerged_iff (hids : (rows.map (·.id)).Nodup) :
    (mergeInfo id rows col).isMerged = true ↔
      2 ≤ (mergedRowIds id rows col).length ∨ Overhangs rows id col := by
  rw [isMerged_mergeInfo]
  cases hgroup : groupSpan? id rows col with
  | none =>
    simp only [Option.isSome_none, Bool.false_eq_true, false_iff]
    rintro (hlength | hover)
    · rw [mergedRowIds, hgroup] at hlength
      exact absurd hlength (by simp)
    · obtain ⟨i, hi⟩ := groupSpan?_of_overhangs hids hover
      rw [hgroup] at hi
      cases hi
  | some span =>
    simp only [Option.isSome_some, true_iff, length_mergedRowIds hgroup]
    rcases Nat.lt_or_ge (span.stop - span.start) 2 with hone | hseveral
    · exact .inr (overhangs_of_groupSpan? hgroup hone)
    · exact .inl hseveral

/-- What overhangs is merged with no other row. -/
theorem mergedRowIds_of_overhangs (hids : (rows.map (·.id)).Nodup) (h : Overhangs rows id col) :
    mergedRowIds id rows col = [id] := by
  obtain ⟨i, hi⟩ := groupSpan?_of_overhangs hids h
  obtain ⟨a, ha⟩ := List.length_eq_one_iff.mp ((length_mergedRowIds hi).trans (by simp))
  have hself := self_mem_mergedRowIds id rows col
  rw [ha, List.mem_singleton] at hself
  rw [ha, hself]

/-- **All that is said about a merged row agrees**, known or not: the record lists the merged rows,
of which the row is one, and names the first of them, whose cell holds the value. The record flags a
row as merged exactly if it lists several rows, unless the row is the last one of the table and its
cell overhangs; such a row is flagged although it is merged with no other. -/
theorem mergeInfo_agrees (rows : List Row) (hids : (rows.map (·.id)).Nodup) (id : String)
    (col : Nat) :
    (mergeInfo id rows col).rowIds = mergedRowIds id rows col ∧
    id ∈ mergedRowIds id rows col ∧
    (mergedRowIds id rows col).head? = some (mergeInfo id rows col).startRowId ∧
    (∀ c, ownerCell? id rows col = some c ↔
      ∃ r ∈ rows, r.id = (mergeInfo id rows col).startRowId ∧ r.cells[col]? = some c) ∧
    (((mergeInfo id rows col).isMerged = true ↔ 2 ≤ (mergedRowIds id rows col).length) ↔
      ¬ Overhangs rows id col) ∧
    (Overhangs rows id col →
      (mergeInfo id rows col).isMerged = true ∧ mergedRowIds id rows col = [id]) := by
  refine ⟨rowIds_mergeInfo id rows col, self_mem_mergedRowIds id rows col,
    head?_mergedRowIds id rows col, fun c => ownerCell?_eq_some_iff hids, ?_, ?_⟩
  · rw [isMerged_iff hids]
    constructor
    · intro hflag hover
      have hseveral := hflag.mp (.inr hover)
      rw [mergedRowIds_of_overhangs hids hover] at hseveral
      exact absurd hseveral (by simp)
    · exact fun hnot => or_iff_left hnot
  · intro hover
    exact ⟨(isMerged_iff hids).mpr (.inr hover), mergedRowIds_of_overhangs hids hover⟩

/-- A table of three months, of which the last one is left over from a quarter. -/
def months : List Row :=
  [{ id := "april", cells := [{ id := "a", rowspan := some 2 }] },
    { id := "may", cells := [{ id := "m", isHidden := true }] },
    { id := "july", cells := [{ id := "j", rowspan := some 3 }] }]

/-- The value of the second month is in the cell of the first one, and the record about it is right.
The last month overhangs. -/
theorem mergeInfo_agrees_months :
    (months.map (·.id)).Nodup ∧
    mergeInfo "may" months 0 = ⟨true, "april", ["april", "may"]⟩ ∧
    "may" ∈ mergedRowIds "may" months 0 ∧
    (∃ r ∈ months, r.id = "april" ∧ r.cells[0]? = ownerCell? "may" months 0) ∧
    Overhangs months "july" 0 ∧ mergedRowIds "july" months 0 = ["july"] := by
  have hids : (months.map (·.id)).Nodup := by decide
  obtain ⟨-, hself, -, howner, -⟩ := mergeInfo_agrees months hids "may" 0
  obtain ⟨r, hr, hid, hcell⟩ := (howner _).mp rfl
  obtain ⟨-, -, -, -, -, halone⟩ := mergeInfo_agrees months hids "july" 0
  have hover : Overhangs months "july" 0 := by decide
  exact ⟨hids, by decide, hself, ⟨r, hr, hid, hcell⟩, hover, (halone hover).2⟩

/-- **A row that is merged with no other one may be flagged as merged**: the last month is. -/
theorem flagged_although_alone_july :
    (months.map (·.id)).Nodup ∧
      ¬ ((mergeInfo "july" months 0).isMerged = true ↔
        2 ≤ (mergedRowIds "july" months 0).length) := by
  decide

end Questionnaire.Table
