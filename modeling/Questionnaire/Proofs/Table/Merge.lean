import Questionnaire.Proofs.Lists
import Questionnaire.Table.Merge

/-!
# Groups of merged rows

`mergeSpan?` searches upwards for the cell that covers a row. Its result is described here without
the search: the covering cell is the nearest one below which nothing stops the search. In a column
that is well formed, all rows that a cell covers have the same span, so that merging puts the rows
into groups: every row of a group has the same group, the same information and the same owner.
-/

namespace Questionnaire.Table

variable {rows : List Row} {col : Nat}

theorem lt_length_of_cellAt? {i : Nat} {c : Cell} (h : cellAt? rows i col = some c) :
    i < rows.length := by
  unfold cellAt? at h
  obtain ⟨r, hr, -⟩ := Option.bind_eq_some_iff.mp h
  exact (List.getElem?_eq_some_iff.mp hr).1

/-! ## The search for the covering cell -/

/-- A cell reaches the row at `index` from position `start`, spanning more than its own row. -/
def Reaches (index start : Nat) (c : Cell) : Prop := 1 < c.span ∧ index < start + c.span

instance (index start : Nat) (c : Cell) : Decidable (Reaches index start c) :=
  inferInstanceAs (Decidable (1 < c.span ∧ index < start + c.span))

/-- A row lets the search pass: it lacks the column, or its cell is hidden and does not reach. -/
def LetsPass (rows : List Row) (index col k : Nat) : Prop :=
  ∀ c, cellAt? rows k col = some c → c.isHidden = true ∧ ¬ Reaches index k c

/-- The search finds the nearest cell that reaches the row, if all rows below that cell let it
pass. -/
theorem coverBelow_eq_some_iff {index bound : Nat} {span : Span} :
    coverBelow rows index col bound = some span ↔
      ∃ start < bound, ∃ c, cellAt? rows start col = some c ∧ Reaches index start c ∧
        (∀ k, start < k → k < bound → LetsPass rows index col k) ∧
        span = ⟨start, min (start + c.span) rows.length⟩ := by
  induction bound with
  | zero => simp [coverBelow]
  | succ bound ih =>
    -- a cell above `bound` is found exactly if the row at `bound` lets the search pass
    have habove (hpass : LetsPass rows index col bound) :
        coverBelow rows index col bound = some span ↔
          ∃ start < bound + 1, ∃ c, cellAt? rows start col = some c ∧ Reaches index start c ∧
            (∀ k, start < k → k < bound + 1 → LetsPass rows index col k) ∧
            span = ⟨start, min (start + c.span) rows.length⟩ := by
      rw [ih]
      constructor
      · rintro ⟨start, hlt, c, hc, hreach, hbetween, hspan⟩
        refine ⟨start, by omega, c, hc, hreach, fun k hk hkb => ?_, hspan⟩
        rcases Nat.lt_or_eq_of_le (Nat.le_of_lt_succ hkb) with hkb | rfl
        · exact hbetween k hk hkb
        · exact hpass
      · rintro ⟨start, hlt, c, hc, hreach, hbetween, hspan⟩
        have hne : start ≠ bound := fun heq => (hpass c (heq ▸ hc)).2 (heq ▸ hreach)
        exact ⟨start, by omega, c, hc, hreach, fun k hk hkb => hbetween k hk (by omega), hspan⟩
    rw [coverBelow]
    cases hcell : cellAt? rows bound col with
    | none => exact habove fun c hc => by rw [hcell] at hc; cases hc
    | some cell =>
      by_cases hreach : Reaches index bound cell
      · -- the nearest row itself reaches
        simp only [if_pos (show 1 < cell.span ∧ index < bound + cell.span from hreach),
          Option.some.injEq]
        constructor
        · rintro rfl
          exact ⟨bound, by omega, cell, hcell, hreach, fun k hk hkb => by omega, rfl⟩
        · rintro ⟨start, hlt, c, hc, hreach', hbetween, rfl⟩
          rcases Nat.lt_or_eq_of_le (Nat.le_of_lt_succ hlt) with hlt | rfl
          · exact absurd hreach (hbetween bound hlt (by omega) cell hcell).2
          · rw [hcell, Option.some.injEq] at hc
            rw [hc]
      · simp only [if_neg (show ¬ (1 < cell.span ∧ index < bound + cell.span) from hreach)]
        cases hhidden : cell.isHidden with
        | true =>
          simp only [if_true]
          refine habove fun c hc => ?_
          rw [hcell, Option.some.injEq] at hc
          exact hc ▸ ⟨hhidden, hreach⟩
        | false =>
          -- a visible cell that does not reach ends the search
          simp only [Bool.false_eq_true, if_false, reduceCtorEq, false_iff]
          rintro ⟨start, hlt, c, hc, hreach', hbetween, -⟩
          rcases Nat.lt_or_eq_of_le (Nat.le_of_lt_succ hlt) with hlt | rfl
          · have hpass := (hbetween bound hlt (by omega) cell hcell).1
            rw [hhidden] at hpass
            cases hpass
          · rw [hcell, Option.some.injEq] at hc
            exact hreach (hc ▸ hreach')

/-- The span of a row, without the search. -/
theorem mergeSpan?_eq_some_iff {index : Nat} {span : Span} :
    mergeSpan? rows index col = some span ↔
      ∃ start ≤ index, ∃ c, cellAt? rows start col = some c ∧ Reaches index start c ∧
        (∀ k, start < k → k ≤ index → LetsPass rows index col k) ∧
        span = ⟨start, min (start + c.span) rows.length⟩ := by
  unfold mergeSpan?
  simp only [coverBelow_eq_some_iff, Nat.lt_succ_iff]

/-- A span holds the row that it was found for, and lies in the table. -/
theorem mem_of_mergeSpan? {index : Nat} {span : Span} (hindex : index < rows.length)
    (h : mergeSpan? rows index col = some span) :
    span.start ≤ index ∧ index < span.stop ∧ span.stop ≤ rows.length := by
  obtain ⟨start, hle, c, -, hreach, -, rfl⟩ := mergeSpan?_eq_some_iff.mp h
  exact ⟨hle, Nat.lt_min.mpr ⟨hreach.2, hindex⟩, Nat.min_le_right _ _⟩

/-! ## Well-formed columns -/

/-- A row keeps a hidden cell in a column, which spans its own row only. -/
def IsCovered (rows : List Row) (col k : Nat) : Prop :=
  ∃ c, cellAt? rows k col = some c ∧ c.isHidden = true ∧ c.span = 1

instance (rows : List Row) (col k : Nat) : Decidable (IsCovered rows col k) :=
  decidable_of_iff ((cellAt? rows k col).any fun c => c.isHidden && c.span == 1) (by
    simp [IsCovered, Option.any_eq_true])

/-- Below every cell that spans several rows, each of these rows that exists is covered. -/
def WellFormedColumn (rows : List Row) (col : Nat) : Prop :=
  ∀ start < rows.length, ∀ cell ∈ cellAt? rows start col,
    ∀ k < rows.length, start < k → k < start + cell.span → IsCovered rows col k

instance (rows : List Row) (col : Nat) : Decidable (WellFormedColumn rows col) :=
  inferInstanceAs (Decidable (∀ start < rows.length, ∀ cell ∈ cellAt? rows start col,
    ∀ k < rows.length, start < k → k < start + cell.span → IsCovered rows col k))

/-- A grid whose rows have at most `n` cells is well formed from column `n` on. -/
theorem wellFormedColumn_of_width {n : Nat} (hwidth : ∀ r ∈ rows, r.cells.length ≤ n)
    (hcols : ∀ col < n, WellFormedColumn rows col) (col : Nat) : WellFormedColumn rows col := by
  by_cases hcol : col < n
  · exact hcols col hcol
  · intro start _ c hc
    obtain ⟨r, hr, hcell⟩ := Option.bind_eq_some_iff.mp hc
    have hlt := (List.getElem?_eq_some_iff.mp hcell).1
    have hle := hwidth r (List.mem_of_getElem? hr)
    omega

/-- The rows that a cell spans let the search for it pass. -/
theorem letsPass_of_spanned (hcol : WellFormedColumn rows col) {start k : Nat} {c : Cell}
    (hc : cellAt? rows start col = some c) (hk : start < k) (hspans : k < start + c.span)
    (hlen : k < rows.length) (index : Nat) : LetsPass rows index col k := by
  intro c' hc'
  obtain ⟨hidden, hmem, hisHidden, hspan⟩ :=
    hcol start (lt_length_of_cellAt? hc) c hc k hlen hk hspans
  rw [hc', Option.some.injEq] at hmem
  refine ⟨hmem ▸ hisHidden, fun hreach => ?_⟩
  have hone := hreach.1
  rw [hmem, hspan] at hone
  omega

/-- **Groups are blocks**: in a well-formed column, the span of a row is the span of each row
in it. -/
theorem mergeSpan?_eq_of_mem (hcol : WellFormedColumn rows col) {i j : Nat} {span : Span}
    (h : mergeSpan? rows i col = some span) (hj : span.start ≤ j) (hj' : j < span.stop) :
    mergeSpan? rows j col = some span := by
  obtain ⟨start, hle, c, hc, hreach, -, rfl⟩ := mergeSpan?_eq_some_iff.mp h
  obtain ⟨hjspan, hjlen⟩ := Nat.lt_min.mp hj'
  rw [mergeSpan?_eq_some_iff]
  refine ⟨start, hj, c, hc, ⟨hreach.1, hjspan⟩, fun k hk hkj => ?_, rfl⟩
  exact letsPass_of_spanned hcol hc hk (by omega) (by omega) j

/-- The rows of a span in a well-formed column all have the column. -/
theorem exists_cellAt?_of_mem (hcol : WellFormedColumn rows col) {i j : Nat} {span : Span}
    (h : mergeSpan? rows i col = some span) (hj : span.start ≤ j) (hj' : j < span.stop) :
    ∃ c, cellAt? rows j col = some c := by
  obtain ⟨start, hle, c, hc, hreach, -, rfl⟩ := mergeSpan?_eq_some_iff.mp h
  obtain ⟨hjspan, hjlen⟩ := Nat.lt_min.mp hj'
  rcases Nat.lt_or_eq_of_le hj with hlt | rfl
  · obtain ⟨hidden, hmem, -⟩ := hcol start (lt_length_of_cellAt? hc) c hc j hjlen hlt hjspan
    exact ⟨hidden, hmem⟩
  · exact ⟨c, hc⟩

/-! ## Rows by id -/

theorem getElem?_of_rowPosition? {id : String} {i : Nat} (h : rowPosition? id rows = some i) :
    ∃ r, rows[i]? = some r ∧ r.id = id := by
  obtain ⟨hlt, hid, -⟩ := List.findIdx?_eq_some_iff_getElem.mp h
  exact ⟨rows[i], List.getElem?_eq_getElem hlt, by simpa using hid⟩

/-- With distinct ids, a row stands at the position of its id. -/
theorem rowPosition?_of_getElem? (hids : (rows.map (·.id)).Nodup) {i : Nat} {r : Row}
    (h : rows[i]? = some r) : rowPosition? r.id rows = some i := by
  obtain ⟨hlt, rfl⟩ := List.getElem?_eq_some_iff.mp h
  rw [rowPosition?, List.findIdx?_eq_some_iff_getElem]
  refine ⟨hlt, by simp, fun j hj heq => ?_⟩
  have hlt' : j < rows.length := by omega
  have hji := eq_of_nodup_map hids (List.getElem?_eq_getElem hlt') h (beq_iff_eq.mp heq)
  omega

theorem row?_eq_bind (id : String) (rows : List Row) :
    row? id rows = (rowPosition? id rows).bind fun i => rows[i]? :=
  List.find?_eq_bind_findIdx?_getElem?

/-- With distinct ids, every row is found by its id. -/
theorem row?_of_mem (hids : (rows.map (·.id)).Nodup) {r : Row} (h : r ∈ rows) :
    row? r.id rows = some r := by
  obtain ⟨i, hi⟩ := List.mem_iff_getElem?.mp h
  rw [row?_eq_bind, rowPosition?_of_getElem? hids hi, Option.bind_some, hi]

theorem mem_slice {span : Span} {r : Row} :
    r ∈ span.slice rows ↔ ∃ j, span.start ≤ j ∧ j < span.stop ∧ rows[j]? = some r := by
  unfold Span.slice
  rw [List.mem_drop_iff_getElem]
  constructor
  · rintro ⟨d, hlt, rfl⟩
    rw [List.length_take] at hlt
    exact ⟨span.start + d, by omega, by omega, by
      rw [List.getElem_take, List.getElem?_eq_getElem]⟩
  · rintro ⟨j, hle, hlt, hj⟩
    obtain ⟨hlen, rfl⟩ := List.getElem?_eq_some_iff.mp hj
    refine ⟨j - span.start, by rw [List.length_take]; omega, ?_⟩
    simp only [List.getElem_take, Nat.add_sub_of_le hle]

/-! ## Groups by id -/

/-- A row merged with `a` is `a` itself, or stands in the span of `a`. -/
theorem mem_mergedRowIds_cases {a b : String} (h : b ∈ mergedRowIds a rows col) :
    b = a ∨ ∃ i span j r, rowPosition? a rows = some i ∧ mergeSpan? rows i col = some span ∧
      span.start ≤ j ∧ j < span.stop ∧ rows[j]? = some r ∧ r.id = b := by
  unfold mergedRowIds groupSpan? at h
  cases hi : rowPosition? a rows with
  | none =>
    rw [hi] at h
    exact .inl (List.mem_singleton.mp h)
  | some i =>
    rw [hi, Option.bind_some] at h
    cases hspan : mergeSpan? rows i col with
    | none =>
      rw [hspan] at h
      exact .inl (List.mem_singleton.mp h)
    | some span =>
      rw [hspan] at h
      obtain ⟨r, hr, hid⟩ := List.mem_map.mp h
      obtain ⟨j, hle, hlt, hj⟩ := mem_slice.mp hr
      exact .inr ⟨i, span, j, r, rfl, hspan, hle, hlt, hj, hid⟩

/-- Every row is merged with itself. -/
theorem self_mem_mergedRowIds (a : String) (rows : List Row) (col : Nat) :
    a ∈ mergedRowIds a rows col := by
  unfold mergedRowIds groupSpan?
  cases hi : rowPosition? a rows with
  | none => simp
  | some i =>
    obtain ⟨r, hr, hid⟩ := getElem?_of_rowPosition? hi
    have hlt := (List.getElem?_eq_some_iff.mp hr).1
    rw [Option.bind_some]
    cases hspan : mergeSpan? rows i col with
    | none => simp
    | some span =>
      obtain ⟨hle, hstop, -⟩ := mem_of_mergeSpan? hlt hspan
      exact List.mem_map.mpr ⟨r, mem_slice.mpr ⟨i, hle, hstop, hr⟩, hid⟩

variable {a b : String}

/-- Two different merged rows stand in one span, which is that of both. -/
theorem group_of_mem (hids : (rows.map (·.id)).Nodup) (hcol : WellFormedColumn rows col)
    (hb : b ∈ mergedRowIds a rows col) :
    b = a ∨ ∃ i j span, rowPosition? a rows = some i ∧ rowPosition? b rows = some j ∧
      mergeSpan? rows i col = some span ∧ mergeSpan? rows j col = some span := by
  rcases mem_mergedRowIds_cases hb with rfl | ⟨i, span, j, r, hi, hspan, hle, hlt, hj, rfl⟩
  · exact .inl rfl
  · exact .inr ⟨i, j, span, hi, rowPosition?_of_getElem? hids hj, hspan,
      mergeSpan?_eq_of_mem hcol hspan hle hlt⟩

theorem mergedRowIds_eq_of_mem (hids : (rows.map (·.id)).Nodup) (hcol : WellFormedColumn rows col)
    (hb : b ∈ mergedRowIds a rows col) : mergedRowIds b rows col = mergedRowIds a rows col := by
  rcases group_of_mem hids hcol hb with rfl | ⟨i, j, span, hi, hj, hspan, hspan'⟩
  · rfl
  · simp only [mergedRowIds, groupSpan?, hi, hj, Option.bind_some, hspan, hspan']

theorem mergeInfo_eq_of_mem (hids : (rows.map (·.id)).Nodup) (hcol : WellFormedColumn rows col)
    (hb : b ∈ mergedRowIds a rows col) : mergeInfo b rows col = mergeInfo a rows col := by
  rcases group_of_mem hids hcol hb with rfl | ⟨i, j, span, hi, hj, hspan, hspan'⟩
  · rfl
  · -- the row that the span starts with exists, so no id stands in for it
    obtain ⟨start, -, c, hc, -, -, rfl⟩ := mergeSpan?_eq_some_iff.mp hspan
    have hstart := List.getElem?_eq_getElem (lt_length_of_cellAt? hc)
    simp only [mergeInfo, groupSpan?, hi, hj, Option.bind_some, hspan, hspan', hstart,
      Option.map_some, Option.getD_some]

theorem ownerCell?_eq_of_mem (hids : (rows.map (·.id)).Nodup) (hcol : WellFormedColumn rows col)
    (hb : b ∈ mergedRowIds a rows col) : ownerCell? b rows col = ownerCell? a rows col := by
  rcases group_of_mem hids hcol hb with rfl | ⟨i, j, span, hi, hj, hspan, hspan'⟩
  · rfl
  · simp only [ownerCell?, hi, hj, Option.bind_some, hspan, hspan', Option.map_some,
      Option.getD_some]

end Questionnaire.Table
