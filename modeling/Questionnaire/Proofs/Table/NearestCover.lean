import Questionnaire.Proofs.Table.MergeInfo

/-!
# The nearest cell that covers a row

What a row is merged with is settled by one cell of the column: the nearest one, from the row
upwards, that spans several rows and reaches down to it. Rows that lack the column give way to it,
and so do hidden cells, even those with a span of their own, as long as it ends above the row. Any
other cell in between stands in the way. `NearestCover` says this of the table, without a search.

Nothing is assumed of the table: rows may have different lengths, any cell may be hidden, and a span
may run past the last row. The main statement says that a row is merged exactly if it has such a
cell, that there is never a second one, and that the span found lies in the table, so that its rows
can be read.
-/

namespace Questionnaire.Table

variable {rows : List Row} {index col start start' : Nat} {c c' : Cell}
  {id : String} {span : Span}

/-- The row at `k` does not keep a cell above it from covering the row at `index`: it lacks the
column, or has a hidden cell in it that spans its own row only or ends above `index`. -/
def GivesWay (rows : List Row) (index col k : Nat) : Prop :=
  cellAt? rows k col = none ∨
    ∃ d ∈ cellAt? rows k col, d.isHidden = true ∧ (d.span = 1 ∨ k + d.span ≤ index)

instance (rows : List Row) (index col k : Nat) : Decidable (GivesWay rows index col k) :=
  inferInstanceAs (Decidable (cellAt? rows k col = none ∨
    ∃ d ∈ cellAt? rows k col, d.isHidden = true ∧ (d.span = 1 ∨ k + d.span ≤ index)))

/-- The cell at `start` covers the row at `index`, and is the nearest one that does. -/
structure NearestCover (rows : List Row) (index col start : Nat) (c : Cell) : Prop where
  le : start ≤ index
  cell : cellAt? rows start col = some c
  several : 1 < c.span
  reaches : index < start + c.span
  between : ∀ k, start < k → k ≤ index → GivesWay rows index col k

instance (rows : List Row) (index col start : Nat) (c : Cell) :
    Decidable (NearestCover rows index col start c) :=
  decidable_of_iff (start ≤ index ∧ cellAt? rows start col = some c ∧ 1 < c.span ∧
      index < start + c.span ∧ ∀ k < index + 1, start < k → GivesWay rows index col k)
    ⟨fun ⟨hle, hcell, hseveral, hreaches, hbetween⟩ =>
        ⟨hle, hcell, hseveral, hreaches, fun k hk hki => hbetween k (Nat.lt_succ_of_le hki) hk⟩,
      fun h => ⟨h.le, h.cell, h.several, h.reaches,
        fun k hk hlt => h.between k hlt (Nat.le_of_lt_succ hk)⟩⟩

/-! ## The search finds it -/

/-- The search passes the rows that give way, and no others. -/
theorem letsPass_iff {k : Nat} : LetsPass rows index col k ↔ GivesWay rows index col k := by
  unfold LetsPass GivesWay
  cases cellAt? rows k col with
  | none => simp
  | some d =>
    have hpos := d.one_le_span
    have hends : ¬ Reaches index k d ↔ d.span = 1 ∨ k + d.span ≤ index := by
      unfold Reaches
      omega
    simp [hends]

/-- The span of a row starts with the cell that covers it. -/
theorem mergeSpan?_eq_some_iff_nearestCover : mergeSpan? rows index col = some span ↔
    ∃ start c, NearestCover rows index col start c ∧
      span = ⟨start, min (start + c.span) rows.length⟩ := by
  rw [mergeSpan?_eq_some_iff]
  constructor
  · rintro ⟨start, hle, c, hc, hreach, hpass, hspan⟩
    have hbetween k (hk : start < k) (hki : k ≤ index) := letsPass_iff.mp (hpass k hk hki)
    exact ⟨start, c, ⟨hle, hc, hreach.1, hreach.2, hbetween⟩, hspan⟩
  · rintro ⟨start, c, h, hspan⟩
    have hpass k (hk : start < k) (hki : k ≤ index) := letsPass_iff.mpr (h.between k hk hki)
    exact ⟨start, h.le, c, h.cell, ⟨h.several, h.reaches⟩, hpass, hspan⟩

theorem mergeSpan?_eq_none_iff : mergeSpan? rows index col = none ↔
    ¬ ∃ start c, NearestCover rows index col start c := by
  rw [Option.eq_none_iff_forall_ne_some]
  constructor
  · rintro hnone ⟨start, c, h⟩
    exact hnone _ (mergeSpan?_eq_some_iff_nearestCover.mpr ⟨start, c, h, rfl⟩)
  · intro hnone span hspan
    obtain ⟨start, c, h, -⟩ := mergeSpan?_eq_some_iff_nearestCover.mp hspan
    exact hnone ⟨start, c, h⟩

/-- No cell that covers the row is below the nearest one. -/
theorem NearestCover.start_le (h : NearestCover rows index col start c)
    (h' : NearestCover rows index col start' c') : start' ≤ start := by
  rcases Nat.lt_or_ge start start' with hlt | hle
  · -- the lower one would have to give way
    rcases h.between start' hlt h'.le with hnone | ⟨d, hd, -, hends⟩
    · rw [h'.cell] at hnone
      cases hnone
    · rw [h'.cell, Option.mem_some] at hd
      subst hd
      have hseveral := h'.several
      have hreaches := h'.reaches
      omega
  · exact hle

theorem NearestCover.unique (h : NearestCover rows index col start c)
    (h' : NearestCover rows index col start' c') : start = start' ∧ c = c' := by
  obtain rfl : start = start' := Nat.le_antisymm (h'.start_le h) (h.start_le h')
  exact ⟨rfl, Option.some.inj (h.cell.symm.trans h'.cell)⟩

/-! ## The width of positions -/

theorem Cell.span_lt_size (c : Cell) : c.span < UInt32.size := by
  unfold Cell.span
  split
  · decide
  · rename_i n hn
    exact Nat.max_lt.mpr ⟨n.toNat_lt_size, by decide⟩

/-- Positions may be words of 64 bits: even before a span is cut at the end of the table, its end
fits, unless the table has more rows than any memory holds. -/
theorem toNat_start_add_span (hcell : cellAt? rows start col = some c)
    (hlength : rows.length ≤ UInt64.size - UInt32.size) :
    (UInt64.ofNat start + UInt64.ofNat c.span).toNat = start + c.span := by
  have hstart := lt_length_of_cellAt? hcell
  have hspan := c.span_lt_size
  have hfits : start + c.span < UInt64.size := by omega
  rw [← UInt64.ofNat_add]
  exact UInt64.toNat_ofNat_of_lt' hfits

/-! ## Reading the rows of a span -/

/-- The rows of a span, provided that it lies in the table: it must not end before it starts, nor
past the last row. -/
def Span.slice? (s : Span) (rows : List Row) : Option (List Row) :=
  if s.start ≤ s.stop ∧ s.stop ≤ rows.length then some (s.slice rows) else none

theorem slice?_eq_some (hle : span.start ≤ span.stop) (hstop : span.stop ≤ rows.length) :
    span.slice? rows = some (span.slice rows) :=
  if_pos ⟨hle, hstop⟩

/-- What is said about a row with a group is read off rows that exist. -/
theorem reads_of_groupSpan? (h : groupSpan? id rows col = some span) :
    ∃ part first, span.slice? rows = some part ∧ rows[span.start]? = some first ∧
      mergedRowIds id rows col = part.map (·.id) ∧
      mergeInfo id rows col = ⟨true, first.id, part.map (·.id)⟩ := by
  obtain ⟨hlt, hstop⟩ := bounds_of_groupSpan? h
  have hfirst := List.getElem?_eq_getElem (l := rows) (Nat.lt_of_lt_of_le hlt hstop)
  refine ⟨span.slice rows, _, slice?_eq_some (Nat.le_of_lt hlt) hstop, hfirst, ?_, ?_⟩
  · simp only [mergedRowIds, h]
  · simp only [mergeInfo, h, hfirst, Option.map_some, Option.getD_some]

/-- **A row is merged by the nearest cell that covers it.** In any table, the span of a row starts
with the row of that cell and ends where the cell or the table does; a row without such a cell has
no span, and no row has two such cells. The span holds the row and lies in the table, so that the
rows that are listed for it, and the one that is named as the first, are there to be read. Positions
of 64 bits are wide enough to find its end, unless the table has more rows than any memory holds. -/
theorem merged_by_nearest_cover (rows : List Row) (col index : Nat) (hindex : index < rows.length) :
    (∀ s e, mergeSpan? rows index col = some ⟨s, e⟩ ↔
      ∃ c, NearestCover rows index col s c ∧ e = min (s + c.span) rows.length) ∧
    (mergeSpan? rows index col = none ↔ ¬ ∃ s c, NearestCover rows index col s c) ∧
    (∀ s e, mergeSpan? rows index col = some ⟨s, e⟩ → s ≤ index ∧ index < e ∧ e ≤ rows.length) ∧
    (∀ s c s' c', NearestCover rows index col s c → NearestCover rows index col s' c' →
      s = s' ∧ c = c') ∧
    (∀ id, rowPosition? id rows = some index →
      ∀ span, mergeSpan? rows index col = some span →
        ∃ part first, span.slice? rows = some part ∧ rows[span.start]? = some first ∧
          mergedRowIds id rows col = part.map (·.id) ∧
          mergeInfo id rows col = ⟨true, first.id, part.map (·.id)⟩) ∧
    (∀ s c, NearestCover rows index col s c → rows.length ≤ UInt64.size - UInt32.size →
      (UInt64.ofNat s + UInt64.ofNat c.span).toNat = s + c.span) := by
  refine ⟨fun s e => ?_, mergeSpan?_eq_none_iff, fun s e => mem_of_mergeSpan? hindex,
    fun s c s' c' => NearestCover.unique, fun id hid span hspan => ?_,
    fun s c h => toNat_start_add_span h.cell⟩
  · rw [mergeSpan?_eq_some_iff_nearestCover]
    constructor
    · rintro ⟨start, c, h, heq⟩
      obtain ⟨rfl, rfl⟩ := Span.mk.inj heq
      exact ⟨c, h, rfl⟩
    · rintro ⟨c, h, rfl⟩
      exact ⟨s, c, h, rfl⟩
  · exact reads_of_groupSpan? (groupSpan?_eq_some_iff.mpr ⟨index, hid, hspan⟩)

/-- Where one stays on the days of a week: the hotel is booked for as long as one likes, there are
two nights in a tent, and on Saturday one is at home. -/
def lodgings : List Row :=
  [{ id := "monday", cells := [{ id := "hotel", rowspan := some 4294967295 }] },
    { id := "tuesday" },
    { id := "wednesday", cells := [{ id := "tent", rowspan := some 2, isHidden := true }] },
    { id := "thursday", cells := [{ id := "t", isHidden := true }] },
    { id := "friday", cells := [{ id := "f", rowspan := some 0, isHidden := true }] },
    { id := "saturday", cells := [{ id := "home" }] },
    { id := "sunday", cells := [{ id := "s", isHidden := true }] }]

/-- On Thursday the tent is nearer than the hotel. On Friday it gives way, as does the day without
an entry, and the hotel is left, whose span is cut at the end of the week. On Sunday neither is
found, for Saturday stands in the way. -/
theorem merged_by_nearest_cover_lodgings :
    (4 < lodgings.length ∧ rowPosition? "friday" lodgings = some 4) ∧
    mergeSpan? lodgings 3 0 = some ⟨2, 4⟩ ∧
    mergeSpan? lodgings 4 0 = some ⟨0, 7⟩ ∧
    (∃ part first, Span.slice? ⟨0, 7⟩ lodgings = some part ∧ lodgings[0]? = some first ∧
      mergedRowIds "friday" lodgings 0 = part.map (·.id) ∧
      mergeInfo "friday" lodgings 0 = ⟨true, first.id, part.map (·.id)⟩) ∧
    (UInt64.ofNat 0 + UInt64.ofNat 4294967295).toNat = 0 + 4294967295 ∧
    ¬ ∃ s c, NearestCover lodgings 6 0 s c := by
  have hlength : 4 < lodgings.length := by decide
  have hposition : rowPosition? "friday" lodgings = some 4 := by decide
  obtain ⟨hthursday, -⟩ := merged_by_nearest_cover lodgings 0 3 (by decide)
  obtain ⟨hfriday, -, -, -, hreads, hfits⟩ := merged_by_nearest_cover lodgings 0 4 hlength
  obtain ⟨-, hsunday, -⟩ := merged_by_nearest_cover lodgings 0 6 (by decide)
  have htent :
      NearestCover lodgings 3 0 2 { id := "tent", rowspan := some 2, isHidden := true } := by
    decide
  have hhotel : NearestCover lodgings 4 0 0 { id := "hotel", rowspan := some 4294967295 } := by
    decide
  have hspan : mergeSpan? lodgings 4 0 = some ⟨0, 7⟩ := (hfriday 0 7).mpr ⟨_, hhotel, by decide⟩
  exact ⟨⟨hlength, hposition⟩, (hthursday 2 4).mpr ⟨_, htent, by decide⟩, hspan,
    hreads "friday" hposition _ hspan, hfits 0 _ hhotel (by decide), hsunday.mp (by decide)⟩

end Questionnaire.Table
