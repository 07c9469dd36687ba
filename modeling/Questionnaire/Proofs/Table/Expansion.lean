import Questionnaire.Proofs.Table.Exchange

/-!
# Expanding rows through merged cells

A check covers the rows that it names and the rows merged with them. In one column the groups are
blocks, so that what is covered are whole groups. Without a column a row is in one group for each
interactive column, and these may overlap in a chain: the lower of two merged rows may share another
cell with a third row. Expansion follows the groups of the rows that are named, not those of the rows
it finds, so that it takes one step along such a chain. The main statement says when this is enough:
what is merged must be transitive, for example because of two groups of a row one holds the other.
-/

namespace Questionnaire.Table

/-- Row `b` is merged with row `a` in one of the columns in scope. -/
def Ties (rows : List Row) (col : Option Nat) (a b : String) : Prop :=
  ∃ c ∈ scopeColumns col a rows, b ∈ mergedRowIds a rows c

/-- Of every listed row, the groups in the columns in scope are listed as a whole. -/
def HoldsGroups (rows : List Row) (col : Option Nat) (ids : List String) : Prop :=
  ∀ a ∈ ids, ∀ c ∈ scopeColumns col a rows, ∀ b ∈ mergedRowIds a rows c, b ∈ ids

/-- Of two groups of a row in columns in scope, one holds the other. -/
def GroupsNest (rows : List Row) (col : Option Nat) : Prop :=
  ∀ a, ∀ c ∈ scopeColumns col a rows, ∀ d ∈ scopeColumns col a rows,
    (∀ b ∈ mergedRowIds a rows c, b ∈ mergedRowIds a rows d) ∨
      ∀ b ∈ mergedRowIds a rows d, b ∈ mergedRowIds a rows c

instance (rows : List Row) (col : Option Nat) (ids : List String) :
    Decidable (HoldsGroups rows col ids) :=
  inferInstanceAs (Decidable (∀ a ∈ ids, ∀ c ∈ scopeColumns col a rows,
    ∀ b ∈ mergedRowIds a rows c, b ∈ ids))

variable {rows : List Row} {col : Option Nat} {c : Nat} {ids : List String} {a b d : String}

/-! ## One step along the groups -/

theorem holdsGroups_iff : HoldsGroups rows col ids ↔ ∀ a ∈ ids, ∀ b, Ties rows col a b → b ∈ ids := by
  unfold HoldsGroups Ties
  constructor
  · rintro h a ha b ⟨c, hc, hb⟩
    exact h a ha c hc b hb
  · intro h a ha c hc b hb
    exact h a ha b ⟨c, hc, hb⟩

/-- A row in a group of its own is tied to itself. -/
theorem Ties.self (h : Ties rows col a b) : Ties rows col a a := by
  obtain ⟨c, hc, -⟩ := h
  exact ⟨c, hc, self_mem_mergedRowIds a rows c⟩

/-- Expanding adds the rows that are tied to the given ones. -/
theorem mem_expandRowIds_iff :
    b ∈ expandRowIds ids rows col ↔ b ∈ ids ∨ ∃ a ∈ ids, Ties rows col a b := by
  unfold expandRowIds Ties
  simp only [mem_firstOccurrences, List.mem_flatMap, withMerged, List.mem_cons]
  constructor
  · rintro ⟨a, ha, rfl | htied⟩
    · exact .inl ha
    · exact .inr ⟨a, ha, htied⟩
  · rintro (hb | ⟨a, ha, htied⟩)
    · exact ⟨b, hb, .inl rfl⟩
    · exact ⟨a, ha, .inr htied⟩

theorem subset_expandRowIds (h : a ∈ ids) : a ∈ expandRowIds ids rows col :=
  mem_expandRowIds_iff.mpr (.inl h)

theorem mem_expandRowIds_of_ties (ha : a ∈ ids) (h : Ties rows col a b) :
    b ∈ expandRowIds ids rows col :=
  mem_expandRowIds_iff.mpr (.inr ⟨a, ha, h⟩)

/-- Whole groups have been reached exactly if expanding again finds no other row. -/
theorem expandRowIds_same_iff :
    (∀ b, b ∈ expandRowIds ids rows col ↔ b ∈ ids) ↔ HoldsGroups rows col ids := by
  rw [holdsGroups_iff]
  constructor
  · intro hsame a ha b htied
    exact (hsame b).mp (mem_expandRowIds_of_ties ha htied)
  · intro hholds b
    rw [mem_expandRowIds_iff]
    constructor
    · rintro (hb | ⟨a, ha, htied⟩)
      · exact hb
      · exact hholds a ha b htied
    · exact .inl

/-- One step reaches whole groups exactly if a second step leads nowhere else. -/
theorem holdsGroups_expandRowIds_iff : HoldsGroups rows col (expandRowIds ids rows col) ↔
    ∀ a ∈ ids, ∀ b d, Ties rows col a b → Ties rows col b d → d ∈ expandRowIds ids rows col := by
  rw [holdsGroups_iff]
  constructor
  · intro hholds a ha b d hab hbd
    exact hholds b (mem_expandRowIds_of_ties ha hab) d hbd
  · intro hstep b hb d hbd
    rcases mem_expandRowIds_iff.mp hb with hb | ⟨a, ha, hab⟩
    · exact mem_expandRowIds_of_ties hb hbd
    · exact hstep a ha b d hab hbd

/-- **One step is enough for all rows exactly if ties are transitive.** -/
theorem forall_holdsGroups_iff : (∀ ids, HoldsGroups rows col (expandRowIds ids rows col)) ↔
    ∀ a b d, Ties rows col a b → Ties rows col b d → Ties rows col a d := by
  constructor
  · intro hall a b d hab hbd
    have hd := holdsGroups_expandRowIds_iff.mp (hall [a]) a List.mem_cons_self b d hab hbd
    rcases mem_expandRowIds_iff.mp hd with hd | ⟨a', ha', had⟩
    · rw [List.mem_singleton.mp hd]
      exact hab.self
    · rwa [← List.mem_singleton.mp ha']
  · intro htrans ids
    rw [holdsGroups_expandRowIds_iff]
    intro a ha b d hab hbd
    exact mem_expandRowIds_of_ties ha (htrans a b d hab hbd)

/-! ## Groups in well-formed columns -/

theorem mem_interactiveColumns_iff : c ∈ interactiveColumns a rows ↔
    (row? a rows).any (Scope.hasColumn (some c)) = true ∧ isInteractiveAt a rows c = true := by
  unfold interactiveColumns
  cases row? a rows with
  | none => simp
  | some row => simp [Scope.hasColumn]

/-- A column in scope for a row is in scope for the rows merged with it there. -/
theorem mem_scopeColumns_of_mem (hids : (rows.map (·.id)).Nodup)
    (hcols : ∀ c, WellFormedColumn rows c) (hc : c ∈ scopeColumns col a rows)
    (hb : b ∈ mergedRowIds a rows c) : c ∈ scopeColumns col b rows := by
  cases col with
  | some _ => exact hc
  | none =>
    rw [scopeColumns, mem_interactiveColumns_iff] at hc ⊢
    rw [hasColumn_row?_eq_of_mem hids (hcols c) hb, isInteractiveAt,
      ownerCell?_eq_of_mem hids (hcols c) hb]
    exact hc

/-- Where groups nest, the widest group of a row holds the groups of all its rows. -/
theorem ties_trans_of_groupsNest (hids : (rows.map (·.id)).Nodup)
    (hcols : ∀ c, WellFormedColumn rows c) (hnest : GroupsNest rows col)
    (hab : Ties rows col a b) (hbd : Ties rows col b d) : Ties rows col a d := by
  obtain ⟨c, hc, hb⟩ := hab
  obtain ⟨e, he, hd⟩ := hbd
  have hgroup := mergedRowIds_eq_of_mem hids (hcols c) hb
  rcases hnest b c (mem_scopeColumns_of_mem hids hcols hc hb) e he with hwider | hnarrower
  · -- the first row is in the group of the second step too
    have ha : a ∈ mergedRowIds b rows e := hwider a (hgroup ▸ self_mem_mergedRowIds a rows c)
    refine ⟨e, mem_scopeColumns_of_mem hids hcols he ha, ?_⟩
    rwa [mergedRowIds_eq_of_mem hids (hcols e) ha]
  · exact ⟨c, hc, hgroup ▸ hnarrower d hd⟩

/-- In one column there is one group to a row. -/
theorem groupsNest_of_column (rows : List Row) (c : Nat) : GroupsNest rows (some c) := by
  intro a e he f hf
  rw [List.mem_singleton.mp he, List.mem_singleton.mp hf]
  exact .inl fun b hb => hb

/-- **What expansion reaches.** Expanding lists no row twice, the given rows and exactly the rows
merged with one of them in a column in scope; so a check covers the whole groups of the rows that it
names. Of the rows that it finds, too, it lists whole groups exactly if a second step leads to no
other row, which is when expanding again changes nothing. For all lists of rows this is so exactly if
being merged is transitive; it is where groups nest, and hence in any one column. -/
theorem expansion_reaches_groups (rows : List Row) (hids : (rows.map (·.id)).Nodup)
    (hcols : ∀ c, WellFormedColumn rows c) (col : Option Nat) :
    (∀ ids : List String, (expandRowIds ids rows col).Nodup ∧
      (∀ a ∈ ids, a ∈ expandRowIds ids rows col) ∧
      (∀ b, b ∈ expandRowIds ids rows col ↔ b ∈ ids ∨ ∃ a ∈ ids, Ties rows col a b) ∧
      (HoldsGroups rows col (expandRowIds ids rows col) ↔
        ∀ a ∈ ids, ∀ b d, Ties rows col a b → Ties rows col b d →
          d ∈ expandRowIds ids rows col) ∧
      ((∀ b, b ∈ expandRowIds (expandRowIds ids rows col) rows col ↔
          b ∈ expandRowIds ids rows col) ↔
        HoldsGroups rows col (expandRowIds ids rows col))) ∧
    ((∀ ids, HoldsGroups rows col (expandRowIds ids rows col)) ↔
      ∀ a b d, Ties rows col a b → Ties rows col b d → Ties rows col a d) ∧
    (GroupsNest rows col → ∀ ids, HoldsGroups rows col (expandRowIds ids rows col)) ∧
    (∀ c, col = some c → ∀ ids, HoldsGroups rows col (expandRowIds ids rows col)) ∧
    (∀ (check : Check) (cells : TableAnswer) (options : Options), check.column = col →
      (∀ a ∈ check.rowIds, ∀ c ∈ scopeColumns col a rows, ∀ b ∈ mergedRowIds a rows c,
        b ∈ Scope.coveredRows ⟨rows, cells, options⟩ check) ∧
      (∀ c, col = some c → HoldsGroups rows col (Scope.coveredRows ⟨rows, cells, options⟩ check))) := by
  have hnested : GroupsNest rows col → ∀ ids, HoldsGroups rows col (expandRowIds ids rows col) :=
    fun hnest => forall_holdsGroups_iff.mpr fun _ _ _ =>
      ties_trans_of_groupsNest hids hcols hnest
  have hcolumn : ∀ c, col = some c → ∀ ids, HoldsGroups rows col (expandRowIds ids rows col) := by
    rintro c rfl
    exact hnested (groupsNest_of_column rows c)
  refine ⟨fun ids => ⟨nodup_firstOccurrences _, fun a => subset_expandRowIds,
    fun b => mem_expandRowIds_iff, holdsGroups_expandRowIds_iff, expandRowIds_same_iff⟩,
    forall_holdsGroups_iff, hnested, hcolumn, ?_⟩
  rintro check cells options rfl
  refine ⟨fun a ha c hc b hb => ?_, fun c hc => hcolumn c hc check.rowIds⟩
  exact mem_expandRowIds_of_ties ha ⟨c, hc, hb⟩

/-- Stairs of three steps: the lower two share a box to tick on the left, the upper two one on the
right. -/
def stairs : List Row :=
  [{ id := "low", cells :=
      [{ id := "left", kind := .widget .checkbox, rowspan := some 2 }, { id := "rail" }] },
    { id := "middle", cells :=
      [{ id := "m", isHidden := true }, { id := "right", kind := .widget .checkbox, rowspan := some 2 }] },
    { id := "high", cells := [{ id := "door" }, { id := "h", isHidden := true }] }]

theorem wellFormedColumn_stairs (c : Nat) : WellFormedColumn stairs c :=
  wellFormedColumn_of_width (n := 2) (by decide) (by decide) c

/-- On the right, the whole group of the middle step is reached. From both ends of the stairs all
steps are reached, and expanding them again adds none. -/
theorem expansion_reaches_groups_stairs :
    (stairs.map (·.id)).Nodup ∧ (∀ c, WellFormedColumn stairs c) ∧
    HoldsGroups stairs (some 1) (expandRowIds ["middle"] stairs (some 1)) ∧
    "high" ∈ Scope.coveredRows ⟨stairs, .empty, {}⟩ { rowIds := ["middle"], columnIndex := some 1 } ∧
    ∀ b, b ∈ expandRowIds (expandRowIds ["low", "high"] stairs none) stairs none ↔
      b ∈ expandRowIds ["low", "high"] stairs none := by
  have hids : (stairs.map (·.id)).Nodup := by decide
  have hcols := wellFormedColumn_stairs
  obtain ⟨-, -, -, hcolumn, hcheck⟩ := expansion_reaches_groups stairs hids hcols (some 1)
  obtain ⟨hcovers, -⟩ :=
    hcheck { rowIds := ["middle"], columnIndex := some 1 } .empty {} rfl
  obtain ⟨hall, -⟩ := expansion_reaches_groups stairs hids hcols none
  obtain ⟨-, -, -, -, hsame⟩ := hall ["low", "high"]
  refine ⟨hids, hcols, hcolumn 1 rfl ["middle"], ?_, hsame.mpr (by decide)⟩
  exact hcovers "middle" List.mem_cons_self 1 List.mem_cons_self "high" (by decide)

/-- **Without a column, a chain of groups is covered in part.** The low step leads to the middle one
and no further, although the middle step shares a box with the high one. Hence, with both boxes
ticked, the exclusive check of the low step fails, and one of the middle step does, although the two
are merged. -/
theorem chain_covered_in_part_stairs :
    ((stairs.map (·.id)).Nodup ∧ ∀ c, WellFormedColumn stairs c) ∧
    ¬ HoldsGroups stairs none (expandRowIds ["low"] stairs none) ∧
    (¬ ∀ b, b ∈ expandRowIds (expandRowIds ["low"] stairs none) stairs none ↔
      b ∈ expandRowIds ["low"] stairs none) ∧
    let ticked : TableAnswer := (Entries.empty.put "left" (.text "x")).put "right" (.text "x")
    Scope.exclusive ⟨stairs, ticked, {}⟩ { rowIds := ["low"] } = false ∧
      Scope.exclusive ⟨stairs, ticked, {}⟩ { rowIds := ["middle"] } = true := by
  refine ⟨⟨by decide, wellFormedColumn_stairs⟩, by decide, ?_, by decide, by decide⟩
  intro hsame
  exact absurd ((hsame "high").mp (by decide)) (by decide)

end Questionnaire.Table
