import Questionnaire.Proofs.Json.Keys
import Questionnaire.Proofs.Reader.Reads
import Questionnaire.Answer.Format

/-!
# Answers are read back

Reading a snapshot brings its answers into a form that does not change any more when they are
written and read again. Answers have no tag, so a value that is written must not come into a kind
that is tried before its own. What is written either fits its kind in whatever order its members
stand, or it is what was read with its members listed anew.
-/

namespace Questionnaire

open Json (Document Reorders DistinctKeys)
open Reader (Reads Restores Shape Field OrderFree reads_text reads_bool)

/-! ## Choices of "other" -/

namespace OtherChoice

theorem independent : shape.Independent where
  names := by decide
  stores := by simp [shape, Field.required, Field.optional, Field.independent_of_comm]

/-- The text beside a choice may be left out when there is none. -/
theorem restores (c : OtherChoice) {part : Option Json}
    (hpart : part = some (.text c.other) ∨ part = none ∧ c.other = "") :
    Restores shape.fields
      [("selectedValue", some (.text c.selected)), ("otherValue", part),
        ("hasOther", some (.bool c.hasOther))] shape.blank c := by
  refine .required (reads_text c.selected) ?_
  refine .leftOut (x := c.other) ?_ ?_ (.required (reads_bool c.hasOther) (.done rfl))
  · intro j hj
    rcases hpart with rfl | ⟨rfl, -⟩
    · exact Option.some.inj hj ▸ reads_text c.other
    · cases hj
  · intro hnone
    rcases hpart with rfl | ⟨-, hother⟩
    · cases hnone
    · rw [hother]
      rfl

theorem reads (c : OtherChoice) : Reads shape.read c.toJson c :=
  Shape.reads_of_restores independent (c.restores (.inl rfl))

theorem orderFree : OrderFree shape.read := by
  refine Shape.orderFree independent ?_
  simp only [shape, Field.required, Field.optional, List.forall_mem_cons, List.not_mem_nil,
    false_imp_iff, implies_true, and_true]
  exact ⟨Reader.orderFree_text.map _, Reader.orderFree_text.map _, Reader.orderFree_bool.map _⟩

theorem ofJson?_eq_some_iff {j : Json} {c : OtherChoice} :
    ofJson? j = some c ↔ shape.read .setAside (.ofJson j) = .ok c := by
  unfold ofJson?
  cases shape.read .setAside (.ofJson j) <;> simp [Except.toOption]

theorem ofJson?_of_reorders_toJson {c : OtherChoice} {v : Json} (hv : v.Reorders c.toJson) :
    ofJson? v = some c :=
  ofJson?_eq_some_iff.mpr (c.reads .setAside rfl v hv)

/-- Whether a value is an "other" choice does not depend on the order of its members. -/
theorem ofJson?_of_reorders {v j : Json} (hv : v.Reorders j) : ofJson? v = ofJson? j := by
  refine Option.ext fun c => ?_
  rw [ofJson?_eq_some_iff, ofJson?_eq_some_iff]
  exact ⟨orderFree .setAside rfl v j c hv.symm, orderFree .setAside rfl j v c hv⟩

/-- As a list, an "other" choice has its three parts and nothing else. -/
theorem ofJson?_list_eq_some_iff {items : List Json} {c : OtherChoice} :
    ofJson? (.list items) = some c ↔
      items = [.text c.selected, .text c.other, .bool c.hasOther] := by
  rw [ofJson?_eq_some_iff, Document.ofJson, Shape.read, Reader.Origin.enter_of_not_text rfl,
    Except.bind]
  constructor
  · intro hc
    -- a shorter list leaves the third part out, which must be given
    rcases items with _ | ⟨first, _ | ⟨second, _ | ⟨third, rest⟩⟩⟩
    · cases hc
    · obtain ⟨_, _, hc⟩ := Reader.bind_eq_ok_iff.mp hc
      cases hc
    · obtain ⟨_, _, hc⟩ := Reader.bind_eq_ok_iff.mp hc
      obtain ⟨_, _, hc⟩ := Reader.bind_eq_ok_iff.mp hc
      cases hc
    · obtain ⟨_, hfirst, hc⟩ := Reader.bind_eq_ok_iff.mp hc
      obtain ⟨_, hsecond, hc⟩ := Reader.bind_eq_ok_iff.mp hc
      obtain ⟨_, hthird, hc⟩ := Reader.bind_eq_ok_iff.mp hc
      obtain ⟨_, hselected, rfl⟩ := Reader.map_eq_ok_iff.mp hfirst
      obtain ⟨_, hother, rfl⟩ := Reader.map_eq_ok_iff.mp hsecond
      obtain ⟨_, hflag, rfl⟩ := Reader.map_eq_ok_iff.mp hthird
      cases rest with
      | nil =>
        cases hc
        rw [Reader.eq_text_of_read hselected, Reader.eq_text_of_read hother,
          Reader.eq_bool_of_read hflag]
      | cons _ _ => cases hc
  · rintro rfl
    rfl

/-- A list without truth values is no "other" choice: the third part of one is a truth value. -/
theorem ofJson?_list_eq_none {items : List Json} (h : ∀ b : Bool, .bool b ∉ items) :
    ofJson? (.list items) = none := by
  refine Option.eq_none_iff_forall_ne_some.mpr fun c hc => ?_
  rw [ofJson?_list_eq_some_iff] at hc
  exact h c.hasOther (by simp [hc])

end OtherChoice

/-! ## Picks -/

namespace Pick

theorem toJson_ne_bool (p : Pick) (b : Bool) : p.toJson ≠ .bool b := by
  cases p <;> nofun

theorem ofJson?_of_reorders_toJson {p : Pick} {v : Json} (hv : v.Reorders p.toJson) :
    ofJson? v = some p := by
  cases p with
  | value s => rw [Reorders.eq_text hv, ofJson?]
  | other o =>
    obtain ⟨members, rfl, -⟩ := hv.exists_object
    rw [ofJson?, OtherChoice.ofJson?_of_reorders_toJson hv, Option.map_some]
    exact fun s hs => by cases hs

theorem ofItems?_of_reorders_toJson {picks : List Pick} {items : List Json}
    (h : List.Forall₂ Reorders items (picks.map toJson)) : ofItems? items = some picks := by
  rw [List.forall₂_map_right_iff] at h
  induction h with
  | nil => rfl
  | cons hp _ ih =>
    rw [ofItems?, ofJson?_of_reorders_toJson hp, Option.bind_some, ih, Option.map_some]

end Pick

/-! ## Tables -/

namespace CellAnswer

theorem eq_map_text_of_texts? {items : List Json} {values : List String}
    (h : texts? items = some values) : items = values.map .text := by
  induction items generalizing values with
  | nil => cases h; rfl
  | cons j rest ih =>
    cases j with
    | text s =>
      obtain ⟨values', hvalues, rfl⟩ := Option.map_eq_some_iff.mp h
      rw [ih hvalues, List.map_cons]
    | _ => cases h

/-- What is in a cell is written as it was read. -/
theorem toJson_ofJson {j : Json} (h : j.DistinctKeys) : (ofJson j).toJson = j := by
  cases j with
  | text s => rfl
  | list items =>
    rw [ofJson]
    cases htexts : texts? items with
    | some values => rw [toJson, Json.texts, eq_map_text_of_texts? htexts]
    | none => exact h.withoutRepeats_eq_self
  | _ => exact h.withoutRepeats_eq_self

end CellAnswer

namespace TableAnswer

variable {members : List (String × Json)}

theorem toList_ofMembers_perm (hnodup : (members.map (·.1)).Nodup) :
    (ofMembers members).toList.Perm (members.map fun m => (m.1, CellAnswer.ofJson m.2)) :=
  Entries.toList_ofList_perm (by rwa [List.map_map])

/-- The cells of a table are written as they were read, by ascending cell id. -/
theorem toJson_ofMembers (h : (Json.object members).DistinctKeys) :
    ∃ members', (ofMembers members).toJson = .object members' ∧ members'.Perm members := by
  obtain ⟨hnodup, hvalues⟩ := Json.distinctKeys_object_iff.mp h
  have hsame : (members.map fun m => (m.1, CellAnswer.ofJson m.2)).map
      (fun c => (c.1, c.2.toJson)) = members := by
    rw [List.map_map]
    refine (List.map_congr_left fun m hm => ?_).trans members.map_id
    exact congrArg (Prod.mk m.1) (CellAnswer.toJson_ofJson (hvalues m hm))
  exact ⟨_, rfl, ((toList_ofMembers_perm hnodup).map _).trans (.of_eq hsame)⟩

theorem ofMembers_perm {members' : List (String × Json)} (hperm : members'.Perm members)
    (hnodup : (members.map (·.1)).Nodup) : ofMembers members' = ofMembers members :=
  Entries.ofList_eq_of_perm ((hperm.map _).trans (toList_ofMembers_perm hnodup).symm)

end TableAnswer

/-! ## Answers -/

namespace Answer

theorem ofJson_of_other {j : Json} {o : OtherChoice} (h : OtherChoice.ofJson? j = some o) :
    ofJson j = other o := by
  cases j with
  | text s => cases h
  | _ => simp only [ofJson, h]

theorem ofJson_list {items : List Json} (h : OtherChoice.ofJson? (.list items) = none) :
    ofJson (.list items) = ofCompound (.list items) := by
  simp only [ofJson, h]

theorem ofJson_object {members : List (String × Json)}
    (h : OtherChoice.ofJson? (.object members) = none) :
    ofJson (.object members) = table (TableAnswer.ofMembers members) := by
  simp only [ofJson, h]
  rfl

/-- Picks are never written as one "other" choice. -/
theorem ofJson_of_reorders_choices {picks : List Pick} {v : Json}
    (hv : v.Reorders (choices picks).toJson) : ofJson v = choices picks := by
  obtain ⟨items, rfl, hitems⟩ := hv.exists_list
  have hother : OtherChoice.ofJson? (.list items) = none := by
    refine OtherChoice.ofJson?_list_eq_none fun b hb => ?_
    obtain ⟨j, hj, hbool⟩ := exists_mem_of_forall₂ hitems hb
    obtain ⟨p, -, rfl⟩ := List.mem_map.mp hj
    exact p.toJson_ne_bool b (Reorders.eq_bool hbool.symm)
  rw [ofJson_list hother, ofCompound, Pick.ofItems?_of_reorders_toJson hitems]

/-- A table is listed anew, and is still no "other" choice then. -/
theorem ofJson_toJson_table {members : List (String × Json)}
    (h : (Json.object members).DistinctKeys)
    (hother : OtherChoice.ofJson? (.object members) = none) :
    (TableAnswer.ofMembers members).toJson.Reorders (.object members) ∧
      ofJson (TableAnswer.ofMembers members).toJson = table (TableAnswer.ofMembers members) := by
  obtain ⟨members', hwritten, hperm⟩ := TableAnswer.toJson_ofMembers h
  have hnodup : (members.map (·.1)).Nodup := (Json.distinctKeys_object_iff.mp h).1
  have hreorders : (Json.object members').Reorders (.object members) :=
    Json.object_reorders hperm ((hperm.map _).nodup_iff.mpr hnodup)
  rw [hwritten, ofJson_object ((OtherChoice.ofJson?_of_reorders hreorders).trans hother),
    TableAnswer.ofMembers_perm hperm hnodup]
  exact ⟨hreorders, rfl⟩

/-- What is written for an answer that was read from a value either is read to that answer in
whatever order its members stand, or is the value with its members in some other order, and is
read to that answer as it stands. -/
theorem toJson_ofJson {j : Json} (h : j.DistinctKeys) :
    (∀ v : Json, v.Reorders (ofJson j).toJson → ofJson v = ofJson j) ∨
      (ofJson j).toJson.Reorders j ∧ ofJson (ofJson j).toJson = ofJson j := by
  cases hother : OtherChoice.ofJson? j with
  | some o =>
    rw [ofJson_of_other hother]
    exact .inl fun v hv => ofJson_of_other (OtherChoice.ofJson?_of_reorders_toJson hv)
  | none =>
    cases j with
    | list items =>
      cases hpicks : Pick.ofItems? items with
      | some picks =>
        rw [ofJson_list hother, ofCompound, hpicks]
        exact .inl fun v => ofJson_of_reorders_choices
      | none =>
        -- nothing in the list is overridden, so that it is kept as it is
        have hkept : ofJson (.list items) = unsupported (.list items) := by
          rw [ofJson_list hother, ofCompound, hpicks]
          exact congrArg unsupported h.withoutRepeats_eq_self
        rw [hkept]
        exact .inr ⟨.refl _, hkept⟩
    | object members =>
      rw [ofJson_object hother]
      exact .inr (ofJson_toJson_table h hother)
    | _ => exact .inr ⟨.refl _, rfl⟩

/-- Only `null` is written as `null`. -/
theorem toJson_ofJson_ne_null {j : Json} (hj : j ≠ .null) : (ofJson j).toJson ≠ .null := by
  intro hnull
  cases hother : OtherChoice.ofJson? j with
  | some o =>
    rw [ofJson_of_other hother] at hnull
    cases hnull
  | none =>
    cases j with
    | list items =>
      rw [ofJson_list hother, ofCompound] at hnull
      split at hnull <;> cases hnull
    | object members =>
      rw [ofJson_object hother] at hnull
      cases hnull
    | _ => exact hj hnull

/-- The answer that a value gives to a question; `null` gives none. -/
def given : Json → Option Answer
  | .null => none
  | j => some (ofJson j)

theorem given_of_ne_null {j : Json} (hj : j ≠ .null) : given j = some (ofJson j) := by
  cases j with
  | null => exact absurd rfl hj
  | _ => rfl

theorem given_toJson_ofJson {j : Json} (h : j.DistinctKeys) (hj : j ≠ .null) :
    given (ofJson j).toJson = some (ofJson j) := by
  rw [given_of_ne_null (toJson_ofJson_ne_null hj)]
  rcases toJson_ofJson h with hback | ⟨-, hback⟩
  · rw [hback _ (.refl _)]
  · rw [hback]

/-- With its members sorted, too, what is written for the answer of a sorted value gives that
answer. -/
theorem given_sorted_toJson_ofJson {j : Json} (h : j.DistinctKeys) (hj : j ≠ .null)
    (hsorted : j.sorted = j) : given (ofJson j).toJson.sorted = some (ofJson j) := by
  have hne : (ofJson j).toJson.sorted ≠ .null := fun hnull =>
    toJson_ofJson_ne_null hj (Reorders.eq_null hnull)
  rw [given_of_ne_null hne]
  rcases toJson_ofJson h with hback | ⟨hreorders, -⟩
  · rw [hback _ (Json.sorted_sorted _)]
  · rw [hreorders, hsorted]

theorem optional_read {o : Reader.Origin} (ho : o.isText = false) (j : Json) :
    Reader.optional read o (.ofJson j) = .ok (given j) := by
  have hread : read o (.ofJson j) = .ok (ofJson j) := by
    rw [read, Reader.content_ofJson ho]
    rfl
  cases j with
  | null => rfl
  | _ =>
    simp only [Document.ofJson] at hread ⊢
    rw [Reader.optional, hread]
    · rfl
    · intro hnull
      cases hnull

end Answer

/-! ## Snapshots -/

namespace Snapshot

variable {members : List (String × Json)} {r : Snapshot}

theorem read_object (members : List (String × Json)) :
    Reader.ofJson read (.object members) =
      .ok ⟨(Entries.ofList (members.map fun m => (m.1, Answer.given m.2))).filterMap id⟩ := by
  have hpairs : List.Forall₂
      (fun (m : String × Json) (p : String × Option Answer) =>
        m.1 = p.1 ∧ Reader.optional Answer.read .value (.ofJson m.2) = .ok p.2)
      members (members.map fun m => (m.1, Answer.given m.2)) :=
    List.forall₂_map_right_iff.mpr
      (List.forall₂_same.mpr fun m _ => ⟨rfl, Answer.optional_read rfl m.2⟩)
  have hread : Reader.entries (Reader.optional Answer.read) .value (Document.ofMembers members)
      .empty = .ok (Entries.ofList (members.map fun m => (m.1, Answer.given m.2))) :=
    Reader.entries_ofMembers hpairs .empty
  simp only [Reader.ofJson, Document.ofJson, read, Reader.map, Reader.Origin.enter, Except.bind,
    hread]
  rfl

/-- The answers of a snapshot are those that its members give. -/
theorem get?_of_object (hnodup : (members.map (·.1)).Nodup)
    (h : Reader.ofJson read (.object members) = .ok r) {id : String} {a : Answer} :
    r.get? id = some a ↔ ∃ j, (id, j) ∈ members ∧ Answer.given j = some a := by
  rw [read_object] at h
  cases h
  rw [get?, Entries.get?_filterMap_eq_some_iff]
  simp only [Entries.get?_ofList_map_iff hnodup, id_eq, exists_eq_right]

/-- Every answer of a snapshot was read from a value that is not `null`. -/
theorem exists_mem_of_read (hnodup : (members.map (·.1)).Nodup)
    (h : Reader.ofJson read (.object members) = .ok r) {p : String × Answer}
    (hp : p ∈ r.answers.toList) :
    ∃ m ∈ members, m.2 ≠ .null ∧ p.2 = Answer.ofJson m.2 := by
  obtain ⟨j, hj, hgiven⟩ := (get?_of_object hnodup h).mp (Entries.get?_eq_some_iff.mpr hp)
  have hne : j ≠ .null := fun hnull => by
    rw [hnull] at hgiven
    cases hgiven
  rw [Answer.given_of_ne_null hne] at hgiven
  exact ⟨_, hj, hne, (Option.some.inj hgiven).symm⟩

/-- A snapshot is read back where each of its answers is. -/
theorem read_of_written (f : Answer → Json)
    (h : ∀ p ∈ r.answers.toList, Answer.given (f p.2) = some p.2) :
    Reader.ofJson read (.object (r.answers.toList.map fun p => (p.1, f p.2))) = .ok r := by
  have hpairs : (r.answers.toList.map fun p => (p.1, f p.2)).map
      (fun m => (m.1, Answer.given m.2)) = r.answers.toList.map fun p => (p.1, some p.2) := by
    rw [List.map_map]
    exact List.map_congr_left fun p hp => congrArg (Prod.mk p.1) (h p hp)
  rw [read_object, hpairs, Entries.filterMap_ofList_some]

theorem sorted_toJson (r : Snapshot) :
    r.toJson.sorted = .object (r.answers.toList.map fun p => (p.1, p.2.toJson.sorted)) := by
  rw [toJson, Json.sorted, Json.sortedMembers_eq_map, List.map_map]
  refine congrArg Json.object (List.mergeSort_of_pairwise (List.pairwise_map.mpr ?_))
  exact r.answers.ascending.imp fun h =>
    decide_eq_true (String.not_lt.mp fun h' => String.lt_irrefl _ (String.lt_trans h h'))

/-- **Reading answers and writing them settles them.** A snapshot that was read from a value with
distinct keys is read back exactly as it is from what is written for it, and from that with its
members sorted when those of the value were. -/
theorem read_settles (v : Json) (hv : v.DistinctKeys) (r : Snapshot)
    (h : Reader.ofJson read v = .ok r) :
    Reader.ofJson read r.toJson = .ok r ∧
      (v.sorted = v → Reader.ofJson read r.toJson.sorted = .ok r) := by
  cases hv with
  | @object members hnodup hvalues =>
    constructor
    · refine read_of_written Answer.toJson fun p hp => ?_
      obtain ⟨m, hm, hne, hanswer⟩ := exists_mem_of_read hnodup h hp
      rw [hanswer, Answer.given_toJson_ofJson (hvalues m hm) hne]
    · intro hsorted
      rw [sorted_toJson]
      refine read_of_written (fun a => a.toJson.sorted) fun p hp => ?_
      obtain ⟨m, hm, hne, hanswer⟩ := exists_mem_of_read hnodup h hp
      rw [hanswer, Answer.given_sorted_toJson_ofJson (hvalues m hm) hne
        (Json.sorted_of_mem hsorted hm)]
  | _ => cases h

/-- Answers about luggage: an "other" choice given as a list, picks, a record that is almost an
"other" choice, a list that is no list of picks, and no answer. -/
def luggage : Json :=
  .object
    [("bag", .list [.text "other", .text "a trunk", .bool true]),
      ("clothes", .list
        [.text "coat", .object [("hasOther", .bool false), ("selectedValue", .text "hat")]]),
      ("days", .object [("otherValue", .list [.text "sun"]), ("selectedValue", .text "mon")]),
      ("notes", .list [.text "none", Json.nat 2]),
      ("tickets", .null)]

theorem read_settles_luggage :
    luggage.DistinctKeys ∧ luggage.sorted = luggage ∧ ∃ r, Reader.ofJson read luggage = .ok r ∧
      r.get? "bag" = some (.other { selected := "other", other := "a trunk", hasOther := true }) ∧
      Reader.ofJson read r.toJson = .ok r ∧ Reader.ofJson read r.toJson.sorted = .ok r := by
  have hdistinct : luggage.DistinctKeys := by simp [luggage, Json.nat]
  have hsorted : luggage.sorted = luggage := by
    simp [luggage, Json.sorted, Json.sortedItems, Json.sortedMembers, List.mergeSort, Json.nat]
  obtain ⟨hback, hback'⟩ := read_settles luggage hdistinct _ (read_object _)
  exact ⟨hdistinct, hsorted, _, read_object _, rfl, hback, hback' hsorted⟩

end Snapshot

end Questionnaire
