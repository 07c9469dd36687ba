import Questionnaire.Proofs.Answer.RoundTrip

/-!
# Which answer a value gives

Answers have no tag: the kinds are tried one after another. Which one a value gives is said here
without trying, by the shapes of the values that give an answer of each kind, and for a table, a
list of choices and a snapshot by the values that stand in them. Reading gives exactly that answer
to every value, and a snapshot for every object.
-/

namespace Questionnaire

open Json (Document DistinctKeys)
open Reader (Shape)

/-! ## Choices of "other" -/

namespace OtherChoice

/-- The members of an object that make up an "other" choice. Members of other names do not
matter. -/
structure Among (o : OtherChoice) (members : List (String × Json)) : Prop where
  selected : ("selectedValue", .text o.selected) ∈ members
  other : ("otherValue", .text o.other) ∈ members ∨
    o.other = "" ∧ ∀ m ∈ members, m.1 ≠ "otherValue"
  hasOther : ("hasOther", .bool o.hasOther) ∈ members

/-- The values that give an "other" choice: an object with its members, or the list of its three
parts. -/
inductive GivenBy (o : OtherChoice) : Json → Prop
  | record {members : List (String × Json)} : o.Among members → GivenBy o (.object members)
  | parts : GivenBy o (.list [.text o.selected, .text o.other, .bool o.hasOther])

variable {o : OtherChoice} {members : List (String × Json)}

/-- Without a member for it, there is no text beside the choice. -/
theorem other_eq_empty_of_readMembers (hnone : ∀ m ∈ members, m.1 ≠ "otherValue")
    (h : shape.readMembers .setAside (Document.ofMembers members) [] shape.blank = .ok o) :
    o.other = "" := by
  refine Shape.readMembers_keeps (P := fun c => c.other = "") h rfl ?_
  intro f hf d set hd hset c hc
  simp only [shape, List.mem_cons, List.not_mem_nil, or_false] at hf
  rcases hf with rfl | rfl | rfl
  · obtain ⟨s, -, rfl⟩ := Reader.map_eq_ok_iff.mp hset
    exact hc
  · obtain ⟨j, hj, -⟩ := Document.mem_ofMembers_iff.mp hd
    exact absurd rfl (hnone _ hj)
  · obtain ⟨b, -, rfl⟩ := Reader.map_eq_ok_iff.mp hset
    exact hc

/-- Reading an object stores what the members of the three names say. -/
theorem among_of_readMembers
    (h : shape.readMembers .setAside (Document.ofMembers members) [] shape.blank = .ok o) :
    o.Among members := by
  have hgiven {f : Reader.Field OtherChoice} (hf : f ∈ shape.fields) (hrequired : f.isRequired = true) :
      ∃ j, (f.name, j) ∈ members := by
    obtain ⟨d, hd⟩ := Shape.exists_mem_of_isRequired h hf hrequired
    obtain ⟨j, hj, -⟩ := Document.mem_ofMembers_iff.mp hd
    exact ⟨j, hj⟩
  refine ⟨?_, ?_, ?_⟩
  · obtain ⟨j, hj⟩ := hgiven List.mem_cons_self rfl
    have hread := Shape.read_of_mem independent OtherChoice.selected (fun _ _ => rfl) rfl
      (Document.mem_ofMembers_iff.mpr ⟨j, hj, rfl⟩) h
    exact Reader.eq_text_of_read hread ▸ hj
  · by_cases hmem : ∃ j, ("otherValue", j) ∈ members
    · obtain ⟨j, hj⟩ := hmem
      have hread := Shape.read_of_mem independent OtherChoice.other (fun _ _ => rfl) rfl
        (Document.mem_ofMembers_iff.mpr ⟨j, hj, rfl⟩) h
      exact .inl (Reader.eq_text_of_read hread ▸ hj)
    · have hnone : ∀ m ∈ members, m.1 ≠ "otherValue" := fun m hm heq => hmem ⟨m.2, heq ▸ hm⟩
      exact .inr ⟨other_eq_empty_of_readMembers hnone h, hnone⟩
  · obtain ⟨j, hj⟩ := hgiven (List.mem_of_getElem? (i := 2) rfl) rfl
    have hread := Shape.read_of_mem independent OtherChoice.hasOther (fun _ _ => rfl) rfl
      (Document.mem_ofMembers_iff.mpr ⟨j, hj, rfl⟩) h
    exact Reader.eq_bool_of_read hread ▸ hj

/-- The members of a choice are read to it, whatever stands beside them. -/
theorem Among.readMembers (h : o.Among members) (hnodup : (members.map (·.1)).Nodup) :
    shape.readMembers .setAside (Document.ofMembers members) [] shape.blank = .ok o := by
  obtain ⟨part, hpart, hmem⟩ : ∃ part : Option Json,
      (part = some (.text o.other) ∨ part = none ∧ o.other = "") ∧
        (∀ j, part = some j → ("otherValue", j) ∈ members) ∧
        (part = none → ∀ m ∈ members, m.1 ≠ "otherValue") := by
    rcases h.other with hother | ⟨hempty, hnone⟩
    · exact ⟨_, .inl rfl, fun j hj => Option.some.inj hj ▸ hother, nofun⟩
    · exact ⟨none, .inr ⟨rfl, hempty⟩, nofun, fun _ => hnone⟩
  refine Shape.readMembers_of_parts independent (o.restores hpart) hnodup ?_ ?_ rfl
  · intro name j hj
    simp only [List.mem_cons, Prod.mk.injEq, Option.some.injEq, List.not_mem_nil, or_false] at hj
    rcases hj with ⟨rfl, rfl⟩ | ⟨rfl, hj⟩ | ⟨rfl, rfl⟩
    · exact h.selected
    · exact hmem.1 j hj.symm
    · exact h.hasOther
  · intro name hname
    simp only [List.mem_cons, Prod.mk.injEq, List.not_mem_nil, or_false, reduceCtorEq, and_false,
      false_or] at hname
    obtain ⟨rfl, hnone⟩ := hname
    exact hmem.2 hnone.symm

theorem ofJson?_object_eq_some_iff :
    ofJson? (.object members) = some o ↔
      shape.readMembers .setAside (Document.ofMembers members) [] shape.blank = .ok o :=
  ofJson?_eq_some_iff

/-- **A value is an "other" choice if and only if it has the shape of one.** -/
theorem ofJson?_eq_some_iff_givenBy {v : Json} (hv : v.DistinctKeys) :
    ofJson? v = some o ↔ o.GivenBy v := by
  constructor
  · intro h
    cases v with
    | list items => exact ofJson?_list_eq_some_iff.mp h ▸ .parts
    | object members => exact .record (among_of_readMembers (ofJson?_object_eq_some_iff.mp h))
    | _ => cases h
  · intro h
    cases h with
    | record hmembers =>
      exact ofJson?_object_eq_some_iff.mpr
        (hmembers.readMembers (Json.distinctKeys_object_iff.mp hv).1)
    | parts => exact ofJson?_list_eq_some_iff.mpr rfl

end OtherChoice

/-! ## Picks -/

namespace Pick

/-- The values that give a pick: a text, or an "other" choice. -/
inductive GivenBy : Pick → Json → Prop
  | value {s : String} : GivenBy (value s) (.text s)
  | other {o : OtherChoice} {j : Json} : o.GivenBy j → GivenBy (other o) j

theorem ofJson?_eq_some_iff {j : Json} (hj : j.DistinctKeys) {p : Pick} :
    ofJson? j = some p ↔ p.GivenBy j := by
  constructor
  · intro h
    cases j with
    | text s => exact Option.some.inj h ▸ .value
    | list _ | object _ =>
      obtain ⟨o, ho, rfl⟩ := Option.map_eq_some_iff.mp h
      exact .other ((OtherChoice.ofJson?_eq_some_iff_givenBy hj).mp ho)
    | _ => cases h
  · intro h
    cases h with
    | value => rfl
    | @other o _ ho =>
      have hother := (OtherChoice.ofJson?_eq_some_iff_givenBy hj).mpr ho
      cases ho <;> exact Option.map_eq_some_iff.mpr ⟨o, hother, rfl⟩

theorem ofItems?_eq_some_iff {items : List Json} (hitems : ∀ j ∈ items, j.DistinctKeys)
    {picks : List Pick} : ofItems? items = some picks ↔ List.Forall₂ GivenBy picks items := by
  induction items generalizing picks with
  | nil =>
    rw [ofItems?, List.forall₂_nil_right_iff, Option.some.injEq, eq_comm]
  | cons j rest ih =>
    obtain ⟨hj, hrest⟩ := List.forall_mem_cons.mp hitems
    rw [ofItems?, List.forall₂_cons_right_iff]
    simp only [Option.bind_eq_some_iff, Option.map_eq_some_iff, ofJson?_eq_some_iff hj, ih hrest]
    constructor
    · rintro ⟨p, hp, picks, hpicks, rfl⟩
      exact ⟨p, picks, hp, hpicks, rfl⟩
    · rintro ⟨p, picks, hp, hpicks, rfl⟩
      exact ⟨p, hp, picks, hpicks, rfl⟩

end Pick

/-! ## Tables -/

namespace CellAnswer

/-- The values that give what is in a cell: a text, a list of texts, or any other value, which is
kept. -/
inductive GivenBy : CellAnswer → Json → Prop
  | text {s : String} : GivenBy (text s) (.text s)
  | selections {values : List String} : GivenBy (selections values) (.list (values.map .text))
  | unsupported {j : Json} : (∀ s, j ≠ .text s) →
    (∀ values : List String, j ≠ .list (values.map .text)) → GivenBy (unsupported j) j

theorem texts?_map_text (values : List String) : texts? (values.map .text) = some values := by
  induction values with
  | nil => rfl
  | cons s rest ih => rw [List.map_cons, texts?, ih, Option.map_some]

/-- A value that is neither a text nor a list of texts is kept. -/
theorem ofJson_eq_unsupported {j : Json} (hj : j.DistinctKeys) (htext : ∀ s, j ≠ .text s)
    (hlist : ∀ values : List String, j ≠ .list (values.map .text)) : ofJson j = unsupported j := by
  cases j with
  | text s => exact absurd rfl (htext s)
  | list items =>
    rw [ofJson]
    cases htexts : texts? items with
    | some values => exact absurd (congrArg Json.list (eq_map_text_of_texts? htexts)) (hlist values)
    | none => exact congrArg unsupported hj.withoutRepeats_eq_self
  | _ => exact congrArg unsupported hj.withoutRepeats_eq_self

theorem ofJson_eq_iff {j : Json} (hj : j.DistinctKeys) {c : CellAnswer} :
    ofJson j = c ↔ c.GivenBy j := by
  have hgives {c : CellAnswer} (h : c.GivenBy j) : ofJson j = c := by
    cases h with
    | text => rfl
    | selections => rw [ofJson, texts?_map_text]
    | unsupported htext hlist => exact ofJson_eq_unsupported hj htext hlist
  have hgiven : ∃ c : CellAnswer, c.GivenBy j := by
    by_cases htext : ∃ s, j = .text s
    · obtain ⟨s, rfl⟩ := htext
      exact ⟨_, .text⟩
    by_cases hlist : ∃ values : List String, j = .list (values.map .text)
    · obtain ⟨values, rfl⟩ := hlist
      exact ⟨_, .selections⟩
    exact ⟨_, .unsupported (not_exists.mp htext) (not_exists.mp hlist)⟩
  constructor
  · rintro rfl
    obtain ⟨c, hc⟩ := hgiven
    rwa [hgives hc]
  · exact hgives

end CellAnswer

namespace TableAnswer

/-- The cells that members give: one for each member, with what its value gives. -/
def GivenBy (cells : TableAnswer) (members : List (String × Json)) : Prop :=
  ∀ id cell, cells.get? id = some cell ↔ ∃ j, (id, j) ∈ members ∧ CellAnswer.GivenBy cell j

variable {members : List (String × Json)}

theorem ofMembers_givenBy (h : (Json.object members).DistinctKeys) :
    GivenBy (ofMembers members) members := by
  obtain ⟨hnodup, hvalues⟩ := Json.distinctKeys_object_iff.mp h
  intro id cell
  rw [ofMembers, Entries.get?_ofList_map_iff hnodup]
  exact exists_congr fun j => and_congr_right fun hj => CellAnswer.ofJson_eq_iff (hvalues _ hj)

theorem GivenBy.unique {cells cells' : TableAnswer} (h : GivenBy cells members)
    (h' : GivenBy cells' members) : cells = cells' :=
  Entries.eq_of_get? fun id cell => (h id cell).trans (h' id cell).symm

end TableAnswer

/-! ## Answers -/

namespace Answer

/-- The value is no "other" choice. -/
def NotOther (v : Json) : Prop := ∀ o : OtherChoice, ¬ o.GivenBy v

/-- The values that give an answer of each kind. The shape of an "other" choice counts before the
lists of picks and the tables, and what has none of the shapes is kept. -/
inductive GivenBy : Answer → Json → Prop
  | text {s : String} : GivenBy (text s) (.text s)
  | other {o : OtherChoice} {v : Json} : o.GivenBy v → GivenBy (other o) v
  | choices {picks : List Pick} {items : List Json} : NotOther (.list items) →
    List.Forall₂ Pick.GivenBy picks items → GivenBy (choices picks) (.list items)
  | table {cells : TableAnswer} {members : List (String × Json)} : NotOther (.object members) →
    TableAnswer.GivenBy cells members → GivenBy (table cells) (.object members)
  | unsupported {v : Json} : NotOther v → (∀ s, v ≠ .text s) →
    (∀ picks items, v = .list items → ¬ List.Forall₂ Pick.GivenBy picks items) →
    (∀ members, v ≠ .object members) → GivenBy (unsupported v) v

variable {a : Answer} {v : Json}

theorem ofJson?_eq_none_iff (hv : v.DistinctKeys) : OtherChoice.ofJson? v = none ↔ NotOther v := by
  rw [Option.eq_none_iff_forall_ne_some]
  exact forall_congr' fun o => not_congr (OtherChoice.ofJson?_eq_some_iff_givenBy hv)

/-- A value that has none of the shapes is kept. -/
theorem ofJson_eq_unsupported (hv : v.DistinctKeys) (hother : NotOther v) (htext : ∀ s, v ≠ .text s)
    (hlist : ∀ picks items, v = .list items → ¬ List.Forall₂ Pick.GivenBy picks items)
    (hobject : ∀ members, v ≠ .object members) : ofJson v = unsupported v := by
  cases v with
  | text s => exact absurd rfl (htext s)
  | object members => exact absurd rfl (hobject members)
  | list items =>
    rw [ofJson_list ((ofJson?_eq_none_iff hv).mpr hother), ofCompound]
    cases hpicks : Pick.ofItems? items with
    | some picks =>
      exact absurd ((Pick.ofItems?_eq_some_iff (Json.distinctKeys_list_iff.mp hv)).mp hpicks)
        (hlist picks items rfl)
    | none => exact congrArg unsupported hv.withoutRepeats_eq_self
  | _ => rfl

theorem ofJson_of_givenBy (hv : v.DistinctKeys) (h : a.GivenBy v) : ofJson v = a := by
  cases h with
  | text => rfl
  | other ho => exact ofJson_of_other ((OtherChoice.ofJson?_eq_some_iff_givenBy hv).mpr ho)
  | choices hother hpicks =>
    rw [ofJson_list ((ofJson?_eq_none_iff hv).mpr hother), ofCompound,
      (Pick.ofItems?_eq_some_iff (Json.distinctKeys_list_iff.mp hv)).mpr hpicks]
  | table hother hcells =>
    rw [ofJson_object ((ofJson?_eq_none_iff hv).mpr hother),
      (TableAnswer.ofMembers_givenBy hv).unique hcells]
  | unsupported hother htext hlist hobject =>
    exact ofJson_eq_unsupported hv hother htext hlist hobject

/-- Some answer is given by every value. -/
theorem exists_givenBy (hv : v.DistinctKeys) : ∃ a : Answer, a.GivenBy v := by
  by_cases hother : ∃ o : OtherChoice, o.GivenBy v
  · obtain ⟨o, ho⟩ := hother
    exact ⟨_, .other ho⟩
  have hnot : NotOther v := not_exists.mp hother
  cases v with
  | text s => exact ⟨_, .text⟩
  | object members => exact ⟨_, .table hnot (TableAnswer.ofMembers_givenBy hv)⟩
  | list items =>
    by_cases hpicks : ∃ picks, List.Forall₂ Pick.GivenBy picks items
    · obtain ⟨picks, hpicks⟩ := hpicks
      exact ⟨_, .choices hnot hpicks⟩
    · refine ⟨_, .unsupported hnot nofun (fun picks items' heq h => hpicks ⟨picks, ?_⟩) nofun⟩
      exact Json.list.inj heq ▸ h
  | _ => exact ⟨_, .unsupported hnot nofun nofun nofun⟩

theorem ofJson_eq_iff (hv : v.DistinctKeys) : ofJson v = a ↔ a.GivenBy v := by
  constructor
  · rintro rfl
    obtain ⟨a, ha⟩ := exists_givenBy hv
    rwa [ofJson_of_givenBy hv ha]
  · exact ofJson_of_givenBy hv

theorem read_ofJson (v : Json) : Reader.ofJson read v = .ok (ofJson v) := by
  rw [Reader.ofJson, read, Reader.content_ofJson rfl]
  rfl

theorem given_eq_some_iff {j : Json} (hj : j.DistinctKeys) :
    given j = some a ↔ j ≠ .null ∧ a.GivenBy j := by
  by_cases hnull : j = .null
  · subst hnull
    exact ⟨nofun, fun h => absurd rfl h.1⟩
  · rw [given_of_ne_null hnull, Option.some.injEq, ofJson_eq_iff hj]
    exact (and_iff_right hnull).symm

end Answer

/-! ## Snapshots -/

namespace Snapshot

variable {members : List (String × Json)} {r : Snapshot} {v : Json}

/-- Only an object is a snapshot, and every object is. -/
theorem read_succeeds_iff :
    (∃ r, Reader.ofJson read v = .ok r) ↔ ∃ members, v = .object members := by
  constructor
  · rintro ⟨r, h⟩
    cases v with
    | object members => exact ⟨members, rfl⟩
    | _ => cases h
  · rintro ⟨members, rfl⟩
    exact ⟨_, read_object members⟩

/-- What a snapshot says about a question is what the value of its member gives. -/
theorem get?_of_read (h : (Json.object members).DistinctKeys)
    (hread : Reader.ofJson read (.object members) = .ok r) (id : String) (a : Answer) :
    r.get? id = some a ↔ ∃ j, (id, j) ∈ members ∧ j ≠ .null ∧ a.GivenBy j := by
  obtain ⟨hnodup, hvalues⟩ := Json.distinctKeys_object_iff.mp h
  rw [get?_of_object hnodup hread]
  exact exists_congr fun j => and_congr_right fun hj => Answer.given_eq_some_iff (hvalues _ hj)

theorem mem_keys_of_read (h : (Json.object members).DistinctKeys)
    (hread : Reader.ofJson read (.object members) = .ok r) (id : String) :
    id ∈ r.answers.keys ↔ ∃ j, (id, j) ∈ members ∧ j ≠ .null := by
  rw [Entries.mem_keys_iff]
  constructor
  · rintro ⟨a, ha⟩
    obtain ⟨j, hj, hne, -⟩ := (get?_of_read h hread id a).mp ha
    exact ⟨j, hj, hne⟩
  · rintro ⟨j, hj, hne⟩
    obtain ⟨a, ha⟩ := Answer.exists_givenBy ((Json.distinctKeys_object_iff.mp h).2 _ hj)
    exact ⟨a, (get?_of_read h hread id a).mpr ⟨j, hj, hne, ha⟩⟩

end Snapshot

/-- **Reading classifies every value.** A value with distinct keys is read to an answer, and to no
other one than that which it gives by its shape. It is read to a snapshot if and only if it is an
object, whatever its members hold: a question has an answer if the value of its member is not
`null`, and the answer is what this value gives. -/
theorem reading_classifies (v : Json) (hv : v.DistinctKeys) :
    (∃ a, Reader.ofJson Answer.read v = .ok a) ∧
      (∀ a, Reader.ofJson Answer.read v = .ok a ↔ a.GivenBy v) ∧
      ((∃ r, Reader.ofJson Snapshot.read v = .ok r) ↔ ∃ members, v = .object members) ∧
      ∀ members r, v = .object members → Reader.ofJson Snapshot.read v = .ok r →
        (∀ id, id ∈ r.answers.keys ↔ ∃ j, (id, j) ∈ members ∧ j ≠ .null) ∧
          ∀ id a, r.get? id = some a ↔ ∃ j, (id, j) ∈ members ∧ j ≠ .null ∧ a.GivenBy j := by
  refine ⟨⟨_, Answer.read_ofJson v⟩, fun a => ?_, Snapshot.read_succeeds_iff, ?_⟩
  · rw [Answer.read_ofJson, Except.ok.injEq, Answer.ofJson_eq_iff hv]
  · rintro members r rfl hread
    exact ⟨Snapshot.mem_keys_of_read hv hread, Snapshot.get?_of_read hv hread⟩

/-- Answers about a wardrobe: an "other" choice without a text, a list of picks one of which is an
"other" choice given as a list, an object that is no "other" choice because of one `null`, and no
answer. -/
def wardrobe : Json :=
  .object
    [("boots", .object
        [("color", .text "red"), ("hasOther", .bool false), ("selectedValue", .text "tall")]),
      ("coats", .list [.text "long", .list [.text "own", .text "waxed", .bool true]]),
      ("gloves", .object
        [("hasOther", .bool true), ("otherValue", .null), ("selectedValue", .text "warm")]),
      ("scarf", .null)]

theorem reading_classifies_wardrobe :
    wardrobe.DistinctKeys ∧ ∃ r, Reader.ofJson Snapshot.read wardrobe = .ok r ∧
      r.get? "boots" = some (.other { selected := "tall", hasOther := false }) ∧
      r.get? "coats" = some (.choices
        [.value "long", .other { selected := "own", other := "waxed", hasOther := true }]) ∧
      (∃ cells, r.get? "gloves" = some (.table cells)) ∧ "scarf" ∉ r.answers.keys := by
  have hdistinct : wardrobe.DistinctKeys := by simp [wardrobe]
  obtain ⟨-, -, hsnapshot, hentries⟩ := reading_classifies wardrobe hdistinct
  obtain ⟨r, hr⟩ := hsnapshot.mpr ⟨_, rfl⟩
  obtain ⟨hkeys, hget⟩ := hentries _ r rfl hr
  refine ⟨hdistinct, r, hr, ?_, ?_, ?_, ?_⟩
  · refine (hget _ _).mpr ⟨_, List.mem_cons_self, nofun, .other (.record ⟨?_, .inr ⟨rfl, ?_⟩, ?_⟩)⟩
    all_goals simp
  · refine (hget _ _).mpr ⟨_, List.mem_of_getElem? (i := 1) rfl, nofun, .choices ?_ ?_⟩
    · intro o ho
      have hother := (OtherChoice.ofJson?_eq_some_iff_givenBy (by simp)).mpr ho
      simp [OtherChoice.ofJson?_list_eq_some_iff] at hother
    · exact .cons .value (.cons (.other .parts) .nil)
  · refine ⟨_, (hget _ _).mpr ⟨_, List.mem_of_getElem? (i := 2) rfl, nofun, .table ?_
      (TableAnswer.ofMembers_givenBy (by simp))⟩⟩
    rintro o (⟨-, hother, -⟩ | _)
    simp at hother
  · rw [hkeys]
    simp

end Questionnaire
