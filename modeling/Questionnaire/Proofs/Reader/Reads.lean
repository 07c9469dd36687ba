import Questionnaire.Proofs.Entries
import Questionnaire.Proofs.Json.Document
import Questionnaire.Proofs.Json.Order
import Questionnaire.Proofs.Reader.Record

/-!
# What values are read to

`Reads r j a` says that a reader takes the value `j` to `a`, in whatever order the members of its
objects stand. There is one lemma for each way to build a reader. For records, `Restores` follows
the fields of the record type beside the members that are written for a record: each field is
written with a value that is read back, or left out because the blank record has its value already
(`reads_of_restores`).
-/

namespace Questionnaire.Reader

open Json (Document Reorders MembersReorder)

/-- Whether a document comes straight from a text, where it must not nest too deeply. -/
def Origin.isText : Origin → Bool
  | .text _ => true
  | _ => false

/-- A reader takes a value to `a`, in whatever order the members of its objects stand. -/
def Reads {α : Type} (r : Reader α) (j : Json) (a : α) : Prop :=
  ∀ o : Origin, o.isText = false → ∀ v : Json, v.Reorders j → r o (.ofJson v) = .ok a

theorem Origin.enter_of_not_text {o : Origin} (ho : o.isText = false) : o.enter = .ok o := by
  cases o with
  | text depth => cases ho
  | value => rfl
  | setAside => rfl

theorem content_ofJson {o : Origin} (ho : o.isText = false) (j : Json) :
    content o (.ofJson j) = .ok j := by
  unfold content
  rw [Document.toJson?_ofJson]
  cases o with
  | text depth => cases ho
  | value => rfl
  | setAside => rfl

variable {α β : Type}

theorem Reads.ofJson {r : Reader α} {j : Json} {a : α} (h : Reads r j a) :
    Reader.ofJson r j = .ok a :=
  h .value rfl j (Reorders.refl j)

/-! ## Plain values and lists -/

theorem reads_text (s : String) : Reads text (.text s) s := by
  intro o _ v hv
  rw [hv.eq_text]
  rfl

theorem reads_bool (b : Bool) : Reads bool (.bool b) b := by
  intro o _ v hv
  rw [hv.eq_bool]
  rfl

theorem natBelow_of_lt {n bound : Nat} (h : n < bound) (o : Origin) (expected : String) :
    natBelow bound expected o (.number (.int n)) = .ok ⟨n, h⟩ := by
  unfold natBelow
  exact dif_pos ⟨Int.natCast_nonneg n, h⟩

theorem reads_word32 (n : UInt32) : Reads word32 (.nat n.toNat) n := by
  intro o _ v hv
  rw [Reorders.eq_number hv, Document.ofJson, word32, natBelow_of_lt n.toNat_lt_size]
  rfl

theorem reads_position (n : UInt64) : Reads position (.nat n.toNat) n := by
  intro o _ v hv
  rw [Reorders.eq_number hv, Document.ofJson, position, natBelow_of_lt n.toNat_lt_size]
  rfl

theorem reads_variant {known : List (String × α)} {name : String} {a : α}
    (h : known.lookup name = some a) : Reads (variant known) (.text name) a := by
  intro o _ v hv
  have hnamed : variant known o (.text name) = named known name := by cases o <;> rfl
  rw [hv.eq_text, Document.ofJson, hnamed, named, h]

theorem reads_optional {r : Reader α} {j : Json} {a : α} (h : Reads r j a) (hj : j ≠ .null) :
    Reads (optional r) j (some a) := by
  intro o ho v hv
  have hread := h o ho v hv
  cases v with
  | null => exact absurd (Reorders.eq_null hv.symm) hj
  | _ =>
    simp only [Document.ofJson] at hread ⊢
    rw [optional, hread]
    · rfl
    · exact fun hnull => by cases hnull

/-- The items of a list are read one by one. -/
theorem items_eq_ok_iff {r : Reader α} {o : Origin} {docs : List Document} {l : List α} :
    Reader.items r o docs = .ok l ↔ List.Forall₂ (fun d a => r o d = .ok a) docs l := by
  induction docs generalizing l with
  | nil =>
    rw [Reader.items, List.forall₂_nil_left_iff]
    exact ⟨fun h => (Except.ok.inj h).symm, fun h => h ▸ rfl⟩
  | cons d rest ih =>
    rw [Reader.items, List.forall₂_cons_left_iff]
    simp only [bind_eq_ok_iff, map_eq_ok_iff, ih]
    constructor
    · rintro ⟨a, ha, l', hl, rfl⟩
      exact ⟨a, l', ha, hl, rfl⟩
    · rintro ⟨a, l', ha, hl, rfl⟩
      exact ⟨a, ha, l', hl, rfl⟩

theorem reads_list {r : Reader α} {f : α → Json} {l : List α} (h : ∀ a ∈ l, Reads r (f a) a) :
    Reads (list r) (.list (l.map f)) l := by
  intro o ho v hv
  obtain ⟨items, rfl, hitems⟩ := hv.exists_list
  have hread : List.Forall₂ (fun j a => r o (.ofJson j) = .ok a) items l :=
    forall₂_of_mem_right (List.forall₂_map_right_iff.mp hitems) fun j a ha hj => h a ha o ho j hj
  rw [Document.ofJson, list, Origin.enter_of_not_text ho, Except.bind, Document.ofItems_eq_map]
  exact items_eq_ok_iff.mpr (List.forall₂_map_left_iff.mpr hread)

/-- The members of a record of any names are put one after another. -/
theorem entries_ofMembers {r : Reader α} {o : Origin} {members : List (String × Json)}
    {pairs : List (String × α)}
    (h : List.Forall₂ (fun m p => m.1 = p.1 ∧ r o (.ofJson m.2) = .ok p.2) members pairs)
    (m : Entries α) :
    Reader.entries r o (Document.ofMembers members) m =
      .ok (pairs.foldl (fun m p => m.put p.1 p.2) m) := by
  induction h generalizing m with
  | nil => rfl
  | @cons member pair _ _ hm _ ih =>
    obtain ⟨name, j⟩ := member
    obtain ⟨rfl, hread⟩ := hm
    rw [Document.ofMembers, Reader.entries, hread, Except.bind, ih, List.foldl_cons]

theorem reads_map {r : Reader α} {f : α → Json} {m : Entries α}
    (h : ∀ p ∈ m.toList, Reads r (f p.2) p.2) :
    Reads (map r) (.object (m.toList.map fun p => (p.1, f p.2))) m := by
  intro o ho v hv
  obtain ⟨members, rfl, between, hperm, hbetween⟩ := hv.exists_object
  have hread : List.Forall₂ (fun m p => m.1 = p.1 ∧ r o (.ofJson m.2) = .ok p.2) between m.toList :=
    forall₂_of_mem_right (List.forall₂_map_right_iff.mp hbetween)
      fun j p hp hj => ⟨hj.1, h p hp o ho j.2 hj.2⟩
  obtain ⟨pairs, hpairs, hperm'⟩ := List.perm_comp_forall₂ hperm hread
  rw [Document.ofJson, map, Origin.enter_of_not_text ho, Except.bind, entries_ofMembers hpairs]
  exact congrArg Except.ok (Entries.ofList_eq_of_perm hperm')

/-! ## Records -/

/-- The members that are written for a record restore it: following the fields, the record `a`
becomes `b`. -/
inductive Restores : List (Field α) → List (String × Option Json) → α → α → Prop
  | done {a b : α} : a = b → Restores [] [] a b
  | given {f : Field α} {fields : List (Field α)} {parts : List (String × Option Json)} {j : Json}
      {set : α → α} {a b : α} : Reads f.store j set → Restores fields parts (set a) b →
      Restores (f :: fields) ((f.name, some j) :: parts) a b
  | omitted {f : Field α} {fields : List (Field α)} {parts : List (String × Option Json)}
      {a b : α} : f.isRequired = false → Restores fields parts a b →
      Restores (f :: fields) ((f.name, none) :: parts) a b

namespace Restores

section

variable {fields : List (Field α)} {parts : List (String × Option Json)} {a b : α} {name : String}
  {r : Reader β} {set : β → α → α}

/-- A value that is read back is stored. -/
theorem reads_store {j : Json} {x : β} (h : Reads r j x) :
    Reads (fun o d => (r o d).map set) j (set x) := by
  intro o ho v hv
  simp only [h o ho v hv]
  rfl

theorem required {j : Json} {x : β} (h : Reads r j x) (hrest : Restores fields parts (set x a) b) :
    Restores (.required name r set :: fields) ((name, some j) :: parts) a b :=
  .given (f := .required name r set) (reads_store h) hrest

theorem optional {j : Json} {x : β} (h : Reads r j x) (hrest : Restores fields parts (set x a) b) :
    Restores (.optional name r set :: fields) ((name, some j) :: parts) a b :=
  .given (f := .optional name r set) (reads_store h) hrest

/-- A field that is left out when the record has its value without being given one. -/
theorem leftOut {part : Option Json} {x : β} (h : ∀ j ∈ part, Reads r j x)
    (hskip : part = none → set x a = a) (hrest : Restores fields parts (set x a) b) :
    Restores (.optional name r set :: fields) ((name, part) :: parts) a b := by
  cases part with
  | none =>
    rw [hskip rfl] at hrest
    exact .omitted (f := .optional name r set) rfl hrest
  | some j => exact optional (h j rfl) hrest

/-- A value that there may or may not be is left out when there is none. -/
theorem optionalValue {set : Option β → α → α} {f : β → Json} {x : Option β}
    (h : ∀ y, Reads r (f y) y) (hf : ∀ y, f y ≠ .null) (hblank : set none a = a)
    (hrest : Restores fields parts (set x a) b) :
    Restores (.optional name (Reader.optional r) set :: fields) ((name, x.map f) :: parts) a b := by
  refine leftOut (x := x) ?_ ?_ hrest
  · intro j hj
    obtain ⟨y, rfl, rfl⟩ := Option.map_eq_some_iff.mp hj
    exact reads_optional (h y) (hf y)
  · intro hnone
    rw [Option.map_eq_none_iff.mp hnone]
    exact hblank

end

/-- There is one part for each field. -/
theorem names_eq {fields : List (Field α)} {parts : List (String × Option Json)} {a b : α}
    (h : Restores fields parts a b) : parts.map (·.1) = fields.map (·.name) := by
  induction h with
  | done _ => rfl
  | given _ _ ih => rw [List.map_cons, List.map_cons, ih]
  | omitted _ _ ih => rw [List.map_cons, List.map_cons, ih]

/-- What is written for a record comes to values which are stored in the fields of these names and
make up the record. -/
theorem exists_sets {s : Shape α} {fields : List (Field α)} {parts : List (String × Option Json)}
    {a b : α} (h : Restores fields parts a b)
    (hfields : ∀ f ∈ fields, s.field? f.name = some f) :
    ∃ sets : List (String × (α → α)),
      List.Forall₂ (fun m e => m.1 = e.1 ∧ ∃ f, s.field? m.1 = some f ∧ Reads f.store m.2 e.2)
        (Json.present parts) sets ∧
      (sets.map (·.1)).Sublist (fields.map (·.name)) ∧
      (∀ f ∈ fields, f.isRequired = true → f.name ∈ sets.map (·.1)) ∧
      sets.foldl (fun a e => e.2 a) a = b := by
  induction h with
  | done heq => exact ⟨[], .nil, .slnil, by simp, heq⟩
  | @given f fields parts j set a b hread _ ih =>
    obtain ⟨sets, hsets, hnames, hrequired, hfold⟩ :=
      ih fun g hg => hfields g (List.mem_cons_of_mem _ hg)
    refine ⟨(f.name, set) :: sets, .cons ⟨rfl, f, hfields f List.mem_cons_self, hread⟩ hsets,
      hnames.cons_cons _, ?_, hfold⟩
    intro g hg hreq
    rcases List.mem_cons.mp hg with rfl | hg
    · exact List.mem_cons_self
    · exact List.mem_cons_of_mem _ (hrequired g hg hreq)
  | @omitted f fields parts a b hoptional _ ih =>
    obtain ⟨sets, hsets, hnames, hrequired, hfold⟩ :=
      ih fun g hg => hfields g (List.mem_cons_of_mem _ hg)
    refine ⟨sets, hsets, hnames.cons _, ?_, hfold⟩
    intro g hg hreq
    rcases List.mem_cons.mp hg with rfl | hg
    · rw [hoptional] at hreq
      cases hreq
    · exact hrequired g hg hreq

end Restores

namespace Shape

variable {s : Shape α}

theorem acceptsOther_ofJson {o : Origin} (ho : o.isText = false) (j : Json) :
    s.acceptsOther o (.ofJson j) = true := by
  unfold acceptsOther
  rw [content_ofJson ho, Document.isIntact_ofJson]
  exact ite_self true

theorem Independent.field?_of_mem (hs : s.Independent) {f : Field α} (hf : f ∈ s.fields) :
    s.field? f.name = some f := by
  unfold field?
  cases hfind : s.fields.find? fun g => g.name == f.name with
  | none =>
    have hne := List.find?_eq_none.mp hfind f hf
    simp at hne
  | some g =>
    have hname : g.name = f.name := by simpa using List.find?_some hfind
    rw [List.inj_on_of_nodup_map hs.names (List.mem_of_find?_eq_some hfind) hf hname]

/-- **What is written for a record is read back**, with its members in any order and among members
of other names. -/
theorem readMembers_of_restores (hs : s.Independent) {parts : List (String × Option Json)} {a : α}
    (h : Restores s.fields parts s.blank a) (others : List (String × Json))
    {members : List (String × Json)} (hothers : ∀ m ∈ others, s.field? m.1 = none) {o : Origin}
    (ho : o.isText = false)
    (hmembers : MembersReorder members (Json.present parts ++ others)) :
    s.readMembers o (Document.ofMembers members) [] s.blank = .ok a := by
  obtain ⟨sets, hsets, hnames, hrequired, rfl⟩ := h.exists_sets fun f hf => hs.field?_of_mem hf
  obtain ⟨between, hperm, hbetween⟩ := hmembers
  -- each field comes to its value, and what is of another name to nothing
  let entries := sets.map (fun e => (e.1, some e.2)) ++ others.map fun m => (m.1, none)
  have hsetters : setters entries = sets := by
    simp [entries, setters, List.filterMap_append, List.filterMap_map]
  have hentries : List.Forall₂ (fun (m : String × Json) (e : String × Option (α → α)) =>
      ∀ v : Json, v.Reorders m.2 → s.Stores o (some m.1, .ofJson v) e)
      (Json.present parts ++ others) entries := by
    refine List.rel_append ?_ ?_
    · refine List.forall₂_map_right_iff.mpr (hsets.imp fun m e hm v hv => ?_)
      obtain ⟨hname, f, hf, hread⟩ := hm
      exact hname ▸ .field hf (hread o ho v hv)
    · refine List.forall₂_map_right_iff.mpr (List.forall₂_same.mpr fun m hm v _ => ?_)
      exact .other (hothers m hm) (acceptsOther_ofJson ho v)
  have hstores : List.Forall₂ (s.Stores o)
      (between.map fun m => (some m.1, Document.ofJson m.2)) entries := by
    refine List.forall₂_map_left_iff.mpr (forall₂_trans hbetween hentries ?_)
    intro m m' e hm hstores
    rw [hm.1]
    exact hstores m.2 hm.2
  have hcomplete : s.Complete (storedNames entries) := by
    unfold storedNames
    rw [hsetters]
    exact ⟨hnames.nodup hs.names, hrequired⟩
  have hread : s.readMembers o (between.map fun m => (some m.1, Document.ofJson m.2)) [] s.blank =
      .ok (sets.foldl (fun a e => e.2 a) s.blank) := by
    refine (readMembers_eq_ok_iff List.nodup_nil).mpr ⟨entries, hstores, ?_, ?_⟩
    · rw [List.append_nil]
      exact hcomplete
    · rw [storeAll, hsetters]
  rw [Document.ofMembers_eq_map]
  exact readMembers_perm hs (hperm.symm.map _) hread

/-- A record is read from the members that are its parts, among others, if each part is the only
member of its name and a part that is omitted is not a member. -/
theorem readMembers_of_parts (hs : s.Independent) {parts : List (String × Option Json)} {a : α}
    (h : Restores s.fields parts s.blank a) {members : List (String × Json)}
    (hnodup : (members.map (·.1)).Nodup)
    (hgiven : ∀ name j, (name, some j) ∈ parts → (name, j) ∈ members)
    (homitted : ∀ name, (name, none) ∈ parts → ∀ m ∈ members, m.1 ≠ name) {o : Origin}
    (ho : o.isText = false) :
    s.readMembers o (Document.ofMembers members) [] s.blank = .ok a := by
  have hfield : ∀ m ∈ Json.present parts, s.field? m.1 ≠ none := by
    rintro ⟨name, j⟩ hm hnone
    have hname := List.mem_map_of_mem (f := (·.1)) (Json.mem_present_iff.mp hm)
    rw [h.names_eq, List.mem_map] at hname
    obtain ⟨f, hf, rfl⟩ := hname
    rw [hs.field?_of_mem hf] at hnone
    cases hnone
  have hpresent : ∀ m ∈ members, s.field? m.1 ≠ none → m ∈ Json.present parts := by
    rintro ⟨name, j⟩ hm hsome
    obtain ⟨f, hf⟩ := Option.ne_none_iff_exists'.mp hsome
    obtain ⟨hmem, rfl⟩ := mem_of_field? hf
    have hname := List.mem_map_of_mem (f := (·.name)) hmem
    rw [← h.names_eq, List.mem_map] at hname
    obtain ⟨⟨_, part⟩, hpart, rfl⟩ := hname
    cases part with
    | none => exact absurd rfl (homitted _ hpart _ hm)
    | some k =>
      have heq := List.inj_on_of_nodup_map hnodup (hgiven _ k hpart) hm rfl
      exact heq ▸ Json.mem_present_iff.mpr hpart
  have hparts : (Json.present parts).Nodup :=
    ((h.names_eq ▸ hs.names).sublist (Json.sublist_names_present parts)).of_map
  let others := members.filter fun m => (s.field? m.1).isNone
  have hperm : members.Perm (Json.present parts ++ others) := by
    refine (List.perm_ext_iff_of_nodup hnodup.of_map
      (List.nodup_append.mpr ⟨hparts, hnodup.of_map.filter _, ?_⟩)).mpr ?_
    · rintro m hm _ hother rfl
      exact hfield m hm (by simpa using (List.mem_filter.mp hother).2)
    · intro m
      rw [List.mem_append, List.mem_filter, Option.isNone_iff_eq_none]
      constructor
      · intro hm
        by_cases hnone : s.field? m.1 = none
        · exact .inr ⟨hm, hnone⟩
        · exact .inl (hpresent m hm hnone)
      · rintro (hm | hm)
        · exact hgiven m.1 m.2 (Json.mem_present_iff.mp hm)
        · exact hm.1
  refine readMembers_of_restores hs h others (fun m hm => ?_) ho
    ⟨_, hperm, List.forall₂_same.mpr fun m _ => ⟨rfl, .refl _⟩⟩
  simpa using (List.mem_filter.mp hm).2

theorem reads_of_restores (hs : s.Independent) {parts : List (String × Option Json)} {a : α}
    (h : Restores s.fields parts s.blank a) : Reads s.read (.object (Json.present parts)) a := by
  intro o ho v hv
  obtain ⟨members, rfl, hmembers⟩ := hv.exists_object
  rw [Document.ofJson, read, Origin.enter_of_not_text ho, Except.bind]
  exact readMembers_of_restores hs h [] (by simp) ho (by rwa [List.append_nil])

end Shape

/-! ## The order of members -/

/-- What a value is read to does not depend on the order in which its members stand. -/
def OrderFree (r : Reader α) : Prop :=
  ∀ o : Origin, o.isText = false → ∀ (j v : Json) (a : α), v.Reorders j →
    r o (.ofJson j) = .ok a → r o (.ofJson v) = .ok a

theorem eq_text_of_read {o : Origin} {j : Json} {s : String} (h : text o (.ofJson j) = .ok s) :
    j = .text s := by
  cases j with
  | text s' => exact congrArg Json.text (Except.ok.inj h)
  | _ => cases h

theorem eq_bool_of_read {o : Origin} {j : Json} {b : Bool} (h : bool o (.ofJson j) = .ok b) :
    j = .bool b := by
  cases j with
  | bool b' => exact congrArg Json.bool (Except.ok.inj h)
  | _ => cases h

theorem orderFree_text : OrderFree text := by
  intro o ho j v s hv h
  exact reads_text s o ho v (eq_text_of_read h ▸ hv)

theorem orderFree_bool : OrderFree bool := by
  intro o ho j v b hv h
  exact reads_bool b o ho v (eq_bool_of_read h ▸ hv)

theorem OrderFree.map {r : Reader β} (hr : OrderFree r) (set : β → α) :
    OrderFree fun o d => (r o d).map set := by
  intro o ho j v a hv h
  obtain ⟨x, hx, rfl⟩ := map_eq_ok_iff.mp h
  exact map_eq_ok_iff.mpr ⟨x, hr o ho j v x hv hx, rfl⟩

namespace Shape

variable {s : Shape α}

theorem readItems_of_reorders {fields : List (Field α)} (hfields : ∀ f ∈ fields, OrderFree f.store)
    {o : Origin} (ho : o.isText = false) {items items' : List Json}
    (hitems : List.Forall₂ Reorders items' items) {length index : Nat} {a b : α}
    (h : s.readItems o length fields index (Document.ofItems items) a = .ok b) :
    s.readItems o length fields index (Document.ofItems items') a = .ok b := by
  induction hitems generalizing fields index a with
  | nil => exact h
  | cons hj _ ih =>
    cases fields with
    | nil => cases h
    | cons f fields =>
      obtain ⟨hf, hrest⟩ := List.forall_mem_cons.mp hfields
      rw [Document.ofItems, readItems, bind_eq_ok_iff] at h ⊢
      obtain ⟨set, hset, h⟩ := h
      exact ⟨set, hf o ho _ _ set hj hset, ih hrest h⟩

theorem orderFree (hs : s.Independent) (hfields : ∀ f ∈ s.fields, OrderFree f.store) :
    OrderFree s.read := by
  intro o ho j v a hv h
  cases j with
  | list items =>
    obtain ⟨items', rfl, hitems⟩ := hv.exists_list
    rw [Document.ofJson, read, Origin.enter_of_not_text ho, Except.bind, Document.ofItems_eq_map,
      List.length_map, ← Document.ofItems_eq_map] at h ⊢
    rw [hitems.length_eq]
    exact readItems_of_reorders hfields ho hitems h
  | object members =>
    obtain ⟨members', rfl, between, hperm, hbetween⟩ := hv.exists_object
    rw [Document.ofJson, read, Origin.enter_of_not_text ho, Except.bind,
      Document.ofMembers_eq_map] at h ⊢
    obtain ⟨entries, hstores, hcomplete⟩ := (readMembers_eq_ok_iff List.nodup_nil).mp h
    refine readMembers_perm hs (hperm.symm.map _)
      ((readMembers_eq_ok_iff List.nodup_nil).mpr ⟨entries, ?_, hcomplete⟩)
    refine List.forall₂_map_left_iff.mpr
      (forall₂_trans hbetween (List.forall₂_map_left_iff.mp hstores) ?_)
    rintro ⟨name, j⟩ ⟨_, j'⟩ e ⟨rfl, hj⟩ hm
    cases hm with
    | other hnone _ => exact .other hnone (acceptsOther_ofJson ho j)
    | @field _ _ f set hf hset =>
      exact .field hf (hfields f (mem_of_field? hf).1 o ho j' j set hj hset)
  | _ => cases h

end Shape

end Questionnaire.Reader
