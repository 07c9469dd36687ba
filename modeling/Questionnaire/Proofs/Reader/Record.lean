import Questionnaire.Reader.Record
import Mathlib.Data.List.Pairwise
import Mathlib.Data.List.Perm.Basic
import Mathlib.Data.List.Nodup

/-!
# What record documents are read to

A record is read from the members of a document one after another. What comes out is described here
without the loop: each member is stored in the field of its name or passed over, no field is stored
twice, no required one is missing, and the record is the blank one with everything stored
(`readMembers_eq_ok_iff`). Where the fields of a record type can be stored in any order, the order
of the members does not matter (`readMembers_perm`), and a value can be replaced where it stands
(`readMembers_replace`, `readItems_replace`).
-/

namespace Questionnaire.Reader

open Json (Document)

/-! ## Reading in steps -/

theorem map_eq_ok_iff {ε α β : Type} {x : Except ε α} {f : α → β} {b : β} :
    x.map f = .ok b ↔ ∃ a, x = .ok a ∧ f a = b := by
  cases x <;> simp [Except.map]

theorem bind_eq_ok_iff {ε α β : Type} {x : Except ε α} {f : α → Except ε β} {b : β} :
    x.bind f = .ok b ↔ ∃ a, x = .ok a ∧ f a = .ok b := by
  cases x <;> simp [Except.bind]

/-! ## What members come to -/

namespace Shape

variable {α : Type}

/-- What a member comes to: the value of a field, to be stored, or nothing when it has another
name and is acceptable. -/
inductive Stores (s : Shape α) (o : Origin) :
    Option String × Document → String × Option (α → α) → Prop
  | other {name : String} {d : Document} : s.field? name = none → s.acceptsOther o d = true →
      Stores s o (some name, d) (name, none)
  | field {name : String} {d : Document} {f : Field α} {set : α → α} : s.field? name = some f →
      f.store o d = .ok set → Stores s o (some name, d) (name, some set)

/-- The values of fields among what members come to, by name. -/
def setters (entries : List (String × Option (α → α))) : List (String × (α → α)) :=
  entries.filterMap fun e => e.2.map fun set => (e.1, set)

/-- The names of the fields that are stored. -/
def storedNames (entries : List (String × Option (α → α))) : List String :=
  (setters entries).map (·.1)

/-- A record with all values of fields stored one after another. -/
def storeAll (entries : List (String × Option (α → α))) (a : α) : α :=
  (setters entries).foldl (fun a e => e.2 a) a

/-- No field is stored twice, and no required one is missing. -/
structure Complete (s : Shape α) (names : List String) : Prop where
  nodup : names.Nodup
  required : ∀ f ∈ s.fields, f.isRequired = true → f.name ∈ names

variable {s : Shape α} {o : Origin} {members : List (Option String × Document)}
  {entries : List (String × Option (α → α))} {seen : List String} {a b : α}

theorem Complete.perm {names names' : List String} (h : s.Complete names)
    (hperm : names.Perm names') : s.Complete names' :=
  ⟨hperm.nodup_iff.mp h.nodup, fun f hf hreq => hperm.mem_iff.mp (h.required f hf hreq)⟩

theorem missing?_eq_none_iff :
    s.missing? seen = none ↔ ∀ f ∈ s.fields, f.isRequired = true → f.name ∈ seen := by
  unfold missing?
  rw [List.find?_eq_none]
  simp

/-- One member is read to the value of a field that was not stored before, or passed over. -/
theorem readMembers_cons_eq_ok_iff {m : Option String × Document} :
    s.readMembers o (m :: members) seen a = .ok b ↔
      (∃ name, s.Stores o m (name, none) ∧ s.readMembers o members seen a = .ok b) ∨
      ∃ name set, s.Stores o m (name, some set) ∧ name ∉ seen ∧
        s.readMembers o members (name :: seen) (set a) = .ok b := by
  obtain ⟨_ | name, d⟩ := m
  · rw [readMembers]
    constructor
    · intro h
      cases h
    · rintro (⟨_, hm, -⟩ | ⟨_, _, hm, -⟩) <;> cases hm
  rw [readMembers]
  cases hfield : s.field? name with
  | none =>
    constructor
    · intro h
      simp only at h
      split at h
      · exact .inl ⟨name, .other hfield ‹_›, h⟩
      · cases h
    · rintro (⟨_, hm, h⟩ | ⟨_, _, hm, -⟩)
      · cases hm with
        | other _ haccepts => exact (if_pos haccepts).trans h
      · cases hm with
        | field hf _ => rw [hfield] at hf; cases hf
  | some f =>
    constructor
    · intro h
      simp only at h
      split at h
      · cases h
      · rename_i hnew
        obtain ⟨set, hset, h⟩ := bind_eq_ok_iff.mp h
        exact .inr ⟨name, set, .field hfield hset, by simpa using hnew, h⟩
    · rintro (⟨_, hm, -⟩ | ⟨_, _, hm, hnew, h⟩)
      · cases hm with
        | other hf _ => rw [hfield] at hf; cases hf
      · cases hm with
        | field hf hset =>
          rw [hfield, Option.some.injEq] at hf
          subst hf
          simp only [List.contains_eq_mem, hnew, decide_false, Bool.false_eq_true, if_false, hset]
          exact h

/-- **What members are read to**: each of them is stored in the field of its name or passed over;
no field is stored twice, and no required one is missing. -/
theorem readMembers_eq_ok_iff (hseen : seen.Nodup) :
    s.readMembers o members seen a = .ok b ↔
      ∃ entries, List.Forall₂ (s.Stores o) members entries ∧
        s.Complete (storedNames entries ++ seen) ∧ storeAll entries a = b := by
  induction members generalizing seen a with
  | nil =>
    rw [readMembers]
    constructor
    · intro h
      cases hmissing : s.missing? seen with
      | some f => rw [hmissing] at h; cases h
      | none =>
        rw [hmissing] at h
        exact ⟨[], .nil, ⟨hseen, missing?_eq_none_iff.mp hmissing⟩, Except.ok.inj h⟩
    · rintro ⟨entries, hstores, hcomplete, rfl⟩
      cases hstores
      have hmissing : s.missing? seen = none := missing?_eq_none_iff.mpr hcomplete.required
      rw [hmissing]
      rfl
  | cons m rest ih =>
    rw [readMembers_cons_eq_ok_iff]
    constructor
    · rintro (⟨name, hm, h⟩ | ⟨name, set, hm, hnew, h⟩)
      · obtain ⟨entries, hstores, hcomplete, hb⟩ := (ih hseen).mp h
        exact ⟨(name, none) :: entries, .cons hm hstores, hcomplete, hb⟩
      · obtain ⟨entries, hstores, hcomplete, hb⟩ := (ih (List.nodup_cons.mpr ⟨hnew, hseen⟩)).mp h
        exact ⟨(name, some set) :: entries, .cons hm hstores, hcomplete.perm List.perm_middle, hb⟩
    · rintro ⟨entries, hstores, hcomplete, hb⟩
      cases hstores with
      | @cons _ e _ entries hm hstores =>
        obtain ⟨name, _ | set⟩ := e
        · exact .inl ⟨name, hm, (ih hseen).mpr ⟨entries, hstores, hcomplete, hb⟩⟩
        · -- the name counts as seen from here on
          have hrest : s.Complete (storedNames entries ++ name :: seen) :=
            hcomplete.perm List.perm_middle.symm
          have hnew : (name :: seen).Nodup := (List.nodup_append.mp hrest.nodup).2.1
          exact .inr ⟨name, set, hm, (List.nodup_cons.mp hnew).1,
            (ih hnew).mpr ⟨entries, hstores, hrest, hb⟩⟩

end Shape

/-! ## The order of members -/

/-- Storing a value in one field and one in another field gives the same record in both orders. -/
def Field.Independent {α : Type} (f g : Field α) : Prop :=
  ∀ o d o' d' set set', f.store o d = .ok set → g.store o' d' = .ok set' →
    ∀ a, set (set' a) = set' (set a)

/-- Fields that set different parts of a record are independent. -/
theorem Field.independent_of_comm {α β γ : Type} {name name' : String} {q q' : Bool} {r : Reader β}
    {r' : Reader γ} {set : β → α → α} {set' : γ → α → α}
    (h : ∀ v w a, set v (set' w a) = set' w (set v a)) :
    Field.Independent ⟨name, q, fun o d => (r o d).map set⟩
      ⟨name', q', fun o d => (r' o d).map set'⟩ := by
  intro o d o' d' s s' hs hs' a
  obtain ⟨v, -, rfl⟩ := map_eq_ok_iff.mp hs
  obtain ⟨w, -, rfl⟩ := map_eq_ok_iff.mp hs'
  exact h v w a

namespace Shape

variable {α : Type}

/-- A record type whose fields have different names and are stored independently. -/
structure Independent (s : Shape α) : Prop where
  names : (s.fields.map (·.name)).Nodup
  stores : s.fields.Pairwise Field.Independent

instance : Std.Symm (Field.Independent (α := α)) :=
  ⟨fun _ _ h o d o' d' set set' hset hset' b => (h o' d' o d set' set hset' hset b).symm⟩

variable {s : Shape α} {o : Origin} {members members' : List (Option String × Document)}
  {entries entries' : List (String × Option (α → α))}

theorem mem_of_field? {name : String} {f : Field α} (h : s.field? name = some f) :
    f ∈ s.fields ∧ f.name = name :=
  ⟨List.mem_of_find?_eq_some h, by simpa using List.find?_some h⟩

/-- A value that is stored is that of a member with the name of the field. -/
theorem exists_field_of_mem_setters {e : String × (α → α)}
    (hstores : List.Forall₂ (s.Stores o) members entries) (he : e ∈ setters entries) :
    ∃ f d, (some e.1, d) ∈ members ∧ f ∈ s.fields ∧ f.name = e.1 ∧ f.store o d = .ok e.2 := by
  induction hstores with
  | nil => cases he
  | cons hm _ ih =>
    cases hm with
    | other _ _ =>
      obtain ⟨f, d, hmem, hfield⟩ := ih he
      exact ⟨f, d, List.mem_cons_of_mem _ hmem, hfield⟩
    | @field name d f set hf hset =>
      rcases List.mem_cons.mp he with rfl | he
      · obtain ⟨hmem, hname⟩ := mem_of_field? hf
        exact ⟨f, d, List.mem_cons_self, hmem, hname, hset⟩
      · obtain ⟨f', d', hmem, hfield⟩ := ih he
        exact ⟨f', d', List.mem_cons_of_mem _ hmem, hfield⟩

theorem storeAll_perm (hs : s.Independent) (hstores : List.Forall₂ (s.Stores o) members entries)
    (hnodup : (storedNames entries).Nodup) (hperm : entries.Perm entries') (a : α) :
    storeAll entries a = storeAll entries' a := by
  have hsetters : (setters entries).Perm (setters entries') := hperm.filterMap _
  refine hsetters.foldl_eq' ?_ a
  intro e he e' he' b
  obtain ⟨f, d, -, hf, hname, hset⟩ := exists_field_of_mem_setters hstores he
  obtain ⟨f', d', -, hf', hname', hset'⟩ := exists_field_of_mem_setters hstores he'
  by_cases heq : f = f'
  · -- a field is stored once
    subst heq
    have hsame : e = e' := List.inj_on_of_nodup_map hnodup he he' (hname.symm.trans hname')
    rw [hsame]
  · exact (hs.stores.forall hf hf' heq o d o d' e.2 e'.2 hset hset' b).symm

/-- **The order of members does not matter** for what a record document is read to. -/
theorem readMembers_perm (hs : s.Independent) (hperm : members.Perm members') {a b : α}
    (h : s.readMembers o members [] a = .ok b) : s.readMembers o members' [] a = .ok b := by
  obtain ⟨entries, hstores, hcomplete, rfl⟩ := (readMembers_eq_ok_iff List.nodup_nil).mp h
  obtain ⟨entries', hstores', hentries⟩ := List.perm_comp_forall₂ hperm.symm hstores
  rw [List.append_nil] at hcomplete
  refine (readMembers_eq_ok_iff List.nodup_nil).mpr ⟨entries', hstores', ?_, ?_⟩
  · rw [List.append_nil]
    exact hcomplete.perm ((hentries.symm.filterMap _).map _)
  · exact (storeAll_perm hs hstores hcomplete.nodup hentries.symm a).symm

/-- A value that is stored among others can as well be stored after them. -/
theorem storeAll_cons (hs : s.Independent) {name : String} {set : α → α}
    (hstores : List.Forall₂ (s.Stores o) members ((name, some set) :: entries))
    (hnodup : (storedNames ((name, some set) :: entries)).Nodup) (a : α) :
    storeAll ((name, some set) :: entries) a = set (storeAll entries a) := by
  rw [storeAll_perm hs hstores hnodup (List.perm_append_singleton _ _).symm a]
  simp [storeAll, setters, List.filterMap_append]

/-- The value of a member can be replaced by another one that can be read: then that one is stored
in the record, and nothing else changes. -/
theorem readMembers_replace (hs : s.Independent) {name : String} {f : Field α}
    (hfield : s.field? name = some f) {d : Document} {pre post : List (Option String × Document)}
    {a : α} (h : s.readMembers o (pre ++ (some name, d) :: post) [] s.blank = .ok a) :
    ∃ set b, f.store o d = .ok set ∧ set b = a ∧ ∀ d' set', f.store o d' = .ok set' →
      s.readMembers o (pre ++ (some name, d') :: post) [] s.blank = .ok (set' b) := by
  obtain ⟨entries, hstores, hcomplete, rfl⟩ :=
    (readMembers_eq_ok_iff List.nodup_nil).mp (readMembers_perm hs List.perm_middle h)
  rw [List.append_nil] at hcomplete
  cases hstores with
  | @cons _ _ _ entries hm hrest =>
    cases hm with
    | other hnone _ => rw [hfield] at hnone; cases hnone
    | @field _ _ g set hg hset =>
      obtain rfl : f = g := Option.some.inj (hfield.symm.trans hg)
      refine ⟨set, storeAll entries s.blank, hset,
        (storeAll_cons hs (.cons (.field hg hset) hrest) hcomplete.nodup _).symm, ?_⟩
      intro d' set' hset'
      have hstores' : List.Forall₂ (s.Stores o) ((some name, d') :: (pre ++ post))
          ((name, some set') :: entries) := .cons (.field hg hset') hrest
      refine readMembers_perm hs List.perm_middle.symm
        ((readMembers_eq_ok_iff List.nodup_nil).mpr ⟨_, hstores', ?_, ?_⟩)
      · rw [List.append_nil]
        exact hcomplete
      · exact storeAll_cons hs hstores' hcomplete.nodup _

/-- A member that has the name of a field was read to the value that the record has there. -/
theorem read_of_mem (hs : s.Independent) {β : Type} {name : String} {isRequired : Bool}
    {r : Reader β} {set : β → α → α} (get : α → β) (hget : ∀ v a, get (set v a) = v)
    (hfield : s.field? name = some ⟨name, isRequired, fun o d => (r o d).map set⟩) {d : Document}
    (hmem : (some name, d) ∈ members) {a : α} (h : s.readMembers o members [] s.blank = .ok a) :
    r o d = .ok (get a) := by
  obtain ⟨pre, post, rfl⟩ := List.append_of_mem hmem
  obtain ⟨_, b, hset, rfl, -⟩ := readMembers_replace hs hfield h
  obtain ⟨v, hv, rfl⟩ := map_eq_ok_iff.mp hset
  rw [hv, hget]

/-- A required field is among the members. -/
theorem exists_mem_of_isRequired {a b : α} (h : s.readMembers o members [] a = .ok b) {f : Field α}
    (hf : f ∈ s.fields) (hrequired : f.isRequired = true) : ∃ d, (some f.name, d) ∈ members := by
  obtain ⟨entries, hstores, hcomplete, -⟩ := (readMembers_eq_ok_iff List.nodup_nil).mp h
  rw [List.append_nil] at hcomplete
  obtain ⟨e, he, hname⟩ := List.mem_map.mp (hcomplete.required f hf hrequired)
  obtain ⟨-, d, hmem, -⟩ := exists_field_of_mem_setters hstores he
  exact ⟨d, hname ▸ hmem⟩

/-- What the value of no member changes is as it was before. -/
theorem readMembers_keeps {P : α → Prop} {a b : α} (h : s.readMembers o members [] a = .ok b)
    (ha : P a) (hkeep : ∀ f ∈ s.fields, ∀ d set, (some f.name, d) ∈ members →
      f.store o d = .ok set → ∀ x, P x → P (set x)) : P b := by
  obtain ⟨entries, hstores, -, rfl⟩ := (readMembers_eq_ok_iff List.nodup_nil).mp h
  unfold storeAll
  refine List.foldlRecOn _ _ ha fun x hx e he => ?_
  obtain ⟨f, d, hmem, hf, hname, hset⟩ := exists_field_of_mem_setters hstores he
  exact hkeep f hf d e.2 (hname ▸ hmem) hset x hx

/-- A value of an independent field can as well be stored after the items that remain. -/
theorem readItems_set {f : Field α} {fields : List (Field α)} (hf : ∀ g ∈ fields, f.Independent g)
    {d : Document} {set : α → α} (hset : f.store o d = .ok set) (length index : Nat)
    (docs : List Document) (a : α) :
    s.readItems o length fields index docs (set a) =
      (s.readItems o length fields index docs a).map set := by
  induction fields generalizing index docs a with
  | nil => cases docs <;> rfl
  | cons g fields ih =>
    obtain ⟨hg, hfields⟩ := List.forall_mem_cons.mp hf
    cases docs with
    | nil =>
      rw [readItems, readItems]
      split
      · rfl
      · exact ih hfields _ [] a
    | cons e docs =>
      rw [readItems, readItems]
      cases hset' : g.store o e with
      | error _ => rfl
      | ok set' =>
        rw [Except.bind, Except.bind, ← hg o d o e set set' hset hset' a]
        exact ih hfields _ docs (set' a)

/-- The value of an item can be replaced by another one that can be read: then that one is stored
in the record, and nothing else changes. -/
theorem readItems_replace {fields : List (Field α)} (hs : fields.Pairwise Field.Independent)
    {docs : List Document} {n : Nat} {f : Field α} {d : Document} (hf : fields[n]? = some f)
    (hd : docs[n]? = some d) {length index : Nat} {a b : α}
    (h : s.readItems o length fields index docs a = .ok b) :
    ∃ set c, f.store o d = .ok set ∧ set c = b ∧ ∀ d' set', f.store o d' = .ok set' →
      s.readItems o length fields index (docs.set n d') a = .ok (set' c) := by
  induction n generalizing fields docs index a with
  | zero =>
    obtain ⟨fields, rfl⟩ := List.head?_eq_some_iff.mp (List.head?_eq_getElem? ▸ hf)
    obtain ⟨rest, rfl⟩ := List.head?_eq_some_iff.mp (List.head?_eq_getElem? ▸ hd)
    have hall : ∀ g ∈ fields, f.Independent g := (List.pairwise_cons.mp hs).1
    rw [readItems, bind_eq_ok_iff] at h
    obtain ⟨set, hset, h⟩ := h
    rw [readItems_set hall hset, map_eq_ok_iff] at h
    obtain ⟨c, hc, rfl⟩ := h
    refine ⟨set, c, hset, rfl, fun d' set' hset' => ?_⟩
    rw [List.set_cons_zero, readItems, hset', Except.bind, readItems_set hall hset', hc]
    rfl
  | succ n ih =>
    cases fields with
    | nil => cases hf
    | cons g fields =>
      cases docs with
      | nil => cases hd
      | cons e rest =>
        rw [readItems, bind_eq_ok_iff] at h
        obtain ⟨setG, hsetG, h⟩ := h
        obtain ⟨set, c, hset, rfl, hreplace⟩ := ih (List.pairwise_cons.mp hs).2 hf hd h
        refine ⟨set, c, hset, rfl, fun d' set' hset' => ?_⟩
        rw [List.set_cons_succ, readItems, hsetG]
        exact hreplace d' set' hset'

end Shape

end Questionnaire.Reader
