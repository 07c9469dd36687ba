import Questionnaire.Proofs.Table.RoundTrip
import Questionnaire.Condition.Format

/-!
# Conditions are read back

The members of a condition and those of its test stand side by side in one object. The names of the
two do not meet, so what the members of the condition leave over is what was written for the test,
and the tag among it tells which test that was.
-/

namespace Questionnaire

open Json (Document MembersReorder)
open Reader (Reads Restores Shape Field reads_text reads_bool reads_list reads_variant)

/-! ## Tests -/

namespace TestKind

/-- The kind of test is found where its tag stands, once, among members in any order. -/
theorem find_ofMembers {k : TestKind} {members : List (String × Json)}
    (hnodup : (members.map (·.1)).Nodup) (htag : (tag, .text k.name) ∈ members) :
    find none (Document.ofMembers members) = .ok k := by
  have hread : read .setAside (.text k.name) = .ok k := by cases k <;> rfl
  have hpast : ∀ rest : List (String × Json), tag ∉ rest.map (·.1) →
      find (some k) (Document.ofMembers rest) = .ok k := by
    intro rest hrest
    induction rest with
    | nil => rfl
    | cons m rest ih =>
      rw [List.map_cons, List.mem_cons, not_or] at hrest
      rw [Document.ofMembers, find, if_neg fun h => hrest.1 (Option.some.inj h).symm]
      exact ih hrest.2
  induction members with
  | nil => cases htag
  | cons m rest ih =>
    obtain ⟨hnew, hrest⟩ : m.1 ∉ rest.map (·.1) ∧ (rest.map (·.1)).Nodup :=
      List.nodup_cons.mp hnodup
    rw [Document.ofMembers, find]
    rcases List.mem_cons.mp htag with rfl | htag
    · rw [if_pos rfl, Document.ofJson]
      simp only [hread]
      exact hpast rest hnew
    · have hne : m.1 ≠ tag := fun h => hnew (h ▸ List.mem_map_of_mem htag)
      rw [if_neg fun h => hne (Option.some.inj h)]
      exact ih hrest htag

end TestKind

namespace Test

/-- The kind of a test. -/
def kind : Test → TestKind
  | value _ => .value
  | cells _ _ => .cells

/-- The members of a test beside the tag. -/
def ownMembers : Test → List (String × Option Json)
  | value required => [("requiredValues", Json.listUnlessEmpty .text required)]
  | cells primary extra =>
    [("tableConditions", primary.map Table.Check.toJson),
      ("additionalConditions", extra.map Table.Check.toJson)]

theorem present_members (t : Test) :
    Json.present t.members = (TestKind.tag, .text t.kind.name) :: Json.present t.ownMembers := by
  cases t <;> rfl

theorem independent (k : TestKind) : (shape k).Independent := by
  cases k with
  | value => exact ⟨by decide, List.pairwise_singleton _ _⟩
  | cells =>
    refine ⟨by decide, ?_⟩
    have hcomm : ∀ v w t, withPrimary v (withExtra w t) = withExtra w (withPrimary v t) := by
      intro v w t
      cases t <;> rfl
    simp [shape, cellsShape, Field.optional, Field.independent_of_comm hcomm]

theorem restores (t : Test) :
    Restores (shape t.kind).fields t.ownMembers (shape t.kind).blank t := by
  cases t with
  | value required =>
    exact .listUnlessEmpty (l := required) (fun s _ => reads_text s) rfl (.done rfl)
  | cells primary extra =>
    refine .optionalValue (x := primary) Table.Check.reads (by nofun) rfl ?_
    exact .optionalValue (x := extra) Table.Check.reads (by nofun) rfl (.done rfl)

/-- What was written for a test is read back when it was set aside. -/
theorem ofOthers_members {t : Test} {members : List (String × Json)}
    (h : MembersReorder members (Json.present t.members)) :
    ofOthers (Document.ofMembers members) = .ok t := by
  have hnames : ((Json.present t.members).map (·.1)).Nodup := by
    refine (Json.sublist_names_present t.members).nodup ?_
    cases t <;> simp [Test.members, TestKind.tag]
  rw [present_members] at h
  have hkind : TestKind.find none (Document.ofMembers members) = .ok t.kind := by
    obtain ⟨v, hv, hsame⟩ := h.exists_mem List.mem_cons_self
    refine TestKind.find_ofMembers (h.perm_names.nodup_iff.mpr (present_members t ▸ hnames)) ?_
    exact hsame.eq_text ▸ hv
  rw [ofOthers, hkind]
  refine Shape.readMembers_of_restores (independent t.kind) t.restores
    [(TestKind.tag, .text t.kind.name)] ?_ rfl (h.perm_right ?_)
  · intro m hm
    rw [List.mem_singleton.mp hm]
    cases t <;> rfl
  · exact (List.perm_append_singleton _ _).symm

end Test

/-! ## Conditions and guards -/

namespace Condition

/-- The members that every condition has. -/
def ownMembers (c : Condition) : List (String × Option Json) :=
  [("id", some (.text c.id)),
    ("enabled", some (.bool c.isEnabled)),
    ("sourceQuestionId", some (.text c.source))]

theorem independent : shape.Independent where
  names := by decide
  stores := by simp [shape, Field.required, Field.optional, Field.independent_of_comm]

theorem restores (c : Condition) :
    Restores shape.fields c.ownMembers shape.blank { c with test := .value [] } := by
  refine .optional (reads_text c.id) ?_
  refine .optional (reads_bool c.isEnabled) ?_
  exact .required (reads_text c.source) (.done rfl)

/-- No member of a test has the name of a member that every condition has. -/
theorem field?_of_mem_test {t : Test} {m : String × Json} (hm : m ∈ Json.present t.members) :
    shape.field? m.1 = none := by
  have hname : m.1 ∈ t.members.map (·.1) :=
    (Json.sublist_names_present t.members).subset (List.mem_map_of_mem hm)
  have hall : ∀ name ∈ t.members.map (·.1), shape.field? name = none := by
    cases t <;> simp [Test.members, TestKind.tag, Shape.field?, shape, Field.required,
      Field.optional]
  exact hall m.1 hname

theorem others_ofMembers (members : List (String × Json)) :
    others (Document.ofMembers members) =
      Document.ofMembers (members.filter fun m => (shape.field? m.1).isNone) := by
  simp only [Document.ofMembers_eq_map, others, List.filter_map]
  rfl

theorem reads (c : Condition) : Reads read c.toJson c := by
  intro o ho v hv
  obtain ⟨members, rfl, hmembers⟩ := hv.exists_object
  replace hmembers : MembersReorder members
      (Json.present c.ownMembers ++ Json.present c.test.members) :=
    Json.present_append _ _ ▸ hmembers
  have hown : shape.readMembers o (Document.ofMembers members) [] shape.blank =
      .ok { c with test := .value [] } :=
    Shape.readMembers_of_restores independent c.restores _ (fun _ => field?_of_mem_test) ho hmembers
  -- what is set aside is what the condition itself has no use for: the members of the test
  have htest : Test.ofOthers (others (Document.ofMembers members)) = .ok c.test := by
    rw [others_ofMembers]
    refine Test.ofOthers_members ?_
    have hleft := hmembers.filter fun name => (shape.field? name).isNone
    have hnone : (Json.present c.ownMembers).filter (fun m => (shape.field? m.1).isNone) = [] := rfl
    have hall : (Json.present c.test.members).filter (fun m => (shape.field? m.1).isNone) =
        Json.present c.test.members :=
      List.filter_eq_self.mpr fun m hm => Option.isNone_iff_eq_none.mpr (field?_of_mem_test hm)
    rwa [List.filter_append, hnone, hall, List.nil_append] at hleft
  rw [Document.ofJson, read, Reader.Origin.enter_of_not_text ho, Except.bind, hown, Except.bind,
    htest]
  rfl

end Condition

theorem Logic.reads (l : Logic) : Reads read (.text l.name) l := by
  refine reads_variant ?_
  cases l <;> rfl

namespace Guard

theorem independent : shape.Independent where
  names := by decide
  stores := by simp [shape, Field.optional, Field.independent_of_comm]

theorem reads (g : Guard) : Reads read g.toJson g := by
  have h : Restores shape.fields
      [("conditions", some (.list (g.conditions.map Condition.toJson))),
        ("logicType", some (.text g.logic.name))] shape.blank g := by
    refine .optional (reads_list (l := g.conditions) fun c _ => c.reads) ?_
    exact .optional (Logic.reads g.logic) (.done rfl)
  exact Shape.reads_of_restores independent h

end Guard

end Questionnaire
