import Questionnaire.Proofs.Condition.RoundTrip
import Questionnaire.Survey.Format
import Mathlib.Data.List.Sort

/-!
# Surveys are read back

The value of a survey is read back to the same survey with its questions in order. Everything below
the survey is read back as it was; the questions are sorted stably, so that reading changes nothing
more once a survey has been read. When the questions of a document all have different orders, it
does not matter where in the list they stand.
-/

namespace Questionnaire

open Json (Document)
open Reader (Reads Restores Shape Field reads_text reads_word32 reads_list reads_map reads_variant
  map_eq_ok_iff)

theorem RuleKind.reads (k : RuleKind) : Reads read (.text k.name) k := by
  refine reads_variant ?_
  cases k <;> rfl

theorem RuleAction.reads (a : RuleAction) : Reads read (.text a.name) a := by
  refine reads_variant ?_
  cases a <;> rfl

theorem QuestionKind.reads (k : QuestionKind) : Reads read (.text k.name) k := by
  refine reads_variant ?_
  cases k <;> rfl

namespace Rule

theorem independent : shape.Independent where
  names := by decide
  stores := by simp [shape, Field.required, Field.optional, Field.independent_of_comm]

theorem reads_targets (targets : Entries String) :
    Reads (Reader.map Reader.text) (targetsJson targets) targets :=
  reads_map fun target _ => reads_text target.2

theorem reads (r : Rule) : Reads read r.toJson r := by
  refine Shape.reads_of_restores independent ?_
  refine .required (reads_text r.id) ?_
  refine .required (RuleKind.reads r.kind) ?_
  refine .required (Table.Check.reads r.check) ?_
  refine .optionalValue (x := r.extra) Table.Check.reads (by nofun) rfl ?_
  refine .required (RuleAction.reads r.action) ?_
  refine .optionalValue (x := r.target) reads_text (by nofun) rfl ?_
  refine .optionalValue (x := r.targetMap) reads_targets (by nofun) rfl ?_
  refine .optionalValue (x := r.errorMessage) reads_text (by nofun) rfl ?_
  exact .done rfl

end Rule

namespace Question

theorem independent : shape.Independent where
  names := by decide
  stores := by simp [shape, Field.required, Field.optional, Field.independent_of_comm]

theorem reads (q : Question) : Reads read q.toJson q := by
  refine Shape.reads_of_restores independent ?_
  refine .required (reads_text q.id) ?_
  refine .required (QuestionKind.reads q.kind) ?_
  refine .optionalValue (x := q.title) reads_text (by nofun) rfl ?_
  refine .optionalValue (x := q.groupId) reads_text (by nofun) rfl ?_
  refine .optional (reads_word32 q.order) ?_
  refine .optionalValue (x := q.guard) Guard.reads (by nofun) rfl ?_
  refine .listUnlessEmpty (l := q.grid) (fun row _ => row.reads) rfl ?_
  refine .listUnlessEmpty (l := q.columns) (fun column _ => column.reads) rfl ?_
  refine .listUnlessEmpty (l := q.rules) (fun rule _ => rule.reads) rfl ?_
  exact .done rfl

end Question

namespace Group

theorem independent : shape.Independent where
  names := by decide
  stores := by simp [shape, Field.required, Field.optional, Field.independent_of_comm]

theorem reads (g : Group) : Reads read g.toJson g := by
  refine Shape.reads_of_restores independent ?_
  refine .required (reads_text g.id) ?_
  refine .optionalValue (x := g.name) reads_text (by nofun) rfl ?_
  refine .optionalValue (x := g.parentId) reads_text (by nofun) rfl ?_
  refine .optional (reads_word32 g.order) ?_
  refine .optionalValue (x := g.guard) Guard.reads (by nofun) rfl ?_
  exact .done rfl

end Group

namespace Survey

/-! ## The order of questions -/

variable {s : Survey} {questions : List Question}

theorem ordered_perm (s : Survey) : s.ordered.questions.Perm s.questions :=
  List.mergeSort_perm _ _

theorem order_trans (p q r : Question) (hpq : decide (p.order ≤ q.order) = true)
    (hqr : decide (q.order ≤ r.order) = true) : decide (p.order ≤ r.order) = true :=
  decide_eq_true (UInt32.le_trans (of_decide_eq_true hpq) (of_decide_eq_true hqr))

theorem order_total (p q : Question) :
    (decide (p.order ≤ q.order) || decide (q.order ≤ p.order)) = true := by
  simpa using UInt32.le_total p.order q.order

theorem ordered_ascending (s : Survey) :
    s.ordered.questions.Pairwise fun p q => p.order ≤ q.order :=
  (List.pairwise_mergeSort order_trans order_total s.questions).imp of_decide_eq_true

/-- Questions of one order keep their sequence. -/
theorem ordered_stable (s : Survey) (k : UInt32) :
    s.ordered.questions.filter (·.order == k) = s.questions.filter (·.order == k) := by
  have hsame : (s.questions.filter (·.order == k)).Pairwise
      fun p q => decide (p.order ≤ q.order) = true := by
    refine List.pairwise_of_forall_mem_list fun p hp q hq => decide_eq_true ?_
    rw [eq_of_beq (List.mem_filter.mp hp).2, eq_of_beq (List.mem_filter.mp hq).2]
    exact UInt32.le_refl k
  have hsub : (s.questions.filter (·.order == k)).Sublist s.ordered.questions :=
    List.sublist_mergeSort order_trans order_total hsame List.filter_sublist
  have hfilter := hsub.filter (·.order == k)
  simp only [List.filter_filter, Bool.and_self] at hfilter
  exact (hfilter.eq_of_length (s.ordered_perm.filter _).length_eq.symm).symm

theorem ordered_of_ascending (h : s.questions.Pairwise fun p q => p.order ≤ q.order) :
    s.ordered = s := by
  have hsort : s.ordered.questions = s.questions :=
    List.mergeSort_of_pairwise (h.imp decide_eq_true)
  exact congrArg (fun questions => { s with questions }) hsort

/-- Questions with different orders come into the same sequence wherever they stood. -/
theorem ordered_eq_of_perm (hperm : s.questions.Perm questions)
    (hnodup : (s.questions.map (·.order)).Nodup) : { s with questions }.ordered = s.ordered := by
  have hperm' : { s with questions }.ordered.questions.Perm s.ordered.questions :=
    (ordered_perm _).trans (hperm.symm.trans s.ordered_perm.symm)
  have hsort : { s with questions }.ordered.questions = s.ordered.questions := by
    refine hperm'.eq_of_pairwise (fun p q hp hq hpq hqp => ?_) (ordered_ascending _)
      (ordered_ascending _)
    refine List.inj_on_of_nodup_map hnodup ?_ ?_ (UInt32.le_antisymm hpq hqp)
    · exact hperm.mem_iff.mpr ((ordered_perm _).mem_iff.mp hp)
    · exact s.ordered_perm.mem_iff.mp hq
  exact congrArg (fun questions => { s with questions }) hsort

/-! ## Surveys -/

theorem independent : shape.Independent where
  names := by decide
  stores := by simp [shape, Field.required, Field.optional, Field.independent_of_comm]

theorem reads_shape (s : Survey) : Reads shape.read s.toJson s := by
  refine Shape.reads_of_restores independent ?_
  refine .optionalValue (x := s.id) reads_text (by nofun) rfl ?_
  refine .optionalValue (x := s.title) reads_text (by nofun) rfl ?_
  refine .required (reads_list (l := s.questions) fun q _ => q.reads) ?_
  refine .optional (reads_list (l := s.groups) fun g _ => g.reads) ?_
  exact .done rfl

theorem reads (s : Survey) : Reads read s.toJson s.ordered := by
  intro o ho v hv
  rw [read, s.reads_shape o ho v hv]
  rfl

/-- Documents of surveys that differ in the sequence of the questions only. -/
inductive Shuffled : Json → Json → Prop
  | members {pre post : List (String × Json)} {items items' : List Json} : items.Perm items' →
    Shuffled (.object (pre ++ ("questions", .list items) :: post))
      (.object (pre ++ ("questions", .list items') :: post))
  | listed {id title : Json} {items items' rest : List Json} : items.Perm items' →
    Shuffled (.list (id :: title :: .list items :: rest))
      (.list (id :: title :: .list items' :: rest))

/-- What a shuffled list of questions is read to. -/
theorem read_questions_perm {o : Reader.Origin} {items items' : List Json}
    (hperm : items.Perm items')
    (h : Reader.list Question.read o (.ofJson (.list items)) = .ok questions) :
    ∃ questions', Reader.list Question.read o (.ofJson (.list items')) = .ok questions' ∧
      questions.Perm questions' := by
  rw [Document.ofJson, Document.ofItems_eq_map, Reader.list] at h ⊢
  obtain ⟨inner, hinner, hitems⟩ := Reader.bind_eq_ok_iff.mp h
  obtain ⟨questions', hitems', hperm'⟩ :=
    List.perm_comp_forall₂ (hperm.map _).symm (Reader.items_eq_ok_iff.mp hitems)
  exact ⟨questions', Reader.bind_eq_ok_iff.mpr ⟨inner, hinner, Reader.items_eq_ok_iff.mpr hitems'⟩,
    hperm'.symm⟩

/-- Shuffling the questions of a document shuffles the questions of the survey. -/
theorem Shuffled.read_shape {v v' : Json} (h : Shuffled v v')
    (hs : Reader.ofJson shape.read v = .ok s) :
    ∃ questions, s.questions.Perm questions ∧
      Reader.ofJson shape.read v' = .ok { s with questions } := by
  cases h with
  | @members pre post items items' hperm =>
    simp only [Reader.ofJson, Document.ofJson, Document.ofMembers_eq_map, List.map_append,
      List.map_cons, Shape.read, Reader.Origin.enter, Except.bind] at hs ⊢
    obtain ⟨set, b, hset, rfl, hreplace⟩ := Shape.readMembers_replace independent rfl hs
    obtain ⟨questions, hread, rfl⟩ := map_eq_ok_iff.mp hset
    obtain ⟨questions', hread', hperm'⟩ := read_questions_perm hperm hread
    exact ⟨questions', hperm', hreplace _ _ (map_eq_ok_iff.mpr ⟨questions', hread', rfl⟩)⟩
  | @listed id title items items' rest hperm =>
    obtain ⟨set, b, hset, rfl, hreplace⟩ :=
      Shape.readItems_replace independent.stores (n := 2) rfl rfl hs
    obtain ⟨questions, hread, rfl⟩ := map_eq_ok_iff.mp hset
    obtain ⟨questions', hread', hperm'⟩ := read_questions_perm hperm hread
    exact ⟨questions', hperm', hreplace _ _ (map_eq_ok_iff.mpr ⟨questions', hread', rfl⟩)⟩

/-- **Survey documents are read back.** The value of a survey is read to the same survey with its
questions sorted stably by their orders, in whatever sequence the members of its objects stand. So
a survey that has been read is read back as it is, and where all questions have different orders,
shuffling them in the document changes nothing. -/
theorem documents_round_trip :
    (∀ (s : Survey) (v : Json), v.Reorders s.toJson → ∃ s', Reader.ofJson read v = .ok s' ∧
      s' = { s with questions := s'.questions } ∧ s'.questions.Perm s.questions ∧
      (s'.questions.Pairwise fun p q => p.order ≤ q.order) ∧
      ∀ k : UInt32, s'.questions.filter (·.order == k) = s.questions.filter (·.order == k)) ∧
    (∀ (v : Json) (s : Survey), Reader.ofJson read v = .ok s →
      ∀ w : Json, w.Reorders s.toJson → Reader.ofJson read w = .ok s) ∧
    (∀ (v v' : Json) (s : Survey), Shuffled v v' → Reader.ofJson read v = .ok s →
      (s.questions.map (·.order)).Nodup → Reader.ofJson read v' = .ok s) := by
  have hread : ∀ {s : Survey} {v : Json}, v.Reorders s.toJson →
      Reader.ofJson read v = .ok s.ordered := fun {s v} hv => s.reads .value rfl v hv
  refine ⟨?_, ?_, ?_⟩
  · intro s v hv
    exact ⟨s.ordered, hread hv, rfl, s.ordered_perm, s.ordered_ascending, s.ordered_stable⟩
  · intro v s hv w hw
    obtain ⟨s₀, -, rfl⟩ := map_eq_ok_iff.mp hv
    rw [hread hw, ordered_of_ascending s₀.ordered_ascending]
  · intro v v' s hshuffled hv hnodup
    obtain ⟨s₀, hv₀, rfl⟩ := map_eq_ok_iff.mp hv
    obtain ⟨questions, hperm, hv'⟩ := hshuffled.read_shape hv₀
    have hnodup₀ : (s₀.questions.map (·.order)).Nodup :=
      (s₀.ordered_perm.map _).nodup_iff.mp hnodup
    exact map_eq_ok_iff.mpr ⟨_, hv', ordered_eq_of_perm hperm hnodup₀⟩

/-- A survey about an outing. Its last question comes first in the list. -/
def outing : Survey where
  title := some "Outing"
  questions :=
    [{ id := "packing", kind := .text, order := 2
       guard := some
        { conditions :=
            [.ofChecks "" "days" { rowIds := ["sunday"], columnIndex := some 1 } none,
              .ofValues "" "days" ["saturday"]]
          logic := .or } },
      { id := "days", kind := .table, order := 1
        grid := [{ id := "sunday", cells := [{ id := "ride", kind := .widget .checkbox }] }] }]
  groups := [{ id := "plans", name := some "Plans" }]

/-- The questions of the outing are put in order once, and the document may list them either way. -/
theorem documents_round_trip_outing :
    ∃ s, Reader.ofJson read outing.toJson = .ok s ∧ s.questions.map (·.id) = ["days", "packing"] ∧
      Reader.ofJson read s.toJson = .ok s ∧
      Reader.ofJson read { outing with questions := outing.questions.reverse }.toJson = .ok s := by
  obtain ⟨s, hread, -, hperm, hascending, -⟩ :=
    documents_round_trip.1 outing outing.toJson (Json.Reorders.refl _)
  refine ⟨s, hread, ?_, documents_round_trip.2.1 _ s hread _ (Json.Reorders.refl _), ?_⟩
  · have hs : s = outing.ordered := Except.ok.inj (hread.symm.trans outing.reads.ofJson)
    simp [hs, ordered, outing, List.mergeSort]
  · refine documents_round_trip.2.2 _ _ s ?_ hread ?_
    · exact @Shuffled.members [("title", .text "Outing")]
        [("groups", .list (outing.groups.map Group.toJson))] _ _
        ((List.reverse_perm outing.questions).symm.map Question.toJson)
    · exact (hperm.map _).nodup_iff.mpr (by decide)

end Survey

end Questionnaire
