import Questionnaire.Progress
import Questionnaire.Route

/-!
# Blank answers

An answer that is no table and holds no data (a text of white space, an "other" choice of nothing,
a list of empty picks, or something that is no answer at all) is worth as much as no answer: the
main statement is that storing one and storing nothing give the same visible questions, numbers
and progress, and the same way through the survey.

A snapshot is read in three ways only: by the tests of conditions, by the count of what is
answered, and by the rules of table questions. Each of them takes a blank answer for none, so that
snapshots which differ in blank answers (`Snapshot.Alike`) cannot be told apart.
-/

namespace Questionnaire

/-- An answer that holds no data and is no table. -/
def Answer.IsBlank : Answer → Prop
  | text s => Text.isBlank s = true
  | other o => o.selected = ""
  | choices picks => ∀ p ∈ picks, p.selected = ""
  | table _ => False
  | unsupported _ => True

namespace Answer

variable {a : Answer}

theorem choiceValues_of_isBlank (h : a.IsBlank) : a.choiceValues = [] := by
  cases a with
  | text s => exact if_pos h
  | other o => exact if_pos h
  | choices picks =>
    refine List.filter_eq_nil_iff.mpr fun v hv => ?_
    obtain ⟨p, hp, rfl⟩ := List.mem_map.mp hv
    simp [h p hp]
  | table cells => exact h.elim
  | unsupported content => rfl

theorem isAnswered_of_isBlank (h : a.IsBlank) : a.isAnswered = false := by
  have hnone := choiceValues_of_isBlank h
  cases a with
  | text s => simp [isAnswered, hnone]
  | other o => simp [isAnswered, hnone]
  | choices picks => simp [isAnswered, hnone]
  | table cells => exact h.elim
  | unsupported content => rfl

theorem table?_of_isBlank (h : a.IsBlank) : a.table? = none := by
  cases a with
  | table cells => exact h.elim
  | _ => rfl

theorem matches_of_isBlank (h : a.IsBlank) (required : List String) :
    a.matches required = false := by
  unfold Answer.matches
  rw [isAnswered_of_isBlank h, choiceValues_of_isBlank h]
  exact ite_self false

end Answer

/-- No test passes on a blank answer. -/
theorem Test.passes_of_isBlank {a : Answer} (h : a.IsBlank) (t : Test) (source : Question)
    (options : Options) : t.passes source a options = false := by
  cases t with
  | value required => exact Answer.matches_of_isBlank h required
  | cells primary extra =>
    unfold Test.passes
    rw [Answer.table?_of_isBlank h]
    cases primary <;> rfl

/-! ## Snapshots that differ in blank answers -/

/-- The entries under all other keys. -/
def Entries.without {α : Type} (m : Entries α) (key : String) : Entries α :=
  ⟨m.toList.filter (·.1 ≠ key), m.ascending.filter _⟩

theorem Entries.find?_filter_ne {α : Type} (key other : String) (pairs : List (String × α)) :
    find? other (pairs.filter (·.1 ≠ key)) = if key = other then none else find? other pairs := by
  induction pairs with
  | nil => simp [find?]
  | cons p rest ih =>
    obtain ⟨k, v⟩ := p
    by_cases hk : k = key
    · subst hk
      rw [List.filter_cons_of_neg (by simp), ih]
      by_cases hother : k = other <;> simp [find?, hother]
    · rw [List.filter_cons_of_pos (by simpa using hk), find?, ih]
      by_cases hother : k = other
      · subst hother
        simp [find?, Ne.symm hk]
      · simp [find?, hother]

@[simp] theorem Entries.get?_without {α : Type} (m : Entries α) (key other : String) :
    (m.without key).get? other = if key = other then none else m.get? other :=
  find?_filter_ne key other m.toList

namespace Snapshot

/-- The snapshot with no answer to a question. -/
def without (r : Snapshot) (id : String) : Snapshot := ⟨r.answers.without id⟩

@[simp] theorem get?_without (r : Snapshot) (id other : String) :
    (r.without id).get? other = if id = other then none else r.get? other :=
  Entries.get?_without r.answers id other

/-- Two snapshots hold the same answers, blank ones apart. -/
def Alike (r r' : Snapshot) : Prop :=
  ∀ id, r.get? id = r'.get? id ∨
    (∀ a ∈ r.get? id, a.IsBlank) ∧ ∀ a ∈ r'.get? id, a.IsBlank

/-- A blank answer in the place of any answer makes a snapshot like the one without it. -/
theorem alike_answer_without (r : Snapshot) (id : String) {a : Answer} (h : a.IsBlank) :
    (r.answer id a).Alike (r.without id) := by
  intro other
  rw [get?_answer, get?_without]
  by_cases hid : id = other
  · rw [if_pos hid, if_pos hid]
    refine .inr ⟨fun b hb => ?_, fun b hb => by cases hb⟩
    cases hb
    exact h
  · rw [if_neg hid, if_neg hid]
    exact .inl rfl

end Snapshot

/-! ## What is read of a snapshot -/

theorem Condition.holds_eq_any (c : Condition) (r : Snapshot) (questions : List Question)
    (options : Options) : c.holds r questions options = (c.isEnabled &&
      (question? c.source questions).any fun source =>
        (r.get? source.id).any (c.test.passes source · options)) := by
  unfold holds
  cases question? c.source questions with
  | none => rfl
  | some source =>
    simp only [Option.any_some]
    cases r.get? source.id <;> rfl

section

variable {r r' : Snapshot} (h : r.Alike r')
include h

/-- What takes every blank answer for none cannot tell the snapshots apart. -/
theorem eq_of_alike {β : Type} {f : Option Answer → β}
    (hf : ∀ a : Answer, a.IsBlank → f (some a) = f none) (id : String) :
    f (r.get? id) = f (r'.get? id) := by
  have hnone : ∀ o : Option Answer, (∀ a ∈ o, a.IsBlank) → f o = f none := by
    intro o ho
    cases o with
    | none => rfl
    | some a => exact hf a (ho a rfl)
  rcases h id with heq | ⟨hblank, hblank'⟩
  · rw [heq]
  · rw [hnone _ hblank, hnone _ hblank']

theorem holds_of_alike (c : Condition) (questions : List Question) (options : Options) :
    c.holds r questions options = c.holds r' questions options := by
  have hsame : ∀ source : Question, (r.get? source.id).any (c.test.passes source · options) =
      (r'.get? source.id).any (c.test.passes source · options) := fun source =>
    eq_of_alike h (f := fun o => o.any (c.test.passes source · options))
      (fun _ ha => Test.passes_of_isBlank ha c.test source options) source.id
  simp only [Condition.holds_eq_any, hsame]

theorem guardHolds_of_alike (g : Option Guard) (questions : List Question) (options : Options) :
    guardHolds g r questions options = guardHolds g r' questions options := by
  unfold guardHolds Guard.holds
  simp only [holds_of_alike h]

theorem isAnswered_of_alike (id : String) : r.isAnswered id = r'.isAnswered id :=
  eq_of_alike h (f := fun o => o.any Answer.isAnswered)
    (fun _ ha => Answer.isAnswered_of_isBlank ha) id

/-- The rules of a question find the same cells. -/
theorem cells_of_alike (id : String) : Answer.cells (r.get? id) = Answer.cells (r'.get? id) :=
  eq_of_alike h (fun a ha => by simp [Answer.cells, Answer.table?_of_isBlank ha]) id

end

/-- A step depends on the answer through its cells alone. -/
theorem resolve_eq_of_cells {a a' : Option Answer} (h : Answer.cells a = Answer.cells a')
    (questions : List Question) (current : Nat) (options : Options) :
    resolve questions current a options = resolve questions current a' options := by
  unfold resolve Question.firedRule? Question.scope
  simp only [h]

namespace Survey

variable {s : Survey} {r r' : Snapshot} {options : Options} (h : r.Alike r')
include h

theorem shows_of_alike : s.shows r options = s.shows r' options := by
  funext q
  unfold shows Question.isVisible
  simp only [guardHolds_of_alike h]

theorem nextVisible?_of_alike : s.nextVisible? r options = s.nextVisible? r' options := by
  funext start
  unfold nextVisible?
  rw [shows_of_alike h]

theorem answerable_of_alike : s.answerable r options = s.answerable r' options := by
  unfold answerable visibleQuestions
  rw [shows_of_alike h]

theorem progress_of_alike : s.progress r options = s.progress r' options := by
  unfold progress
  rw [answerable_of_alike h]
  simp only [isAnswered_of_alike h]

theorem advance_of_alike : s.advance r options = s.advance r' options := by
  funext current
  have hcells : Answer.cells (s.answerAt? r current) = Answer.cells (s.answerAt? r' current) := by
    unfold answerAt?
    cases s.questions[current]? with
    | none => rfl
    | some q => exact cells_of_alike h q.id
  have hskip : s.skipHidden r options = s.skipHidden r' options := by
    funext d
    unfold skipHidden
    rw [nextVisible?_of_alike h]
  unfold advance
  rw [resolve_eq_of_cells hcells, hskip]

theorem walk_of_alike : s.walk r options = s.walk r' options := by
  unfold walk
  rw [advance_of_alike h, nextVisible?_of_alike h]

end Survey

/-- **A blank answer is no answer**: a survey shows and numbers the same questions, reports the
same progress, and takes the same steps and the same walk, whether a blank answer is stored for a
question or none. -/
theorem Survey.blank_eq_absent (s : Survey) (options : Options) (r : Snapshot) (id : String)
    (a : Answer) (ha : a.IsBlank) :
    (∀ q, s.shows (r.answer id a) options q = s.shows (r.without id) options q) ∧
    s.visibility (r.answer id a) options = s.visibility (r.without id) options ∧
    s.visibleQuestions (r.answer id a) options = s.visibleQuestions (r.without id) options ∧
    s.numbers (r.answer id a) options = s.numbers (r.without id) options ∧
    s.progress (r.answer id a) options = s.progress (r.without id) options ∧
    (∀ start, s.nextVisible? (r.answer id a) options start =
      s.nextVisible? (r.without id) options start) ∧
    (∀ current, s.advance (r.answer id a) options current =
      s.advance (r.without id) options current) ∧
    s.walk (r.answer id a) options = s.walk (r.without id) options := by
  have h : (r.answer id a).Alike (r.without id) := r.alike_answer_without id ha
  refine ⟨congrFun (shows_of_alike h), ?_, ?_, ?_, progress_of_alike h,
    congrFun (nextVisible?_of_alike h), congrFun (advance_of_alike h), walk_of_alike h⟩
  · unfold visibility
    rw [shows_of_alike h]
  · unfold visibleQuestions
    rw [shows_of_alike h]
  · unfold numbers
    rw [answerable_of_alike h]

namespace Survey

/-- A survey about a garden. Where no bed is planted the beds are skipped, and whoever has not
named a tool is asked about help. -/
def garden : Survey where
  questions :=
    [{ id := "beds", kind := .table
       grid := [{ id := "bed", cells := [{ id := "planted", kind := .widget .checkbox }] }]
       rules := [{ id := "bare", kind := .noneOf, action := .jump, target := some "tools"
                   check := { rowIds := ["bed"] } }] },
      { id := "plants", kind := .text },
      { id := "tools", kind := .checkbox },
      { id := "help", kind := .radio
        guard := some { conditions := [.ofValues "" "tools" []], logic := .not } }]

/-- Picks of nothing answer neither which beds are planted nor which tools there are. -/
theorem blank_eq_absent_garden :
    (Answer.ofValues ["", ""]).IsBlank ∧
    garden.walk (Snapshot.empty.answer "beds" (Answer.ofValues ["", ""])) {} = ⟨[0, 2, 3], none⟩ ∧
    garden.walk (Snapshot.empty.answer "tools" (Answer.ofValues ["", ""])) {} = ⟨[0, 2, 3], none⟩ := by
  have hblank : (Answer.ofValues ["", ""]).IsBlank := by
    intro p hp
    obtain ⟨v, hv, rfl⟩ := List.mem_map.mp hp
    simpa [Pick.selected] using hv
  have hwalk : ∀ id, garden.walk (Snapshot.empty.answer id (Answer.ofValues ["", ""])) {} =
      garden.walk (Snapshot.empty.without id) {} := fun id =>
    (blank_eq_absent garden {} .empty id _ hblank).2.2.2.2.2.2.2
  refine ⟨hblank, (hwalk "beds").trans (by decide), (hwalk "tools").trans (by decide)⟩

end Survey

end Questionnaire
