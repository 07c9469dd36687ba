import Questionnaire.CommandLine.Run
import Questionnaire.Proofs.Entries
import Questionnaire.Proofs.Json.Layout
import Questionnaire.Proofs.Lists
import Questionnaire.Proofs.Visibility.Next

/-!
# Views of what is visible

What is visible is seen as a map by id, as a list, by a scan, in numbers, in counts, in a report and
in what a command writes, and each of these is computed on its own. The main statement is that all
of them show the same, if the questions of the survey have distinct ids: only then does a map by id
keep what it was given.
-/

namespace Questionnaire

open CommandLine (Command QuestionState VisibilityReport padRight)

/-! ## Numbers -/

/-- The ids, and nothing else, have the numbers from one on, in their order. -/
structure Entries.Counts (numbers : Entries Nat) (ids : List String) : Prop where
  ids_iff : ∀ id, (∃ n, numbers.get? id = some n) ↔ id ∈ ids
  numbers_iff : ∀ n, (∃ id, numbers.get? id = some n) ↔ 1 ≤ n ∧ n ≤ ids.length
  injective : ∀ id id' n, numbers.get? id = some n → numbers.get? id' = some n → id = id'
  ascending : ∀ (j k : Nat) (id id' : String) (n n' : Nat), ids[j]? = some id →
    ids[k]? = some id' → numbers.get? id = some n → numbers.get? id' = some n' → j < k → n < n'

/-- Numbers that are positions, counted from one, count the ids. -/
theorem Entries.counts_of_get?_iff {numbers : Entries Nat} {ids : List String} (hids : ids.Nodup)
    (h : ∀ id n, numbers.get? id = some n ↔ ∃ k, ids[k]? = some id ∧ n = k + 1) :
    numbers.Counts ids where
  ids_iff id := by
    simp only [h, List.mem_iff_getElem?]
    constructor
    · rintro ⟨_, k, hk, -⟩
      exact ⟨k, hk⟩
    · rintro ⟨k, hk⟩
      exact ⟨k + 1, k, hk, rfl⟩
  numbers_iff n := by
    simp only [h]
    constructor
    · rintro ⟨id, k, hk, rfl⟩
      obtain ⟨hlt, -⟩ := List.getElem?_eq_some_iff.mp hk
      omega
    · rintro ⟨hpos, hle⟩
      have hlt : n - 1 < ids.length := by omega
      exact ⟨ids[n - 1], n - 1, List.getElem?_eq_getElem hlt, by omega⟩
  injective id id' n hid hid' := by
    obtain ⟨k, hk, rfl⟩ := (h id n).mp hid
    obtain ⟨k', hk', heq⟩ := (h id' _).mp hid'
    obtain rfl : k = k' := by omega
    rw [hk, Option.some.injEq] at hk'
    exact hk'
  ascending j k id id' n n' hj hk hn hn' hlt := by
    obtain ⟨i, hi, rfl⟩ := (h id n).mp hn
    obtain ⟨i', hi', rfl⟩ := (h id' n').mp hn'
    -- an id stands at one position only
    have hat : ∀ {a b : Nat} {x : String}, ids[a]? = some x → ids[b]? = some x → a = b :=
      fun ha hb => (List.getElem?_inj (List.getElem?_eq_some_iff.mp ha).1 hids).mp
        (ha.trans hb.symm)
    rw [hat hi hj, hat hi' hk]
    omega

namespace Survey

/-- The ids of the visible questions that are no notices, in survey order. -/
def numberedIds (s : Survey) (answers : Snapshot) (options : Options) : List String :=
  ((s.visibleQuestions answers options).filter fun q => q.kind != .notice).map (·.id)

/-- A question of the list stands at this position of the survey. -/
def ListsAt (s : Survey) (questions : List Question) (i : Nat) : Prop :=
  ∃ q ∈ questions, s.questions[i]? = some q

/-- How the state of a question is written, as a value and in a line: with a number if the question
is visible and no notice. -/
inductive TellsState (s : Survey) (answers : Snapshot) (options : Options) (q : Question) :
    Json → String → Prop
  | numbered {n : Nat} : s.shows answers options q = true → q.kind ≠ .notice →
      (s.numbers answers options).get? q.id = some n →
      TellsState s answers options q
        (.object [("id", .text q.id), ("visible", .bool true), ("number", .nat n)])
        (padRight 24 q.id ++ " " ++ ("visible  " ++ toString n ++ "."))
  | notice : s.shows answers options q = true → q.kind = .notice →
      TellsState s answers options q (.object [("id", .text q.id), ("visible", .bool true)])
        (padRight 24 q.id ++ " " ++ "visible")
  | hidden : s.shows answers options q = false →
      TellsState s answers options q (.object [("id", .text q.id), ("visible", .bool false)])
        (padRight 24 q.id ++ " " ++ "hidden")

/-- The command `visibility` writes the states of all questions and this progress, as a value with
these members, or in a line for each. -/
def WritesStates (s : Survey) (answers : Snapshot) (options : Options) (p : Progress) : Prop :=
  ∃ (told : List (Json × String)) (output : String),
    List.Forall₂ (fun q t => s.TellsState answers options q t.1 t.2) s.questions told ∧
    Json.WrittenAs
      (.object
        [("questions", .list (told.map (·.1))),
          ("progress", .object
            [("visible", .nat p.visible), ("answered", .nat p.answered),
              ("percent", .number (.float p.percent))])])
      output ∧
    (Command.visibility true).run s answers options = .ok { output } ∧
    (Command.visibility false).run s answers options =
      .ok { output := String.join ((told.map (·.2)).map (· ++ "\n")) ++
        ("progress: " ++ toString p.answered ++ "/" ++ toString p.visible ++ " answered (" ++
          VisibilityReport.tenthsText p.tenths ++ "%)" ++ "\n") }

/-- All views of what is visible show the same. -/
structure ViewsAgree (s : Survey) (answers : Snapshot) (options : Options) : Prop where
  /-- The map has the ids of the questions as its keys, and no others. -/
  keys : (s.visibility answers options).keys.Perm (s.questions.map (·.id))
  map : ∀ q ∈ s.questions,
    (s.visibility answers options).get? q.id = some (s.shows answers options q)
  list : s.visibleQuestions answers options =
    s.questions.filter fun q => (s.visibility answers options).get? q.id == some true
  scan : ∀ start i, s.nextVisible? answers options start = some i ↔
    start ≤ i ∧ s.ListsAt (s.visibleQuestions answers options) i ∧
      ∀ j, start ≤ j → s.ListsAt (s.visibleQuestions answers options) j → i ≤ j
  scan_none : ∀ start, s.nextVisible? answers options start = none ↔
    ∀ j, start ≤ j → ¬ s.ListsAt (s.visibleQuestions answers options) j
  numbers : (s.numbers answers options).Counts (s.numberedIds answers options)
  visible : (s.progress answers options).visible = (s.numberedIds answers options).length
  answered : (s.progress answers options).answered =
    ((s.numberedIds answers options).filter answers.isAnswered).length
  /-- The report has one line for each question, with a number if the question is reported to be
  visible and is no notice. -/
  report : List.Forall₂
    (fun q state => state.id = q.id ∧ state.visible = s.shows answers options q ∧
      (state.number.isSome = true ↔ state.visible = true ∧ q.kind ≠ .notice))
    s.questions (VisibilityReport.of s answers options).questions
  output : s.WritesStates answers options (s.progress answers options)

variable {s : Survey} {answers : Snapshot} {options : Options} {q : Question}

/-! ## One view after the other -/

theorem mem_visibleQuestions_iff : q ∈ s.visibleQuestions answers options ↔
    q ∈ s.questions ∧ s.shows answers options q = true :=
  List.mem_filter

/-- What stands in the list of visible questions is what is visible by position. -/
theorem listsAt_visibleQuestions_iff {i : Nat} :
    s.ListsAt (s.visibleQuestions answers options) i ↔ s.ShowsAt answers options i := by
  constructor
  · rintro ⟨q, hq, hi⟩
    exact ⟨q, hi, (mem_visibleQuestions_iff.mp hq).2⟩
  · rintro ⟨q, hi, hshows⟩
    exact ⟨q, mem_visibleQuestions_iff.mpr ⟨List.mem_of_getElem? hi, hshows⟩, hi⟩

theorem takesAnswer_eq (kind : QuestionKind) : kind.takesAnswer = (kind != .notice) := by
  cases kind <;> rfl

theorem map_id_answerable :
    (s.answerable answers options).map (·.id) = s.numberedIds answers options := by
  unfold answerable numberedIds
  simp only [takesAnswer_eq]

theorem mem_numberedIds_iff {id : String} : id ∈ s.numberedIds answers options ↔
    ∃ q ∈ s.questions, s.shows answers options q = true ∧ q.kind ≠ .notice ∧ q.id = id := by
  unfold numberedIds
  simp only [List.mem_map, List.mem_filter, mem_visibleQuestions_iff, bne_iff_ne, and_assoc]

section

variable (hids : (s.questions.map (·.id)).Nodup)
include hids

/-- The map lists one entry for each question. -/
theorem toList_visibility_perm (answers : Snapshot) (options : Options) :
    (s.visibility answers options).toList.Perm
      (s.questions.map fun q => (q.id, s.shows answers options q)) := by
  refine Entries.toList_ofList_perm ?_
  rw [List.map_map]
  exact hids

theorem keys_visibility : (s.visibility answers options).keys.Perm (s.questions.map (·.id)) := by
  have hperm := (toList_visibility_perm hids answers options).map (·.1)
  rw [List.map_map] at hperm
  exact hperm

theorem get?_visibility (hq : q ∈ s.questions) :
    (s.visibility answers options).get? q.id = some (s.shows answers options q) := by
  refine Entries.find?_of_mem (s.visibility answers options).ascending ?_
  exact (toList_visibility_perm hids answers options).mem_iff.mpr (List.mem_map_of_mem hq)

theorem nodup_numberedIds : (s.numberedIds answers options).Nodup := by
  have hsub : List.Sublist ((s.visibleQuestions answers options).filter fun q => q.kind != .notice)
      s.questions := List.filter_sublist.trans List.filter_sublist
  exact hids.sublist (hsub.map _)

/-- The number of a question is its place among the ids. -/
theorem get?_numbers_iff {id : String} {n : Nat} : (s.numbers answers options).get? id = some n ↔
    ∃ k, (s.numberedIds answers options)[k]? = some id ∧ n = k + 1 := by
  have hkeys : ((s.answerable answers options).mapIdx fun i q => (q.id, i + 1)).map (·.1) =
      s.numberedIds answers options := by
    rw [← map_id_answerable]
    exact List.ext_getElem? fun k => by simp [Option.map_map, Function.comp_def]
  unfold numbers
  rw [Entries.get?_ofList_iff (hkeys ▸ nodup_numberedIds hids), ← map_id_answerable]
  simp only [List.mem_mapIdx, Prod.mk.injEq, List.getElem?_map, Option.map_eq_some_iff]
  constructor
  · rintro ⟨k, hk, hid, rfl⟩
    exact ⟨k, ⟨_, List.getElem?_eq_getElem hk, hid⟩, rfl⟩
  · rintro ⟨k, ⟨q, hq, hid⟩, rfl⟩
    obtain ⟨hk, rfl⟩ := List.getElem?_eq_some_iff.mp hq
    exact ⟨k, hk, hid, rfl⟩

theorem counts_numbers :
    (s.numbers answers options).Counts (s.numberedIds answers options) :=
  Entries.counts_of_get?_iff (nodup_numberedIds hids) fun _ _ => get?_numbers_iff hids

/-- A question has a number exactly if it is visible and is no notice. -/
theorem isSome_number_iff (hq : q ∈ s.questions) :
    ((s.numbers answers options).get? q.id).isSome = true ↔
      s.shows answers options q = true ∧ q.kind ≠ .notice := by
  rw [Option.isSome_iff_exists, (counts_numbers hids).ids_iff, mem_numberedIds_iff]
  constructor
  · rintro ⟨q', hq', hshows, hkind, hid⟩
    obtain rfl : q' = q := List.inj_on_of_nodup_map hids hq' hq hid
    exact ⟨hshows, hkind⟩
  · rintro ⟨hshows, hkind⟩
    exact ⟨q, hq, hshows, hkind, rfl⟩

/-- What the report says of a question is written as it has to be. -/
theorem tellsState (hq : q ∈ s.questions) :
    s.TellsState answers options q
      (QuestionState.toJson ⟨q.id, s.shows answers options q,
        (s.numbers answers options).get? q.id⟩)
      (QuestionState.line ⟨q.id, s.shows answers options q,
        (s.numbers answers options).get? q.id⟩) := by
  have hnumber : ((s.numbers answers options).get? q.id).isSome = true ↔ _ :=
    isSome_number_iff hids hq
  cases hn : (s.numbers answers options).get? q.id with
  | some n =>
    obtain ⟨hshows, hkind⟩ := hnumber.mp (by rw [hn]; rfl)
    rw [hshows]
    exact .numbered hshows hkind hn
  | none =>
    cases hshows : s.shows answers options q with
    | false => exact .hidden hshows
    | true =>
      -- visible and without a number, it can only be a notice
      refine .notice hshows (Classical.not_not.mp fun hkind => ?_)
      have hsome := hnumber.mpr ⟨hshows, hkind⟩
      rw [hn] at hsome
      cases hsome

/-- The report looks the state of a question up by its id, and finds that of the question itself. -/
theorem questions_report : (VisibilityReport.of s answers options).questions =
    s.questions.map fun q => ⟨q.id, s.shows answers options q,
      (s.numbers answers options).get? q.id⟩ := by
  refine List.map_congr_left fun q hq => ?_
  rw [get?_visibility hids hq, Option.getD_some]

theorem writesStates :
    s.WritesStates answers options (s.progress answers options) := by
  refine ⟨(VisibilityReport.of s answers options).questions.map fun state =>
      (state.toJson, state.line), _, ?_, Json.writtenAs_pretty _, ?_, ?_⟩
  · rw [questions_report hids, List.map_map, List.forall₂_map_right_iff, List.forall₂_same]
    exact fun q hq => tellsState hids hq
  · rw [List.map_map]
    rfl
  · simp only [Command.run, VisibilityReport.text, CommandLine.unlines, List.map_append,
      String.join_append, List.map_map]
    rfl

end

/-- **All views agree.** In a survey with distinct question ids the map, the list and the scan, the
numbers, the progress, the report and what is written of it tell of the same visible questions,
whatever the answers. -/
theorem views_agree (s : Survey) (answers : Snapshot) (options : Options)
    (hids : (s.questions.map (·.id)).Nodup) : s.ViewsAgree answers options where
  keys := keys_visibility hids
  map _ := get?_visibility hids
  list := by
    refine List.filter_congr fun q hq => ?_
    rw [get?_visibility hids hq]
    cases s.shows answers options q <;> rfl
  scan start i := by
    simp only [listsAt_visibleQuestions_iff, nextVisible?_eq_some_iff]
    refine and_congr_right fun _ => and_congr_right fun _ => forall₂_congr fun j _ => ?_
    rw [imp_not_comm, Nat.not_lt]
  scan_none start := by
    simp only [listsAt_visibleQuestions_iff, nextVisible?_eq_none_iff]
  numbers := counts_numbers hids
  visible := by
    rw [← map_id_answerable, List.length_map]
    rfl
  answered := by
    rw [← map_id_answerable, List.filter_map, List.length_map]
    rfl
  report := by
    rw [questions_report hids, List.forall₂_map_right_iff, List.forall₂_same]
    exact fun q hq => ⟨rfl, rfl, isSome_number_iff hids hq⟩
  output := writesStates hids

/-- A survey about tea, in which only whoever takes sugar is asked for how much. -/
def tea : Survey where
  questions :=
    [{ id := "welcome", kind := .notice },
      { id := "sugar", kind := .radio },
      { id := "spoons", kind := .text
        guard := some { conditions := [.ofValues "" "sugar" ["yes"]] } },
      { id := "milk", kind := .radio }]

/-- After the answer that there is to be no sugar, two questions are numbered, of which one is
answered. -/
theorem views_agree_tea :
    (tea.questions.map (·.id)).Nodup ∧
    tea.numberedIds (Snapshot.empty.answer "sugar" (.text "no")) {} = ["sugar", "milk"] ∧
    tea.nextVisible? (Snapshot.empty.answer "sugar" (.text "no")) {} 2 = some 3 ∧
    tea.ViewsAgree (Snapshot.empty.answer "sugar" (.text "no")) {} := by
  have hids : (tea.questions.map (·.id)).Nodup := by decide
  exact ⟨hids, by decide, by decide, views_agree tea _ {} hids⟩

end Survey

end Questionnaire
