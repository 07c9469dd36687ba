import Questionnaire.CommandLine.Run
import Questionnaire.Proofs.Json.Layout
import Questionnaire.Proofs.Lists
import Questionnaire.Proofs.Route.Leads
import Questionnaire.Proofs.Route.Walk

/-!
# The command `next`

The command `next` takes a text that names a question and writes where a respondent goes from
there. It puts the step and the scan for a visible question together by itself. The main statement
is that the text names a question by its id or else by its position, that what is written is where
`advance` leads, or the step before hidden questions are passed over, and that the command for one
question of a walk after the other retraces the walk. `Writes` says which members and which lines
are written, without the functions that put them together.
-/

namespace Questionnaire.CommandLine

/-! ## Positions -/

/-- A row of decimal digits, and the number that it stands for. -/
inductive Spells : List Char → Nat → Prop
  | digit {c : Char} : c.isDigit = true → Spells [c] (digitValue c)
  | append {cs : List Char} {n : Nat} {c : Char} : Spells cs n → c.isDigit = true →
      Spells (cs ++ [c]) (10 * n + digitValue c)

/-- The text gives this position: in digits, perhaps after a plus sign, and within 64 bits. -/
def IsPosition (text : String) (i : Nat) : Prop :=
  ∃ digits, (text.toList = digits ∨ text.toList = '+' :: digits) ∧ Spells digits i ∧
    i < UInt64.size

theorem digitsValue_append (cs : List Char) (c : Char) :
    digitsValue (cs ++ [c]) = 10 * digitsValue cs + digitValue c := by
  simp [digitsValue]

/-- Only digits spell a number, and any digits spell their value. -/
theorem spells_iff {cs : List Char} {n : Nat} :
    Spells cs n ↔ cs ≠ [] ∧ cs.all Char.isDigit = true ∧ digitsValue cs = n := by
  constructor
  · intro h
    induction h with
    | digit hc => simp [hc, digitsValue]
    | append _ hc ih =>
      obtain ⟨-, hall, rfl⟩ := ih
      simp [hall, hc, digitsValue_append]
  · rintro ⟨hne, hall, rfl⟩
    -- on the digits from the last one on, as their value is built up
    induction cs using List.reverseRecOn with
    | nil => exact absurd rfl hne
    | append_singleton cs c ih =>
      simp only [List.all_append, List.all_cons, List.all_nil, Bool.and_true,
        Bool.and_eq_true] at hall
      by_cases hcs : cs = []
      · subst hcs
        have hvalue : digitsValue [c] = digitValue c := by simp [digitsValue]
        exact hvalue ▸ .digit hall.2
      · rw [digitsValue_append]
        exact .append (ih hcs hall.1) hall.2

theorem not_spells_plus {cs : List Char} {n : Nat} : ¬ Spells ('+' :: cs) n := by
  intro h
  have hall := (spells_iff.mp h).2.1
  simp at hall

/-- Digits are read if their value is small enough. -/
theorem ite_digitsValue_eq_some_iff {digits : List Char} {i : Nat} :
    (if digits.isEmpty || !digits.all Char.isDigit then none
      else if digitsValue digits < UInt64.size then some (digitsValue digits) else none) = some i ↔
      Spells digits i ∧ i < UInt64.size := by
  rw [spells_iff, Option.ite_none_left_eq_some, Option.ite_none_right_eq_some, Option.some.injEq,
    Bool.or_eq_true, not_or, List.isEmpty_iff, Bool.not_eq_true', Bool.not_eq_false]
  constructor
  · rintro ⟨⟨hne, hall⟩, hlt, rfl⟩
    exact ⟨⟨hne, hall, rfl⟩, hlt⟩
  · rintro ⟨⟨hne, hall, rfl⟩, hlt⟩
    exact ⟨⟨hne, hall⟩, hlt, rfl⟩

/-- A text is read as a position exactly if it gives it. -/
theorem position?_eq_some_iff {text : String} {i : Nat} :
    position? text = some i ↔ IsPosition text i := by
  unfold position? IsPosition
  split
  · rename_i rest htext
    rw [ite_digitsValue_eq_some_iff]
    constructor
    · intro h
      exact ⟨rest, .inr htext, h⟩
    · rintro ⟨digits, hdigits | hdigits, h⟩
      · rw [← hdigits, htext] at h
        exact absurd h.1 not_spells_plus
      · rw [htext] at hdigits
        exact (List.cons.inj hdigits).2 ▸ h
  · rename_i hplus
    rw [ite_digitsValue_eq_some_iff]
    constructor
    · intro h
      exact ⟨text.toList, .inl rfl, h⟩
    · rintro ⟨digits, hdigits | hdigits, h⟩
      · exact hdigits ▸ h
      · exact absurd hdigits (hplus digits)

/-! ## The question that a text names -/

/-- What a text names: the first question with this id, or, when there is none, the question at the
position that the text gives. -/
inductive Names (s : Survey) (text : String) : Nat → Prop
  | byId {i : Nat} : FirstWithId s.questions text i → Names s text i
  | byPosition {i : Nat} : (∀ q ∈ s.questions, q.id ≠ text) → IsPosition text i →
      i < s.questions.length → Names s text i

variable {s : Survey} {answers : Snapshot} {options : Options} {text : String} {i : Nat}

theorem current_of_firstWithId (h : FirstWithId s.questions text i) : current s text = .ok i := by
  simp only [current, questionIndex?_eq_some_iff.mpr h]

theorem current_eq_ok_iff_of_no_id (hnone : ∀ q ∈ s.questions, q.id ≠ text) :
    current s text = .ok i ↔ IsPosition text i ∧ i < s.questions.length := by
  simp only [current, questionIndex?_eq_none_iff.mpr hnone, ← position?_eq_some_iff]
  cases position? text with
  | none => simp
  | some j =>
    by_cases hlt : j < s.questions.length
    · simp only [hlt, if_true, Except.ok.injEq, Option.some.injEq]
      exact ⟨fun h => ⟨h, h ▸ hlt⟩, fun h => h.1⟩
    · simp only [hlt, if_false, reduceCtorEq, Option.some.injEq, false_iff]
      rintro ⟨rfl, h⟩
      exact hlt h

theorem current_eq_ok_iff : current s text = .ok i ↔ Names s text i := by
  constructor
  · intro h
    cases hindex : questionIndex? text s.questions with
    | some j =>
      have hj := questionIndex?_eq_some_iff.mp hindex
      rw [current_of_firstWithId hj] at h
      injection h with h
      exact h ▸ .byId hj
    | none =>
      have hnone := questionIndex?_eq_none_iff.mp hindex
      obtain ⟨hposition, hlt⟩ := (current_eq_ok_iff_of_no_id hnone).mp h
      exact .byPosition hnone hposition hlt
  · intro h
    cases h with
    | byId hi => exact current_of_firstWithId hi
    | byPosition hnone hposition hlt =>
      exact (current_eq_ok_iff_of_no_id hnone).mpr ⟨hposition, hlt⟩

theorem Names.lt_length (h : Names s text i) : i < s.questions.length := by
  cases h with
  | byId hi =>
    obtain ⟨⟨q, hq, -⟩, -⟩ := hi
    exact (List.getElem?_eq_some_iff.mp hq).1
  | byPosition _ _ hlt => exact hlt

/-- A text names a question if it is an id or a position. -/
theorem exists_names_iff : (∃ i, Names s text i) ↔
    (∃ q ∈ s.questions, q.id = text) ∨ ∃ i, IsPosition text i ∧ i < s.questions.length := by
  constructor
  · rintro ⟨i, ⟨⟨q, hq, hid⟩, -⟩ | ⟨-, hposition, hlt⟩⟩
    · exact .inl ⟨q, List.mem_of_getElem? hq, hid⟩
    · exact .inr ⟨i, hposition, hlt⟩
  · intro h
    cases hindex : questionIndex? text s.questions with
    | some j => exact ⟨j, .byId (questionIndex?_eq_some_iff.mp hindex)⟩
    | none =>
      have hnone := questionIndex?_eq_none_iff.mp hindex
      rcases h with ⟨q, hq, hid⟩ | ⟨i, hposition, hlt⟩
      · exact absurd hid (hnone q hq)
      · exact ⟨i, .byPosition hnone hposition hlt⟩

/-- With distinct ids, an id names the question that has it. -/
theorem current_id (hids : (s.questions.map (·.id)).Nodup) {q : Question}
    (hq : s.questions[i]? = some q) : current s q.id = .ok i := by
  refine current_of_firstWithId ⟨⟨q, hq, rfl⟩, fun j hlt q' hq' hid => ?_⟩
  have hji : j = i := eq_of_nodup_map hids hq' hq hid
  omega

/-! ## What is written -/

/-- How a destination is written: as members of the report, with the id of the next question if
there is one, and in words. -/
inductive TellsNext (s : Survey) : Destination → List (String × Json) → String → Prop
  | question {j : Nat} {q : Question} : s.questions[j]? = some q →
      TellsNext s (.question j)
        [("next", .object [("kind", .text "index"), ("index", .nat j)]), ("next_id", .text q.id)]
        (q.id ++ " (#" ++ toString j ++ ")")
  | finish : TellsNext s .finish [("next", .object [("kind", .text "end")])] "END"

/-- How a reason is written: as the members of a value, and in words. -/
inductive TellsReason : Reason → List (String × Json) → String → Prop
  | inOrder : TellsReason .inOrder [("kind", .text "linear")] "no rule fired; default order"
  | ended (ruleId : String) : TellsReason (.ended ruleId)
      [("kind", .text "end"), ("rule_id", .text ruleId)]
      ("rule '" ++ ruleId ++ "' ends the survey")
  | jumped (ruleId targetId : String) : TellsReason (.jumped ruleId targetId)
      [("kind", .text "goto"), ("rule_id", .text ruleId), ("target_id", .text targetId)]
      ("rule '" ++ ruleId ++ "' jumps to " ++ targetId)
  | unresolved (ruleId : String) : TellsReason (.unresolved ruleId)
      [("kind", .text "unresolved"), ("rule_id", .text ruleId)]
      ("rule '" ++ ruleId ++ "' fired but its target did not resolve; default order")

/-- The command `next` for this text writes that one goes from the question at `i` to this
destination, for this reason: as a value with these members, or in two lines. -/
def Writes (s : Survey) (answers : Snapshot) (options : Options) (text : String) (raw : Bool)
    (i : Nat) (next : Destination) (reason : Reason) : Prop :=
  ∃ nextMembers nextWords reasonMembers reasonWords output,
    TellsNext s next nextMembers nextWords ∧ TellsReason reason reasonMembers reasonWords ∧
    Json.WrittenAs
      (.object ([("current", .nat i)] ++ nextMembers ++ [("transition", .object reasonMembers)]))
      output ∧
    (Command.next text raw true).run s answers options = .ok { output } ∧
    (Command.next text raw false).run s answers options =
      .ok { output := "next: " ++ nextWords ++ "\n" ++ "reason: " ++ reasonWords ++ "\n" }

theorem next_report_raw : (NextReport.of s answers options i true).next =
    (resolve s.questions i (s.answerAt? answers i) options).next := by
  simp only [NextReport.of]
  cases (resolve s.questions i (s.answerAt? answers i) options).next <;> rfl

/-- The report looks for a visible question by itself, and comes to the one of `advance`. -/
theorem next_report_shown :
    (NextReport.of s answers options i false).next = s.advance answers options i := by
  simp only [NextReport.of, Survey.advance]
  cases (resolve s.questions i (s.answerAt? answers i) options).next <;> rfl

/-- The next question of a report is one of the survey. -/
theorem lt_length_of_next_report {raw : Bool} {j : Nat}
    (h : (NextReport.of s answers options i raw).next = .question j) : j < s.questions.length := by
  cases raw with
  | true => exact leads_resolve.lt_length (next_report_raw ▸ h)
  | false => exact (Survey.ShowsAt.of_advance (next_report_shown ▸ h)).lt_length

theorem nextId_report (raw : Bool) : (NextReport.of s answers options i raw).nextId =
    (NextReport.of s answers options i raw).next.index?.bind fun j =>
      s.questions[j]?.map (·.id) := rfl

theorem exists_tellsReason (reason : Reason) :
    ∃ members, TellsReason reason members (NextReport.reasonText reason) ∧
      reason.toJson = .object members := by
  cases reason with
  | inOrder => exact ⟨_, .inOrder, rfl⟩
  | ended ruleId => exact ⟨_, .ended ruleId, rfl⟩
  | jumped ruleId targetId => exact ⟨_, .jumped ruleId targetId, rfl⟩
  | unresolved ruleId => exact ⟨_, .unresolved ruleId, rfl⟩

/-- The members of a report, and its lines. -/
theorem tells_report {r : NextReport} (hnext : ∀ j, r.next = .question j → j < s.questions.length)
    (hid : r.nextId = r.next.index?.bind fun j => s.questions[j]?.map (·.id)) :
    ∃ nextMembers nextWords reasonMembers reasonWords,
      TellsNext s r.next nextMembers nextWords ∧ TellsReason r.reason reasonMembers reasonWords ∧
      r.toJson = .object
        ([("current", .nat r.current)] ++ nextMembers ++
          [("transition", .object reasonMembers)]) ∧
      r.text s = "next: " ++ nextWords ++ "\n" ++ "reason: " ++ reasonWords ++ "\n" := by
  obtain ⟨reasonMembers, hreason, hmembers⟩ := exists_tellsReason r.reason
  cases hdestination : r.next with
  | finish =>
    rw [hdestination, Destination.index?, Option.bind_none] at hid
    refine ⟨_, _, _, _, .finish, hreason, ?_, ?_⟩
    · simp [NextReport.toJson, hdestination, hid, hmembers, Json.present, Destination.toJson]
    · simp [NextReport.text, hdestination, unlines, ← String.toList_inj]
  | question j =>
    -- the next question is one of the survey, so there is an id to write
    have hq := List.getElem?_eq_getElem (hnext j hdestination)
    rw [hdestination, Destination.index?, Option.bind_some, hq, Option.map_some] at hid
    refine ⟨_, _, _, _, .question hq, hreason, ?_, ?_⟩
    · simp [NextReport.toJson, hdestination, hid, hmembers, Json.present, Destination.toJson]
    · simp [NextReport.text, hdestination, unlines, questionLabel, hq, ← String.toList_inj]

theorem writes_of_current (h : current s text = .ok i) (raw : Bool) :
    Writes s answers options text raw i (NextReport.of s answers options i raw).next
      (NextReport.of s answers options i raw).reason := by
  obtain ⟨nextMembers, nextWords, reasonMembers, reasonWords, hnext, hreason, hjson, htext⟩ :=
    tells_report (fun _ => lt_length_of_next_report) (nextId_report raw)
  have hrun (json : Bool) : (Command.next text raw json).run s answers options =
      .ok { output := if json then jsonText (NextReport.of s answers options i raw).toJson
        else (NextReport.of s answers options i raw).text s } := by
    simp only [Command.run, h, Except.map]
  refine ⟨_, _, _, _, _, hnext, hreason, Json.writtenAs_pretty _, ?_, ?_⟩
  · rw [hrun, if_pos rfl, jsonText, hjson]
    rfl
  · rw [hrun, if_neg Bool.false_ne_true, htext]

theorem reason_report (raw : Bool) : (NextReport.of s answers options i raw).reason =
    (resolve s.questions i (s.answerAt? answers i) options).reason := rfl

theorem run_eq_ok_iff (raw json : Bool) :
    (∃ outcome, (Command.next text raw json).run s answers options = .ok outcome) ↔
      ∃ i, current s text = .ok i := by
  cases h : current s text <;> simp [Command.run, Except.map, h]

/-- **The command agrees with the library.** A text is accepted if it is an id or a position within
the survey, and means the first question with this id if there is one; otherwise the command fails.
For a text that is accepted it is written that one goes from that question to where `advance` leads,
or to where the step leads before hidden questions are passed over. With distinct ids, the command
for each question of a walk writes that one goes to the next one, and from the last one to where the
walk stops. -/
theorem command_next_agrees (s : Survey) (answers : Snapshot) (options : Options) :
    (∀ text i, current s text = .ok i ↔ Names s text i) ∧
    (∀ text, (∃ i, current s text = .ok i) ↔
      (∃ q ∈ s.questions, q.id = text) ∨ ∃ i, IsPosition text i ∧ i < s.questions.length) ∧
    (∀ text raw json,
      (∃ outcome, (Command.next text raw json).run s answers options = .ok outcome) ↔
        ∃ i, current s text = .ok i) ∧
    (∀ text i raw, current s text = .ok i → ∃ q, s.questions[i]? = some q ∧
      Writes s answers options text raw i
        (if raw then (resolve s.questions i (answers.get? q.id) options).next
          else s.advance answers options i)
        (resolve s.questions i (answers.get? q.id) options).reason) ∧
    ((s.questions.map (·.id)).Nodup →
      ∀ k i : Nat, (s.walk answers options).visited[k]? = some i →
        ∃ q reason, s.questions[i]? = some q ∧
          Writes s answers options q.id false i (.ofIndex?
            ((s.walk answers options).visited[k + 1]?.or (s.walk answers options).loopAt))
            reason) := by
  refine ⟨fun text i => current_eq_ok_iff, fun text => ?_, fun text => run_eq_ok_iff,
    fun text i raw h => ?_, ?_⟩
  · simp only [current_eq_ok_iff, exists_names_iff]
  · have hlt := (current_eq_ok_iff.mp h).lt_length
    have hq := List.getElem?_eq_getElem hlt
    have hwrites : Writes s answers options text raw i _ _ := writes_of_current h raw
    have hanswer : s.answerAt? answers i = answers.get? s.questions[i].id := by
      rw [Survey.answerAt?, hq, Option.bind_some]
    refine ⟨_, hq, ?_⟩
    rw [reason_report, hanswer] at hwrites
    cases raw with
    | true => rwa [next_report_raw, hanswer] at hwrites
    | false => rwa [next_report_shown] at hwrites
  · intro hids k i hi
    have hlt := (Survey.showsAt_of_mem_walk (List.mem_of_getElem? hi)).lt_length
    have hq := List.getElem?_eq_getElem hlt
    have hwrites : Writes s answers options _ false i _ _ :=
      writes_of_current (current_id hids hq) false
    rw [next_report_shown, Survey.advance_of_getElem?_walk hi] at hwrites
    exact ⟨_, _, hq, hwrites⟩

/-- A survey with an id that looks like a position, and a question that is hidden at first. -/
def lodging : Survey where
  questions :=
    [{ id := "2", kind := .text },
      { id := "breakfast", kind := .text
        guard := some { conditions := [.ofValues "" "2" []] } },
      { id := "nights", kind := .text }]

/-- The text "2" means the first question of `lodging`, for it is an id, and "+1" means the second.
A walk goes from the first question to the last, and so does the command for the first; the step
itself leads to the question that is hidden. -/
theorem command_next_agrees_lodging :
    current lodging "2" = .ok 0 ∧ current lodging "+1" = .ok 1 ∧
    (lodging.walk .empty {}).visited = [0, 2] ∧
    (∃ reason, Writes lodging .empty {} "2" false 0 (.question 2) reason) ∧
    (Command.next "2" true false).run lodging .empty {} =
      .ok { output := "next: breakfast (#1)\nreason: no rule fired; default order\n" } := by
  have hids : (lodging.questions.map (·.id)).Nodup := by decide
  have hwalk : (lodging.walk .empty {}).visited = [0, 2] := by decide
  have hstep : resolve lodging.questions 0 (Snapshot.empty.get? "2") {} =
      ⟨.question 1, .inOrder⟩ := by decide
  obtain ⟨hnames, -, -, hsteps, hfollows⟩ := command_next_agrees lodging .empty {}
  have hcurrent : current lodging "2" = .ok 0 := (hnames "2" 0).mpr (.byId ⟨⟨_, rfl, rfl⟩, by simp⟩)
  have hposition : current lodging "+1" = .ok 1 :=
    (hnames "+1" 1).mpr (.byPosition (by decide) ⟨['1'], by decide, .digit rfl, by decide⟩
      (by decide))
  refine ⟨hcurrent, hposition, hwalk, ?_, ?_⟩
  · obtain ⟨q, reason, hq, hwrites⟩ := hfollows hids 0 0 (by rw [hwalk]; rfl)
    obtain rfl : lodging.questions[0] = q := Option.some.inj hq
    exact ⟨reason, hwrites⟩
  · obtain ⟨q, hq, hwrites⟩ := hsteps "2" 0 true hcurrent
    have hid : q.id = "2" := congrArg (·.id) (Option.some.inj hq.symm)
    rw [hid, hstep, if_pos rfl] at hwrites
    obtain ⟨_, _, _, _, _, hnext, hreason, -, -, hrun⟩ := hwrites
    cases hreason with
    | inOrder =>
      cases hnext with
      | @question _ q hq =>
        obtain rfl : lodging.questions[1] = q := Option.some.inj hq
        exact hrun

end Questionnaire.CommandLine
