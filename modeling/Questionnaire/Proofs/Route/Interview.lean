import Questionnaire.Proofs.Route.LookBack
import Questionnaire.Proofs.Route.Loops
import Mathlib.Data.Nat.Find
import Mathlib.Tactic.Choose

/-!
# Interviews

A walk looks at one snapshot of all answers. In an interview the answers come one at a time, each
to the question that is asked, and the next question is found with the answers given until then.
The main statement is that both see the same questions: for a survey that looks back and has no
backward target, the questions asked in an interview are those of the walk under the answers at
its end.

The reason is that answers are only added ahead. Once a question is asked, the answers below it
stay as they are (`agreeBelow_interview`), and these decide all steps up to it.
-/

namespace Questionnaire

/-- An interview under way: the answers so far, and the question that is asked. -/
structure Interview where
  answers : Snapshot
  asked : Option Nat

namespace Survey

variable (s : Survey) (options : Options)

/-- Puts down an answer to the question at a position. -/
def record (answers : Snapshot) (i : Nat) (a : Answer) : Snapshot :=
  match s.questions[i]? with
  | some q => answers.answer q.id a
  | none => answers

/-- Answers the question that is asked, and goes on to the next one. An interview that is over
stays as it is. -/
def reply (now : Interview) (a : Answer) : Interview :=
  match now.asked with
  | none => now
  | some i => ⟨s.record now.answers i a, s.successor (s.record now.answers i a) options i⟩

/-- The interview after `k` replies, the values of which are given in advance. -/
def interview (initial : Snapshot) (given : Nat → Answer) : Nat → Interview
  | 0 => ⟨initial, s.nextVisible? initial options 0⟩
  | k + 1 => s.reply options (interview initial given k) (given k)

variable {s options} {initial : Snapshot} {given : Nat → Answer}

theorem reply_of_asked {now : Interview} {i : Nat} (h : now.asked = some i) (a : Answer) :
    s.reply options now a =
      ⟨s.record now.answers i a, s.successor (s.record now.answers i a) options i⟩ := by
  simp only [reply, h]

theorem reply_of_over {now : Interview} (h : now.asked = none) (a : Answer) :
    s.reply options now a = now := by
  simp only [reply, h]

/-! ## One reply -/

/-- An answer to a question leaves the answers to earlier questions alone, as ids differ. -/
theorem agreeBelow_record (hids : (s.questions.map (·.id)).Nodup) {answers : Snapshot} {p i : Nat}
    (hp : p ≤ i) (a : Answer) : s.AgreeBelow p answers (s.record answers i a) := by
  intro j q hj hq
  unfold record
  cases hi : s.questions[i]? with
  | none => rfl
  | some q' =>
    have hne : q'.id ≠ q.id := by
      intro heq
      have hij := eq_of_nodup_map hids hi hq heq
      omega
    rw [Snapshot.get?_answer, if_neg hne]

/-- What is asked is visible, with the answers given so far. -/
theorem showsAt_of_asked {k i : Nat} (h : (s.interview options initial given k).asked = some i) :
    s.ShowsAt (s.interview options initial given k).answers options i := by
  cases k with
  | zero => exact .of_nextVisible? h
  | succ k =>
    unfold interview at h ⊢
    cases hasked : (s.interview options initial given k).asked with
    | none =>
      rw [reply_of_over hasked] at h
      rw [hasked] at h
      cases h
    | some c =>
      rw [reply_of_asked hasked] at h ⊢
      exact .of_successor h

/-- An interview goes on only after a question, and then only ahead. -/
theorem exists_asked_of_succ (hlint : ¬ Lint.HasCode s.lint "backward_target") {k d : Nat}
    (h : (s.interview options initial given (k + 1)).asked = some d) :
    ∃ c, (s.interview options initial given k).asked = some c ∧ c < d := by
  unfold interview at h
  cases hasked : (s.interview options initial given k).asked with
  | none =>
    rw [reply_of_over hasked, hasked] at h
    cases h
  | some c =>
    rw [reply_of_asked hasked] at h
    exact ⟨c, rfl, lt_of_advance hlint (successor_eq_some_iff.mp h)⟩

/-! ## The run -/

/-- The interview has moved one position or more with every reply. -/
theorem le_of_asked (hlint : ¬ Lint.HasCode s.lint "backward_target") {k i : Nat}
    (h : (s.interview options initial given k).asked = some i) : k ≤ i := by
  induction k generalizing i with
  | zero => exact Nat.zero_le i
  | succ k ih =>
    obtain ⟨c, hc, hci⟩ := exists_asked_of_succ hlint h
    have hkc := ih hc
    omega

/-- **The invariant of a run**: after a question is asked, the answers below it stay as they are,
and whatever is asked later is not below it. -/
theorem agreeBelow_interview (hids : (s.questions.map (·.id)).Nodup)
    (hlint : ¬ Lint.HasCode s.lint "backward_target") {k m i : Nat} (hkm : k ≤ m)
    (h : (s.interview options initial given k).asked = some i) :
    s.AgreeBelow i (s.interview options initial given k).answers
        (s.interview options initial given m).answers ∧
      ∀ e, (s.interview options initial given m).asked = some e → i ≤ e := by
  induction m, hkm using Nat.le_induction with
  | base =>
    refine ⟨.refl i _, fun e he => ?_⟩
    rw [h, Option.some.injEq] at he
    omega
  | succ m hkm ih =>
    obtain ⟨hagree, hle⟩ := ih
    cases hasked : (s.interview options initial given m).asked with
    | none =>
      rw [interview, reply_of_over hasked]
      exact ⟨hagree, hle⟩
    | some c =>
      have hic := hle c hasked
      constructor
      · rw [interview, reply_of_asked hasked]
        exact hagree.trans (agreeBelow_record hids hic _)
      · intro e he
        obtain ⟨c', hc', hlt⟩ := exists_asked_of_succ hlint he
        have hie := hle c' hc'
        omega

/-- An interview that is over stays over, with the same answers. -/
theorem interview_of_over {k m : Nat} (hkm : k ≤ m)
    (h : (s.interview options initial given k).asked = none) :
    s.interview options initial given m = s.interview options initial given k := by
  induction m, hkm using Nat.le_induction with
  | base => rfl
  | succ m hkm ih => rw [interview, ih, reply_of_over h]

/-- The first number of replies after which the interview is over. -/
theorem exists_over (hlint : ¬ Lint.HasCode s.lint "backward_target") (options : Options)
    (initial : Snapshot) (given : Nat → Answer) :
    ∃ n ≤ s.questions.length, (s.interview options initial given n).asked = none ∧
      ∀ k < n, ∃ i, (s.interview options initial given k).asked = some i := by
  have hend : (s.interview options initial given s.questions.length).asked = none := by
    cases hasked : (s.interview options initial given s.questions.length).asked with
    | none => rfl
    | some i =>
      have hle := le_of_asked hlint hasked
      have hlt := (showsAt_of_asked hasked).lt_length
      omega
  classical
  have hexists : ∃ n, (s.interview options initial given n).asked = none := ⟨_, hend⟩
  refine ⟨Nat.find hexists, Nat.find_min' hexists hend, Nat.find_spec hexists, fun k hk => ?_⟩
  exact Option.ne_none_iff_exists'.mp (Nat.find_min hexists hk)

/-! ## Seen from the end -/

section

variable (hids : (s.questions.map (·.id)).Nodup) (hquestions : s.QuestionsLookBack)
  (hgroups : s.GroupsLookBack) (hlint : ¬ Lint.HasCode s.lint "backward_target")
include hids hquestions hgroups hlint

/-- The first visible question is the same under the answers at the end. -/
theorem start_at_end (n : Nat) :
    s.nextVisible? (s.interview options initial given n).answers options 0 =
      s.nextVisible? initial options 0 := by
  cases hstart : s.nextVisible? initial options 0 with
  | none => rw [interview_of_over (k := 0) (Nat.zero_le n) hstart, interview, hstart]
  | some d =>
    have hagree : s.AgreeBelow d initial (s.interview options initial given n).answers :=
      (agreeBelow_interview (k := 0) hids hlint (Nat.zero_le n) hstart).1
    exact nextVisible?_eq_of_agreeBelow hquestions hgroups hagree hstart

/-- Each step of an interview is a step under the answers at its end. -/
theorem successor_at_end {k n i : Nat} (hkn : k < n)
    (h : (s.interview options initial given k).asked = some i) :
    s.successor (s.interview options initial given n).answers options i =
      (s.interview options initial given (k + 1)).asked := by
  have hstep : s.successor (s.interview options initial given (k + 1)).answers options i =
      (s.interview options initial given (k + 1)).asked := by
    rw [interview, reply_of_asked h]
  cases hnext : (s.interview options initial given (k + 1)).asked with
  | none =>
    -- the interview is over already, so its answers are those at the end
    rw [interview_of_over (m := n) (k := k + 1) hkn hnext, hstep, hnext]
  | some d =>
    obtain ⟨c, hc, hlt⟩ := exists_asked_of_succ hlint hnext
    rw [h, Option.some.injEq] at hc
    have hagree := (agreeBelow_interview (m := n) hids hlint hkn hnext).1
    rw [hnext] at hstep
    exact successor_eq_of_agreeBelow hquestions hgroups (hc ▸ hlt) (Nat.le_refl d) hagree hstep

/-- The loop along `advance` under the answers at the end, begun after the first `k` questions,
visits the questions asked from then on and is over. -/
theorem loop_interview {path : List Nat}
    (hpath : ∀ k ≤ path.length, (s.interview options initial given k).asked = path[k]?)
    (hlt : path.Pairwise (· < ·)) (k : Nat) (hk : k ≤ path.length) :
    Orbit.Loop
      (s.successor (s.interview options initial given path.length).answers options)
      (path.take k) (s.interview options initial given k).asked ⟨path, none⟩ := by
  -- on the number of questions that are still to come
  induction hrest : path.length - k generalizing k with
  | zero =>
    obtain rfl : k = path.length := by omega
    have hover := hpath path.length (Nat.le_refl _)
    rw [List.getElem?_eq_none (Nat.le_refl _)] at hover
    rw [hover, List.take_length]
    exact .ended path
  | succ rest ih =>
    have hklt : k < path.length := by omega
    have hasked := hpath k hk
    rw [List.getElem?_eq_getElem hklt] at hasked
    have hstep := successor_at_end hids hquestions hgroups hlint hklt hasked
    have hfresh : path[k] ∉ path.take k := by
      intro hmem
      obtain ⟨j, hj, heq⟩ := List.mem_take_iff_getElem.mp hmem
      have hjk : j < k := by omega
      have hless := List.pairwise_iff_getElem.mp hlt j k (by omega) hklt hjk
      omega
    rw [hasked]
    refine .visit hfresh ?_
    rw [hstep, List.take_append_getElem hklt]
    exact ih (k + 1) hklt (by omega)

end

/-- **Interviews and walks agree.** In a survey with distinct question ids, whose conditions look
back and whose jumps lead ahead, every interview is over after at most as many replies as there
are questions. It asks for questions in ascending order, and these are the questions of the walk
under the answers at its end, which has no loop. -/
theorem interview_eq_walk (s : Survey) (hids : (s.questions.map (·.id)).Nodup)
    (hforward : ¬ Lint.HasCode s.lint "forward_source_question")
    (hbackward : ¬ Lint.HasCode s.lint "backward_target") (hgroups : s.GroupsLookBack)
    (options : Options) (initial : Snapshot) (given : Nat → Answer) :
    ∃ path : List Nat, path.length ≤ s.questions.length ∧
      (∀ k < path.length, (s.interview options initial given k).asked = path[k]?) ∧
      (s.interview options initial given path.length).asked = none ∧
      path.Pairwise (· < ·) ∧
      s.walk (s.interview options initial given path.length).answers options = ⟨path, none⟩ := by
  obtain ⟨n, hn, hover, hbefore⟩ := exists_over hbackward options initial given
  choose! asked hasked using hbefore
  have hquestions := questionsLookBack_of_lint hforward
  have hlength : ((List.range n).map asked).length = n := by simp
  have hpath : ∀ k ≤ ((List.range n).map asked).length,
      (s.interview options initial given k).asked = ((List.range n).map asked)[k]? := by
    intro k hk
    rw [hlength] at hk
    rcases Nat.lt_or_eq_of_le hk with hlt | rfl
    · simp [hasked k hlt, hlt]
    · simp [hover]
  have hless : ((List.range n).map asked).Pairwise (· < ·) := by
    rw [← List.isChain_iff_pairwise, List.isChain_iff_getElem]
    intro k hk
    rw [hlength] at hk
    obtain ⟨c, hc, hlt⟩ := exists_asked_of_succ hbackward (hasked (k + 1) hk)
    rw [hasked k (by omega), Option.some.injEq] at hc
    simpa [hc] using hlt
  refine ⟨(List.range n).map asked, by omega, fun k hk => hpath k (Nat.le_of_lt hk), ?_, hless, ?_⟩
  · rwa [hlength]
  · have hloop := loop_interview hids hquestions hgroups hbackward hpath hless 0 (Nat.zero_le _)
    rw [List.take_zero, interview,
      ← start_at_end hids hquestions hgroups hbackward ((List.range n).map asked).length] at hloop
    exact walk_of_loop hloop

/-- A survey about a journey. The second question jumps over the third when it is answered "yes";
the fourth belongs to a group that shows after such an answer only, and the fifth shows after the
answer "sea" to the fourth. -/
def journey : Survey where
  questions :=
    [{ id := "name", kind := .text },
      { id := "away", kind := .table
        grid := [{ id := "row", cells := [{ id := "cell", kind := .widget .radio }] }]
        rules := [{ id := "goes", kind := .anyOf, action := .jump, target := some "where"
                    check := { rowIds := ["row"], expected := ["yes"] } }] },
      { id := "why", kind := .text },
      { id := "where", kind := .radio, groupId := some "goers" },
      { id := "harbour", kind := .text
        guard := some { conditions := [.ofValues "" "where" ["sea"]] } },
      { id := "end", kind := .notice }]
  groups :=
    [{ id := "goers", parentId := some "all"
       guard := some { conditions := [.ofChecks "" "away" { rowIds := ["row"] } none] } },
      { id := "all" }]

/-- The answers to `journey` of someone who goes to the hills. -/
def toTheHills : Nat → Answer
  | 0 => .text "Ada"
  | 1 => .table (Entries.empty.put "cell" (.text "yes"))
  | _ => .text "hills"

/-- A snapshot in which "sea" is filled in before the interview. -/
def seaFilledIn : Snapshot := Snapshot.empty.answer "where" (.text "sea")

/-- The hypotheses hold of `journey`, and the interview asks four of its questions: "sea" is
answered anew, so that neither the interview nor the walk gets to the harbour. -/
theorem interview_eq_walk_journey :
    ((journey.questions.map (·.id)).Nodup ∧
      ¬ Lint.HasCode journey.lint "forward_source_question" ∧
      ¬ Lint.HasCode journey.lint "backward_target" ∧ journey.GroupsLookBack) ∧
    ∃ path : List Nat, path.length = 4 ∧
      (∀ k < path.length, (journey.interview {} seaFilledIn toTheHills k).asked = path[k]?) ∧
      path.Pairwise (· < ·) ∧
      journey.walk (journey.interview {} seaFilledIn toTheHills path.length).answers {} =
        ⟨path, none⟩ := by
  have hids : (journey.questions.map (·.id)).Nodup := by decide
  have hgroups : journey.GroupsLookBack := by decide
  have hforward : ¬ Lint.HasCode journey.lint "forward_source_question" := by
    unfold Lint.HasCode
    decide
  have hbackward : ¬ Lint.HasCode journey.lint "backward_target" := by
    unfold Lint.HasCode
    decide
  obtain ⟨path, -, hasked, hover, hless, hwalk⟩ :=
    interview_eq_walk journey hids hforward hbackward hgroups {} seaFilledIn toTheHills
  refine ⟨⟨hids, hforward, hbackward, hgroups⟩, path, ?_, hasked, hless, hwalk⟩
  -- after fewer than four replies a question is asked, after four replies none is
  have hfour : (journey.interview {} seaFilledIn toTheHills 4).asked = none := by decide
  have hbefore : ∀ k < 4, (journey.interview {} seaFilledIn toTheHills k).asked ≠ none := by decide
  refine Nat.le_antisymm (Nat.le_of_not_lt fun hlt => ?_) (Nat.le_of_not_lt fun hlt => ?_)
  · have hsome := hasked 4 hlt
    rw [hfour, List.getElem?_eq_getElem hlt] at hsome
    cases hsome
  · exact hbefore path.length hlt hover

end Survey

end Questionnaire
