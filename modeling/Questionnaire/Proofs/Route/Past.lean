import Questionnaire.Proofs.Route.LookBack

/-!
# Later answers leave the past alone

A survey may jump back, so that a walk visits early questions after late ones. Still, what comes
before a walk first leaves the questions below a position is settled by the answers to these
questions. The main statement compares two walks under snapshots that agree below a position, in a
survey that looks back: they visit the same questions until they leave the ones below it, and they
come to the position itself together or not at all.

Steps below the position agree as far as they stay below or reach it, which is all that the two
trails have in common (`agreeUpTo_trail`). The loop guard needs no argument of its own: both trails
have the same fresh positions for as long as they visit the same ones.
-/

namespace Questionnaire

/-- Two lists of positions have the same entries until the first one that is not below `j`, and
that one is `j` in both of them or in neither. -/
def AgreeUpTo (j : Nat) (l l' : List Nat) : Prop :=
  l.takeWhile (· < j) = l'.takeWhile (· < j) ∧
    ((l.dropWhile (· < j)).head? = some j ↔ (l'.dropWhile (· < j)).head? = some j)

namespace AgreeUpTo

variable {j : Nat} {l l' : List Nat}

/-- Lists that begin beyond `j`, if they begin at all, have nothing to agree on. -/
theorem of_beyond (h : ∀ d ≤ j, l.head? ≠ some d) (h' : ∀ d ≤ j, l'.head? ≠ some d) :
    AgreeUpTo j l l' := by
  have hnothing : ∀ m : List Nat, (∀ d ≤ j, m.head? ≠ some d) →
      m.takeWhile (· < j) = [] ∧ (m.dropWhile (· < j)).head? ≠ some j := by
    intro m hm
    cases m with
    | nil => simp
    | cons a rest =>
      have hja : j < a := Nat.lt_of_not_le fun hle => hm a hle rfl
      have hlt : ¬ a < j := by omega
      have hne : a ≠ j := by omega
      simp [hlt, hne]
  obtain ⟨htake, hdrop⟩ := hnothing l h
  obtain ⟨htake', hdrop'⟩ := hnothing l' h'
  exact ⟨htake.trans htake'.symm, iff_of_false hdrop hdrop'⟩

/-- At `j` itself nothing is left to compare. -/
theorem of_reached : AgreeUpTo j (j :: l) (j :: l') := by
  simp [AgreeUpTo]

theorem cons {a : Nat} (ha : a < j) (h : AgreeUpTo j l l') : AgreeUpTo j (a :: l) (a :: l') := by
  simpa [AgreeUpTo, ha] using h

end AgreeUpTo

/-- Trails agree up to `j` when their starts and their steps from below `j` lead to the same
position, or both lead beyond `j`. -/
theorem agreeUpTo_trail {next next' : Nat → Option Nat} {j : Nat}
    (hnext : ∀ i < j, ∀ d ≤ j, next i = some d ↔ next' i = some d) (fresh : List Nat)
    {start start' : Option Nat} (hstart : ∀ d ≤ j, start = some d ↔ start' = some d) :
    AgreeUpTo j (Orbit.trail next fresh start).visited (Orbit.trail next' fresh start').visited := by
  induction fresh, start using Orbit.trail_induction next generalizing start' with
  | ended fresh =>
    refine .of_beyond (by simp) ?_
    intro d hd hhead
    have hnone := (hstart d hd).mpr (Orbit.start_of_head?_visited hhead)
    cases hnone
  | cut fresh a ha =>
    -- what is not fresh for one trail is not fresh for the other
    refine .of_beyond (by simp) ?_
    intro d hd hhead
    have hsame := (hstart d hd).mpr (Orbit.start_of_head?_visited hhead)
    have hfresh := Orbit.mem_fresh_of_mem_visited _ _ d (List.mem_of_head? hhead)
    rw [Option.some.injEq] at hsame
    exact ha (hsame ▸ hfresh)
  | visit fresh a ha ih =>
    by_cases haj : a ≤ j
    · -- both trails visit `a`, and go on without it
      obtain rfl : start' = some a := (hstart a haj).mp rfl
      rw [Orbit.trail_of_mem ha, Orbit.Trail.visited_cons, Orbit.Trail.visited_cons]
      rcases Nat.lt_or_eq_of_le haj with hlt | rfl
      · exact .cons hlt (ih (hnext a hlt))
      · exact .of_reached
    · -- a start beyond `j` is not one that the other trail has to share
      refine .of_beyond ?_ ?_
      · intro d hd hhead
        rw [Orbit.Trail.visited_cons, List.head?_cons, Option.some.injEq] at hhead
        omega
      · intro d hd hhead
        have hsame := (hstart d hd).mpr (Orbit.start_of_head?_visited hhead)
        rw [Option.some.injEq] at hsame
        omega

namespace Survey

/-- **Later answers leave the past alone.** In a survey whose conditions look back, with jumps of
any kind, let two snapshots hold the same answers to the questions below a position. Then the same
questions show up to that position, and the two walks agree up to it. -/
theorem walks_agree_upTo (s : Survey) (hforward : ¬ Lint.HasCode s.lint "forward_source_question")
    (hgroups : s.GroupsLookBack) (options : Options) (j : Nat) (r r' : Snapshot)
    (hagree : s.AgreeBelow j r r') :
    (∀ i ≤ j, ∀ q, s.questions[i]? = some q → s.shows r options q = s.shows r' options q) ∧
      AgreeUpTo j (s.walk r options).visited (s.walk r' options).visited := by
  have hquestions := questionsLookBack_of_lint hforward
  have hagree' : s.AgreeBelow j r' r := fun i q hi hq => (hagree i q hi hq).symm
  constructor
  · intro i hi q hq
    exact shows_congr hquestions hgroups hq (hagree.mono hi)
  · refine agreeUpTo_trail ?_ _ ?_
    · intro i hi d hd
      constructor
      · intro h
        exact successor_eq_of_agreeBelow hquestions hgroups hi hd hagree h
      · intro h
        exact successor_eq_of_agreeBelow hquestions hgroups hi hd hagree' h
    · intro d hd
      constructor
      · intro h
        exact nextVisible?_eq_of_agreeBelow hquestions hgroups (hagree.mono hd) h
      · intro h
        exact nextVisible?_eq_of_agreeBelow hquestions hgroups (hagree'.mono hd) h

/-- A tour. A long route passes over the inn, on to the harbour, which belongs to a group that
shows once the pace is known; after the harbour, "again" leads back to the route. -/
def tour : Survey where
  questions :=
    [{ id := "pace", kind := .radio },
      { id := "route", kind := .table
        grid := [{ id := "row", cells := [{ id := "length", kind := .widget .radio }] }]
        rules := [{ id := "long", kind := .anyOf, action := .jump, target := some "harbour"
                    check := { rowIds := ["row"], expected := ["long"] } }] },
      { id := "inn", kind := .text, guard := some { conditions := [.ofValues "" "pace" ["slow"]] } },
      { id := "harbour", kind := .text, groupId := some "coast" },
      { id := "more", kind := .table
        grid := [{ id := "row", cells := [{ id := "again", kind := .widget .checkbox }] }]
        rules := [{ id := "back", kind := .anyOf, action := .jump, target := some "route"
                    check := { rowIds := ["row"] } }] },
      { id := "end", kind := .notice }]
  groups :=
    [{ id := "coast", guard := some { conditions := [.ofValues "" "pace" []] } }]

/-- A slow tour on the long route, with this answer to the question for more. -/
def slowTour (more : TableAnswer) : Snapshot :=
  ((Snapshot.empty.answer "pace" (.text "slow")).answer "route"
    (.table (Entries.empty.put "length" (.text "long")))).answer "more" (.table more)

theorem agreeBelow_slowTour (more more' : TableAnswer) :
    tour.AgreeBelow 4 (slowTour more) (slowTour more') := by
  intro i q hi hq
  have hids : ∀ i < 4, ∀ q ∈ tour.questions[i]?, q.id ≠ "more" := by decide
  have hne : "more" ≠ q.id := (hids i hi q hq).symm
  simp only [slowTour, Snapshot.get?_answer, if_neg hne]

/-- The question for more, at position 4, is what tells the two tours apart: one goes back to the
route for ever, the other one comes to an end. Up to it they agree, and both come to it. -/
theorem walks_agree_upTo_tour :
    (¬ Lint.HasCode tour.lint "forward_source_question" ∧ tour.GroupsLookBack ∧
      tour.AgreeBelow 4 (slowTour (Entries.empty.put "again" (.text "yes"))) (slowTour .empty)) ∧
    AgreeUpTo 4 (tour.walk (slowTour (Entries.empty.put "again" (.text "yes"))) {}).visited
      (tour.walk (slowTour .empty) {}).visited ∧
    tour.walk (slowTour (Entries.empty.put "again" (.text "yes"))) {} = ⟨[0, 1, 3, 4], some 1⟩ ∧
    tour.walk (slowTour .empty) {} = ⟨[0, 1, 3, 4, 5], none⟩ := by
  have hforward : ¬ Lint.HasCode tour.lint "forward_source_question" := by
    unfold Lint.HasCode
    decide
  have hgroups : tour.GroupsLookBack := by decide
  have hagree := agreeBelow_slowTour (Entries.empty.put "again" (.text "yes")) .empty
  refine ⟨⟨hforward, hgroups, hagree⟩, ?_, by decide, by decide⟩
  exact (walks_agree_upTo tour hforward hgroups {} 4 _ _ hagree).2

end Survey

end Questionnaire
