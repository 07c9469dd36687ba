import Questionnaire.Route
import Questionnaire.Proofs.Orbit
import Questionnaire.Proofs.Visibility.Next

/-!
# Walks

`Survey.walk` is the orbit of `Survey.advance` from the first visible question, cut at the first
question that would be seen again. The main statement says so in two ways: the walk is the one
result of the unbounded loop along `advance`, and its path has the properties of a cut orbit
(`IsCutOrbit`), each stated by positions alone.
-/

namespace Questionnaire

namespace Destination

@[simp] theorem ofIndex?_eq_question_iff {o : Option Nat} {i : Nat} :
    ofIndex? o = question i ↔ o = some i := by
  cases o <;> simp [ofIndex?]

theorem index?_eq_some_iff {d : Destination} {i : Nat} : d.index? = some i ↔ d = question i := by
  cases d <;> simp [index?]

theorem index?_eq_none_iff {d : Destination} : d.index? = none ↔ d = finish := by
  cases d <;> simp [index?]

@[simp] theorem ofIndex?_index? (d : Destination) : ofIndex? d.index? = d := by
  cases d <;> rfl

end Destination

namespace Survey

variable (s : Survey) (answers : Snapshot) (options : Options)

/-- The position that `advance` leads to, if it leads to a question. -/
def successor (i : Nat) : Option Nat := (s.advance answers options i).index?

variable {s answers options}

/-- `advance` leads to the first visible question from where the step leads. -/
theorem advance_eq_question_iff {i j : Nat} :
    s.advance answers options i = .question j ↔
      ∃ d, (resolve s.questions i (s.answerAt? answers i) options).next = .question d ∧
        s.nextVisible? answers options d = some j := by
  unfold advance
  cases (resolve s.questions i (s.answerAt? answers i) options).next with
  | finish => simp [skipHidden]
  | question d => simp [skipHidden]

theorem successor_eq_some_iff {i j : Nat} :
    s.successor answers options i = some j ↔ s.advance answers options i = .question j :=
  Destination.index?_eq_some_iff

theorem ShowsAt.of_nextVisible? {start i : Nat}
    (h : s.nextVisible? answers options start = some i) : s.ShowsAt answers options i :=
  (nextVisible?_eq_some_iff.mp h).2.1

/-- `advance` never leads to a hidden question or out of the survey. -/
theorem ShowsAt.of_advance {i j : Nat} (h : s.advance answers options i = .question j) :
    s.ShowsAt answers options j := by
  obtain ⟨d, -, hnext⟩ := advance_eq_question_iff.mp h
  exact .of_nextVisible? hnext

theorem ShowsAt.of_successor {i j : Nat} (h : s.successor answers options i = some j) :
    s.ShowsAt answers options j :=
  .of_advance (successor_eq_some_iff.mp h)

/-! ## The facts about trails, for walks -/

theorem isChain_walk :
    (s.walk answers options).visited.IsChain fun i j => s.advance answers options i = .question j :=
  (Orbit.isChain_visited _ _).imp fun _ _ h => successor_eq_some_iff.mp h

theorem head?_walk :
    (s.walk answers options).visited.head? = s.nextVisible? answers options 0 :=
  Orbit.head?_visited fun _ h => List.mem_range.mpr (ShowsAt.of_nextVisible? h).lt_length

/-- Every question of a walk is visible: it is the first one, or `advance` led to it. -/
theorem showsAt_of_mem_walk {i : Nat} (h : i ∈ (s.walk answers options).visited) :
    s.ShowsAt answers options i := by
  obtain ⟨k, hk⟩ := List.mem_iff_getElem?.mp h
  cases k with
  | zero =>
    rw [← List.head?_eq_getElem?, head?_walk] at hk
    exact .of_nextVisible? hk
  | succ k =>
    have hlt := (List.getElem?_eq_some_iff.mp hk).1
    have hstep := List.isChain_iff_getElem.mp isChain_walk k hlt
    rw [← (List.getElem?_eq_some_iff.mp hk).2]
    exact .of_advance hstep

/-- Where a walk stops: at the successor of its last question, or at the first visible question
when it has none. -/
theorem loopAt_walk_eq :
    (s.walk answers options).loopAt =
      (s.walk answers options).visited.getLast?.elim (s.nextVisible? answers options 0)
        (s.successor answers options) :=
  Orbit.cut_eq _ _

theorem visited_walk_eq_nil_iff :
    (s.walk answers options).visited = [] ↔ ∀ i, ¬ s.ShowsAt answers options i := by
  rw [← List.head?_eq_none_iff, head?_walk, nextVisible?_eq_none_iff]
  simp

/-- A question that would be seen again was seen before. -/
theorem mem_walk_of_loopAt {i : Nat} (h : (s.walk answers options).loopAt = some i) :
    i ∈ (s.walk answers options).visited := by
  -- the trail is cut within the survey, so it is not for want of a position
  have hat : s.ShowsAt answers options i := by
    rw [loopAt_walk_eq] at h
    cases hlast : (s.walk answers options).visited.getLast? with
    | none =>
      rw [hlast] at h
      exact .of_nextVisible? h
    | some l =>
      rw [hlast] at h
      exact .of_successor h
  exact Orbit.mem_visited_of_cut h (List.mem_range.mpr hat.lt_length)

/-! ## The walk as a cut orbit -/

/-- What it means for a path to be the orbit of `advance` from the first visible question, cut at
the first repetition. -/
structure IsCutOrbit (s : Survey) (answers : Snapshot) (options : Options) (p : Path) : Prop where
  nodup : p.visited.Nodup
  length_le : p.visited.length ≤ s.questions.length
  shown : ∀ i ∈ p.visited, i < s.questions.length ∧ s.ShowsAt answers options i
  eq_nil_iff : p.visited = [] ↔ ∀ i, ¬ s.ShowsAt answers options i
  /-- The path begins with the first visible question. -/
  first : ∀ i, p.visited[0]? = some i →
    s.ShowsAt answers options i ∧ ∀ j < i, ¬ s.ShowsAt answers options j
  /-- Each question is where `advance` leads from the one before it. -/
  next : ∀ k i, p.visited[k]? = some i → ∀ j, p.visited[k + 1]? = some j →
    s.advance answers options i = .question j
  /-- A path without a loop is empty or goes on to the end of the survey. -/
  finished : p.loopAt = none → p.visited = [] ∨
    ∃ l, p.visited.getLast? = some l ∧ s.advance answers options l = .finish
  /-- A path with a loop leads back to one of its questions. -/
  looped : ∀ i, p.loopAt = some i → i ∈ p.visited ∧
    ∃ l, p.visited.getLast? = some l ∧ s.advance answers options l = .question i

theorem isCutOrbit_walk : s.IsCutOrbit answers options (s.walk answers options) where
  nodup := Orbit.nodup_visited List.nodup_range _
  length_le := by
    have h := Orbit.length_visited_le (s.successor answers options)
      (List.range s.questions.length) (s.nextVisible? answers options 0)
    rwa [List.length_range] at h
  shown := fun i hi => ⟨(showsAt_of_mem_walk hi).lt_length, showsAt_of_mem_walk hi⟩
  eq_nil_iff := visited_walk_eq_nil_iff
  first := by
    intro i hi
    rw [← List.head?_eq_getElem?, head?_walk, nextVisible?_eq_some_iff] at hi
    exact ⟨hi.2.1, fun j hj => hi.2.2 j (Nat.zero_le j) hj⟩
  next := by
    intro k i hi j hj
    obtain ⟨_, rfl⟩ := List.getElem?_eq_some_iff.mp hi
    obtain ⟨hlt, rfl⟩ := List.getElem?_eq_some_iff.mp hj
    exact List.isChain_iff_getElem.mp isChain_walk k hlt
  finished := by
    intro h
    rw [loopAt_walk_eq] at h
    cases hlast : (s.walk answers options).visited.getLast? with
    | none => exact .inl (List.getLast?_eq_none_iff.mp hlast)
    | some l =>
      rw [hlast] at h
      exact .inr ⟨l, rfl, Destination.index?_eq_none_iff.mp h⟩
  looped := by
    intro i h
    have hmem := mem_walk_of_loopAt h
    refine ⟨hmem, ?_⟩
    rw [loopAt_walk_eq] at h
    cases hlast : (s.walk answers options).visited.getLast? with
    | none =>
      rw [List.getLast?_eq_none_iff.mp hlast] at hmem
      cases hmem
    | some l =>
      rw [hlast] at h
      exact ⟨l, rfl, successor_eq_some_iff.mp h⟩

/-- A walk along which `advance` only leads ahead is increasing and has no loop. -/
theorem increasing_walk
    (h : ∀ i ∈ (s.walk answers options).visited, ∀ j,
      s.advance answers options i = .question j → i < j) :
    (s.walk answers options).visited.Pairwise (· < ·) ∧ (s.walk answers options).loopAt = none := by
  have hchain : (s.walk answers options).visited.IsChain (· < ·) :=
    isChain_walk.imp_of_mem_imp fun i j hi _ hij => h i hi j hij
  have hlt : (s.walk answers options).visited.Pairwise (· < ·) :=
    List.isChain_iff_pairwise.mp hchain
  refine ⟨hlt, ?_⟩
  -- a loop would lead from the last question, the largest, to one that is not above it
  cases hloop : (s.walk answers options).loopAt with
  | none => rfl
  | some k =>
    obtain ⟨hk, l, hlast, hadvance⟩ := isCutOrbit_walk.looped k hloop
    have hlk : l < k := h l (List.mem_of_getLast? hlast) k hadvance
    obtain ⟨init, hinit⟩ := List.getLast?_eq_some_iff.mp hlast
    rw [hinit] at hk hlt
    rcases List.mem_append.mp hk with hk | hk
    · have hkl : k < l := (List.pairwise_append.mp hlt).2.2 k hk l (by simp)
      omega
    · have hkl : k = l := by simpa using hk
      omega

/-- **The step along a walk**: `advance` leads from each question to the one after it, and from the
last one to where the walk stops. -/
theorem advance_of_getElem?_walk {k i : Nat}
    (hi : (s.walk answers options).visited[k]? = some i) :
    s.advance answers options i = .ofIndex?
      ((s.walk answers options).visited[k + 1]?.or (s.walk answers options).loopAt) := by
  cases hnext : (s.walk answers options).visited[k + 1]? with
  | some j => exact isCutOrbit_walk.next k i hi j hnext
  | none =>
    obtain ⟨hlt, hget⟩ := List.getElem?_eq_some_iff.mp hi
    have hlast : (s.walk answers options).visited.getLast? = some i := by
      have hle := List.getElem?_eq_none_iff.mp hnext
      rw [List.getLast?_eq_getElem?, ← hi]
      congr 1
      omega
    rw [Option.none_or, loopAt_walk_eq, hlast, Option.elim_some, successor,
      Destination.ofIndex?_index?]

/-- The loop along `advance`, begun with nothing visited, comes to the walk. -/
theorem loop_walk :
    Orbit.Loop (s.successor answers options) [] (s.nextVisible? answers options 0)
      ⟨(s.walk answers options).visited, (s.walk answers options).loopAt⟩ := by
  have hrange : ∀ i, s.ShowsAt answers options i → i ∈ [] ∨ i ∈ List.range s.questions.length :=
    fun i hi => .inr (List.mem_range.mpr hi.lt_length)
  exact Orbit.loop_trail [] List.nodup_range (by simp)
    (fun i hi => hrange i (.of_nextVisible? hi)) (fun i j hij => hrange j (.of_successor hij))

/-- Whatever the loop comes to is the walk. -/
theorem walk_of_loop {t : Orbit.Trail Nat}
    (h : Orbit.Loop (s.successor answers options) [] (s.nextVisible? answers options 0) t) :
    s.walk answers options = ⟨t.visited, t.cut⟩ := by
  rw [h.unique loop_walk]

/-- **Walks are cut orbits**, for every survey, all answers and all options. The loop along
`advance` ends, and the walk is its only result; the walk begins with the first visible question,
goes from question to question by `advance` without seeing one twice, and stops at the end of the
survey or at a question it has seen. Under the default options it begins at the start of the
survey. -/
theorem walk_eq_cut_orbit (s : Survey) (answers : Snapshot) (options : Options) :
    (∀ t, Orbit.Loop (s.successor answers options) [] (s.nextVisible? answers options 0) t ↔
        t = ⟨(s.walk answers options).visited, (s.walk answers options).loopAt⟩) ∧
      s.IsCutOrbit answers options (s.walk answers options) ∧
      Destination.ofIndex? (s.walk answers {}).visited[0]? = s.start answers {} := by
  refine ⟨fun t => ⟨fun h => h.unique loop_walk, fun h => h ▸ loop_walk⟩, isCutOrbit_walk, ?_⟩
  rw [← List.head?_eq_getElem?, head?_walk]
  rfl

end Survey

end Questionnaire
