import Questionnaire.Visibility

/-!
# The next visible question

`nextVisible?` scans the questions from a position on. Its result is described here by positions
alone: it is the least visible position that is not below the start, and it is missing only when
there is none. Every later statement about the scan goes through these two descriptions.
-/

namespace Questionnaire.Survey

variable {s : Survey} {answers : Snapshot} {options : Options}

/-- A visible question stands at this position. -/
def ShowsAt (s : Survey) (answers : Snapshot) (options : Options) (i : Nat) : Prop :=
  ∃ q, s.questions[i]? = some q ∧ s.shows answers options q = true

theorem ShowsAt.lt_length {i : Nat} (h : s.ShowsAt answers options i) :
    i < s.questions.length := by
  obtain ⟨q, hq, -⟩ := h
  exact (List.getElem?_eq_some_iff.mp hq).1

theorem showsAt_iff {i : Nat} {q : Question} (hq : s.questions[i]? = some q) :
    s.ShowsAt answers options i ↔ s.shows answers options q = true := by
  constructor
  · rintro ⟨q', hq', hshows⟩
    rw [hq, Option.some.injEq] at hq'
    exact hq' ▸ hshows
  · exact fun hshows => ⟨q, hq, hshows⟩

theorem nextVisible?_eq_some_iff {start i : Nat} :
    s.nextVisible? answers options start = some i ↔
      start ≤ i ∧ s.ShowsAt answers options i ∧
        ∀ j, start ≤ j → j < i → ¬ s.ShowsAt answers options j := by
  rw [nextVisible?, Option.map_eq_some_iff]
  simp only [List.findIdx?_eq_some_iff_getElem, List.getElem_drop, List.length_drop]
  constructor
  · rintro ⟨d, ⟨hlen, hshows, hbefore⟩, rfl⟩
    refine ⟨Nat.le_add_right _ _, ⟨_, List.getElem?_eq_getElem (by omega), hshows⟩, ?_⟩
    intro j hj hji hat
    obtain ⟨e, rfl⟩ := Nat.exists_eq_add_of_le hj
    have hlt := hat.lt_length
    rw [showsAt_iff (List.getElem?_eq_getElem hlt)] at hat
    exact hbefore e (by omega) hat
  · rintro ⟨hle, hat, hbefore⟩
    obtain ⟨d, rfl⟩ := Nat.exists_eq_add_of_le hle
    have hlt := hat.lt_length
    rw [showsAt_iff (List.getElem?_eq_getElem hlt)] at hat
    refine ⟨d, ⟨by omega, hat, fun j hj hshows => ?_⟩, rfl⟩
    exact hbefore (start + j) (by omega) (by omega)
      ⟨_, List.getElem?_eq_getElem (by omega), hshows⟩

theorem nextVisible?_eq_none_iff {start : Nat} :
    s.nextVisible? answers options start = none ↔
      ∀ j, start ≤ j → ¬ s.ShowsAt answers options j := by
  rw [nextVisible?, Option.map_eq_none_iff, List.findIdx?_eq_none_iff]
  constructor
  · rintro h j hj ⟨q, hq, hshows⟩
    have hmem : q ∈ s.questions.drop start := by
      rw [List.mem_drop_iff_getElem]
      obtain ⟨hlt, rfl⟩ := List.getElem?_eq_some_iff.mp hq
      exact ⟨j - start, by omega, by simp only [Nat.add_sub_of_le hj]⟩
    rw [h q hmem] at hshows
    cases hshows
  · intro h q hq
    obtain ⟨d, hlt, rfl⟩ := List.mem_drop_iff_getElem.mp hq
    rw [Bool.eq_false_iff]
    exact fun hshows => h (start + d) (by omega) ⟨_, List.getElem?_eq_getElem (by omega), hshows⟩

/-- The scan depends on what is visible from its start up to its result only. -/
theorem nextVisible?_congr {later : Snapshot} {start i : Nat}
    (h : s.nextVisible? answers options start = some i)
    (hsame : ∀ j, start ≤ j → j ≤ i →
      (s.ShowsAt later options j ↔ s.ShowsAt answers options j)) :
    s.nextVisible? later options start = some i := by
  rw [nextVisible?_eq_some_iff] at h ⊢
  obtain ⟨hle, hat, hbefore⟩ := h
  refine ⟨hle, (hsame i hle (Nat.le_refl i)).mpr hat, fun j hj hji hlater => ?_⟩
  exact hbefore j hj hji ((hsame j hj (Nat.le_of_lt hji)).mp hlater)

end Questionnaire.Survey
