import Questionnaire.Orbit
import Mathlib.Data.List.Chain

/-!
# Trails as cut orbits

`Orbit.trail` is given a list of fresh elements, and ends when it runs out of them. Here it is
shown to be what a loop without any bound computes: the loop that follows the step and stops at
the end of the orbit or at an element it has seen (`Loop`). The facts about single trails are
stated first, each proved by the one induction principle `trail_induction`.
-/

namespace Questionnaire.Orbit

variable {α : Type} {next : α → Option α}

@[simp] theorem Trail.visited_cons (a : α) (t : Trail α) :
    (t.cons a).visited = a :: t.visited := rfl

@[simp] theorem Trail.cut_cons (a : α) (t : Trail α) : (t.cons a).cut = t.cut := rfl

/-- The loop that follows `next` from an element and keeps a list of those it has visited: it is
over at the end of the orbit and at an element on the list. Nothing bounds its length. -/
inductive Loop (next : α → Option α) : List α → Option α → Trail α → Prop
  | ended (visited : List α) : Loop next visited none ⟨visited, none⟩
  | again {visited : List α} {a : α} : a ∈ visited → Loop next visited (some a) ⟨visited, some a⟩
  | visit {visited : List α} {a : α} {t : Trail α} : a ∉ visited →
      Loop next (visited ++ [a]) (next a) t → Loop next visited (some a) t

/-- The loop comes to at most one result. -/
theorem Loop.unique {visited : List α} {start : Option α} {t u : Trail α}
    (ht : Loop next visited start t) (hu : Loop next visited start u) : t = u := by
  induction ht with
  | ended visited => cases hu; rfl
  | again ha =>
    cases hu with
    | again => rfl
    | visit hna => exact absurd ha hna
  | visit hna _ ih =>
    cases hu with
    | again ha => exact absurd ha hna
    | visit _ hu => exact ih hu

variable [DecidableEq α]

/-- Induction along a trail: it ends at once, it is cut at once, or it visits a fresh element and
goes on without it. -/
@[elab_as_elim]
theorem trail_induction (next : α → Option α) {motive : List α → Option α → Trail α → Prop}
    (ended : ∀ fresh, motive fresh none ⟨[], none⟩)
    (cut : ∀ fresh a, a ∉ fresh → motive fresh (some a) ⟨[], some a⟩)
    (visit : ∀ fresh a, a ∈ fresh →
      motive (fresh.erase a) (next a) (trail next (fresh.erase a) (next a)) →
      motive fresh (some a) ((trail next (fresh.erase a) (next a)).cons a))
    (fresh : List α) (start : Option α) : motive fresh start (trail next fresh start) := by
  -- on the number of fresh elements, which every visit lowers by one
  induction hlen : fresh.length generalizing fresh start with
  | zero =>
    obtain rfl : fresh = [] := List.eq_nil_of_length_eq_zero hlen
    cases start with
    | none => simpa using ended []
    | some a => simpa [trail_of_not_mem] using cut [] a (by simp)
  | succ n ih =>
    cases start with
    | none => simpa using ended fresh
    | some a =>
      by_cases ha : a ∈ fresh
      · rw [trail_of_mem ha]
        refine visit fresh a ha (ih _ _ ?_)
        rw [List.length_erase_of_mem ha]
        omega
      · rw [trail_of_not_mem ha]
        exact cut fresh a ha

/-! ## What a trail visits -/

theorem mem_fresh_of_mem_visited (fresh : List α) (start : Option α) :
    ∀ b ∈ (trail next fresh start).visited, b ∈ fresh := by
  induction fresh, start using trail_induction next with
  | ended fresh => simp
  | cut fresh a ha => simp
  | visit fresh a ha ih =>
    intro b hb
    rcases List.mem_cons.mp hb with rfl | hb
    · exact ha
    · exact List.mem_of_mem_erase (ih b hb)

theorem length_visited_le (next : α → Option α) (fresh : List α) (start : Option α) :
    (trail next fresh start).visited.length ≤ fresh.length := by
  induction fresh, start using trail_induction next with
  | ended fresh => simp
  | cut fresh a ha => simp
  | visit fresh a ha ih =>
    rw [List.length_erase_of_mem ha] at ih
    have hpos := List.length_pos_of_mem ha
    rw [Trail.visited_cons, List.length_cons]
    omega

theorem nodup_visited {fresh : List α} (hfresh : fresh.Nodup) (start : Option α) :
    (trail next fresh start).visited.Nodup := by
  induction fresh, start using trail_induction next with
  | ended fresh => simp
  | cut fresh a ha => simp
  | visit fresh a ha ih =>
    rw [Trail.visited_cons, List.nodup_cons]
    refine ⟨fun hmem => ?_, ih (hfresh.erase a)⟩
    have herase := mem_fresh_of_mem_visited _ _ a hmem
    exact (List.Nodup.not_mem_erase hfresh) herase

/-- A trail whose start is fresh begins there. -/
theorem head?_visited {fresh : List α} {start : Option α} (h : ∀ a, start = some a → a ∈ fresh) :
    (trail next fresh start).visited.head? = start := by
  cases start with
  | none => rw [trail_none]; rfl
  | some a => rw [trail_of_mem (h a rfl)]; rfl

/-- What a trail visits first is its start. -/
theorem start_of_head?_visited {fresh : List α} {start : Option α} {a : α}
    (h : (trail next fresh start).visited.head? = some a) : start = some a := by
  induction fresh, start using trail_induction next with
  | ended fresh => exact h
  | cut fresh b hb => cases h
  | visit fresh b hb ih => exact h

/-- A fresh successor of an element visited is visited, too. -/
theorem mem_visited_of_next {fresh : List α} {start : Option α} {a b : α}
    (ha : a ∈ (trail next fresh start).visited) (hab : next a = some b) (hb : b ∈ fresh) :
    b ∈ (trail next fresh start).visited := by
  induction fresh, start using trail_induction next with
  | ended fresh => cases ha
  | cut fresh c hc => cases ha
  | visit fresh c hc ih =>
    rw [Trail.visited_cons] at ha ⊢
    by_cases hbc : b = c
    · simp [hbc]
    · have hb' : b ∈ fresh.erase c := (List.mem_erase_of_ne hbc).mpr hb
      rcases List.mem_cons.mp ha with rfl | ha
      · -- the rest of the trail begins with `b`
        have hhead : (trail next (fresh.erase a) (next a)).visited.head? = next a := by
          apply head?_visited
          intro d hd
          rw [hab, Option.some.injEq] at hd
          exact hd ▸ hb'
        exact List.mem_cons_of_mem _ (List.mem_of_head? (hhead.trans hab))
      · exact List.mem_cons_of_mem _ (ih ha hb')

/-- Each element visited is the successor of the one before it. -/
theorem isChain_visited (fresh : List α) (start : Option α) :
    (trail next fresh start).visited.IsChain fun a b => next a = some b := by
  induction fresh, start using trail_induction next with
  | ended fresh => simp
  | cut fresh a ha => simp
  | visit fresh a ha ih =>
    rw [Trail.visited_cons, List.isChain_cons]
    exact ⟨fun b hb => start_of_head?_visited hb, ih⟩

/-! ## Where a trail stops -/

/-- A trail stops at the successor of its last element, or at its start when it visits nothing. -/
theorem cut_eq (fresh : List α) (start : Option α) :
    (trail next fresh start).cut =
      (trail next fresh start).visited.getLast?.elim start next := by
  induction fresh, start using trail_induction next with
  | ended fresh => rfl
  | cut fresh a ha => rfl
  | visit fresh a ha ih =>
    rw [Trail.cut_cons, Trail.visited_cons, ih, List.getLast?_cons]
    cases (trail next (fresh.erase a) (next a)).visited.getLast? <;> rfl

/-- An element at which a trail is cut was visited, or was never fresh. -/
theorem mem_visited_of_cut {fresh : List α} {start : Option α} {b : α}
    (hcut : (trail next fresh start).cut = some b) (hb : b ∈ fresh) :
    b ∈ (trail next fresh start).visited := by
  induction fresh, start using trail_induction next with
  | ended fresh => simp at hcut
  | cut fresh a ha =>
    simp only [Option.some.injEq] at hcut
    exact absurd (hcut ▸ hb) ha
  | visit fresh a ha ih =>
    by_cases hab : b = a
    · simp [hab]
    · exact List.mem_cons_of_mem _ (ih hcut ((List.mem_erase_of_ne hab).mpr hb))

/-! ## The loop comes to the trail -/

/-- A visit moves an element from the fresh ones to the visited ones, and loses none. -/
theorem mem_of_visit {visited fresh : List α} (a : α) {b : α} (hb : b ∈ visited ∨ b ∈ fresh) :
    b ∈ visited ++ [a] ∨ b ∈ fresh.erase a := by
  by_cases hba : b = a
  · simp [hba]
  · simpa [hba, List.mem_erase_of_ne hba] using hb

/-- After a visit, too, nothing fresh was visited. -/
theorem not_mem_of_visit {visited fresh : List α} (a : α) (hfresh : fresh.Nodup)
    (hdisj : ∀ b ∈ fresh, b ∉ visited) : ∀ b ∈ fresh.erase a, b ∉ visited ++ [a] := by
  intro b hb hmem
  rcases List.mem_append.mp hmem with hmem | hmem
  · exact hdisj b (List.mem_of_mem_erase hb) hmem
  · rw [List.mem_singleton] at hmem
    exact (List.Nodup.not_mem_erase hfresh) (hmem ▸ hb)

/-- With every element of the orbit either visited or fresh, the loop runs to its end, and what it
adds to the visited elements is the trail through the fresh ones. -/
theorem loop_trail {fresh : List α} {start : Option α} (visited : List α)
    (hfresh : fresh.Nodup) (hdisj : ∀ a ∈ fresh, a ∉ visited)
    (hstart : ∀ a, start = some a → a ∈ visited ∨ a ∈ fresh)
    (hnext : ∀ a b, next a = some b → b ∈ visited ∨ b ∈ fresh) :
    Loop next visited start
      ⟨visited ++ (trail next fresh start).visited, (trail next fresh start).cut⟩ := by
  induction fresh, start using trail_induction next generalizing visited with
  | ended fresh => simpa using Loop.ended visited
  | cut fresh a ha =>
    have hmem : a ∈ visited := (hstart a rfl).resolve_right ha
    simpa using Loop.again hmem
  | visit fresh a ha ih =>
    have hrest := ih (visited ++ [a]) (hfresh.erase a) (not_mem_of_visit a hfresh hdisj)
      (fun b hb => mem_of_visit a (hnext a b hb)) (fun b c hbc => mem_of_visit a (hnext b c hbc))
    rw [List.append_assoc] at hrest
    exact Loop.visit (hdisj a ha) hrest

end Questionnaire.Orbit
