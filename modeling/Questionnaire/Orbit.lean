/-!
# Orbits

Following a partial step from a start passes through a sequence of elements. `Orbit.trail` cuts
it at the first element that is not in a given list of fresh elements or was visited before, so
that it ends however the step behaves.
-/

namespace Questionnaire.Orbit

variable {α : Type} [DecidableEq α]

/-- The elements visited, and the element at which the trail was cut, if it was. -/
structure Trail (α : Type) where
  visited : List α
  cut : Option α
  deriving DecidableEq, Repr

/-- Puts an element in front of a trail. -/
def Trail.cons (a : α) (t : Trail α) : Trail α := { t with visited := a :: t.visited }

/-- Follows `next` for as long as the elements are fresh; `room` bounds their number. -/
def trailWithin (next : α → Option α) : (room : Nat) → (fresh : List α) → Option α → Trail α
  | _, _, none => ⟨[], none⟩
  | 0, _, some a => ⟨[], some a⟩
  | room + 1, fresh, some a =>
    if a ∈ fresh then (trailWithin next room (fresh.erase a) (next a)).cons a
    else ⟨[], some a⟩

/-- Follows `next` from a start through fresh elements, visiting each at most once. -/
def trail (next : α → Option α) (fresh : List α) (start : Option α) : Trail α :=
  trailWithin next fresh.length fresh start

variable {next : α → Option α} {fresh : List α} {a : α}

@[simp] theorem trail_none : trail next fresh none = ⟨[], none⟩ := by
  unfold trail
  cases fresh.length <;> rfl

/-- A fresh element is visited, and the trail goes on without it. -/
theorem trail_of_mem (h : a ∈ fresh) :
    trail next fresh (some a) = (trail next (fresh.erase a) (next a)).cons a := by
  have hlen : fresh.length = (fresh.erase a).length + 1 := by
    have := List.length_erase_of_mem h
    have := List.length_pos_of_mem h
    omega
  unfold trail
  rw [hlen, trailWithin, if_pos h]

/-- The trail is cut at an element that is not fresh. -/
theorem trail_of_not_mem (h : a ∉ fresh) : trail next fresh (some a) = ⟨[], some a⟩ := by
  unfold trail
  cases hlen : fresh.length with
  | zero => rfl
  | succ room => rw [trailWithin, if_neg h]

end Questionnaire.Orbit
