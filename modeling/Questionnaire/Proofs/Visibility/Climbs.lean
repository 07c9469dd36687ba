import Questionnaire.Proofs.Visibility.Groups
import Mathlib.Logic.Relation

/-!
# Climbs that are cut

The loop that lists the groups around a question ends at a group without a parent id, at an id that
it has visited, or at an id that names no group. `Climb` says what it lists, and `ClimbTo` which of
the three ended it. What a cycle of groups is does not depend on the loop: `OnCycle` is the
transitive closure of the links. An id that a climb comes to again is always on one.
-/

namespace Questionnaire

open Relation (TransGen)

/-- The first group with the id `a` has `b` as its parent id. -/
def LeadsUp (groups : List Group) (a b : String) : Prop :=
  ∃ g, group? a groups = some g ∧ g.parentId = some b

/-- Following parent ids from a group comes back to its id after one or more steps. -/
def OnCycle (groups : List Group) (id : String) : Prop := TransGen (LeadsUp groups) id id

variable {groups : List Group} {id : String} {visited : List String} {start : Option String}

theorem parentId?_eq_some_iff {a b : String} :
    parentId? groups a = some b ↔ LeadsUp groups a b := Option.bind_eq_some_iff

/-- There is a group with an id that is on a cycle. -/
theorem OnCycle.exists_group (h : OnCycle groups id) : ∃ g, group? id groups = some g := by
  obtain ⟨_, ⟨g, hg, -⟩, -⟩ := TransGen.head'_iff.mp h
  exact ⟨g, hg⟩

/-! ## What ends a climb -/

/-- What ends the loop that lists groups: a group without a parent id, an id that it has visited, or
an id that names no group. -/
inductive Halt where
  | top
  | again (id : String)
  | unknown (id : String)
  deriving DecidableEq, Repr

/-- The id at which the loop stops, if it does before a group without one. -/
def Halt.id? : Halt → Option String
  | top => none
  | again id => some id
  | unknown id => some id

/-- The loop of `Climb`, with what ends it. -/
inductive ClimbTo (groups : List Group) :
    List String → Option String → List Group → Halt → Prop
  | top (visited : List String) : ClimbTo groups visited none [] .top
  | again {visited : List String} {id : String} : id ∈ visited →
      ClimbTo groups visited (some id) [] (.again id)
  | unknown {visited : List String} {id : String} : id ∉ visited → group? id groups = none →
      ClimbTo groups visited (some id) [] (.unknown id)
  | climb {visited : List String} {id : String} {g : Group} {chain : List Group} {halt : Halt} :
      id ∉ visited → group? id groups = some g →
      ClimbTo groups (visited ++ [id]) g.parentId chain halt →
      ClimbTo groups visited (some id) (g :: chain) halt

variable {chain : List Group} {halt : Halt}

/-- Something ends the loop, whatever it lists. -/
theorem climb_iff_exists_halt :
    Climb groups visited start chain ↔ ∃ halt, ClimbTo groups visited start chain halt := by
  constructor
  · intro h
    induction h with
    | top visited => exact ⟨.top, .top visited⟩
    | again hid => exact ⟨_, .again hid⟩
    | unknown hnot hnone => exact ⟨_, .unknown hnot hnone⟩
    | climb hnot hg _ ih =>
      obtain ⟨halt, hrest⟩ := ih
      exact ⟨halt, .climb hnot hg hrest⟩
  · rintro ⟨halt, h⟩
    induction h with
    | top visited => exact .top visited
    | again hid => exact .again hid
    | unknown hnot hnone => exact .unknown hnot hnone
    | climb hnot hg _ ih => exact .climb hnot hg ih

/-- Begun with nothing visited, the loop lists the chain. -/
theorem ClimbTo.eq_groupChain (h : ClimbTo groups [] start chain halt) :
    chain = groupChain groups start :=
  (climb_iff_exists_halt.mpr ⟨halt, h⟩).unique climb_groupChain

theorem exists_climbTo (groups : List Group) (start : Option String) :
    ∃ halt, ClimbTo groups [] start (groupChain groups start) halt :=
  climb_iff_exists_halt.mp climb_groupChain

/-- The loop stops at the parent id of the last group that it lists, or where it began when it lists
none. -/
theorem ClimbTo.id?_halt (h : ClimbTo groups visited start chain halt) :
    halt.id? = chain.getLast?.elim start (·.parentId) := by
  induction h with
  | top | again | unknown => rfl
  | climb _ _ _ ih =>
    rw [ih, List.getLast?_cons]
    cases List.getLast? _ <;> rfl

theorem ClimbTo.group?_eq_none (h : ClimbTo groups visited start chain (.unknown id)) :
    group? id groups = none := by
  generalize hhalt : Halt.unknown id = halt at h
  induction h with
  | top | again => cases hhalt
  | unknown _ hnone =>
    cases hhalt
    exact hnone
  | climb _ _ _ ih => exact ih hhalt

/-- **An id that a climb comes to again is on a cycle**, for links lead from all visited ids to the
one that comes next. -/
theorem ClimbTo.onCycle (h : ClimbTo groups visited start chain (.again id))
    (hlinks : ∀ a ∈ visited, ∀ b, start = some b → TransGen (LeadsUp groups) a b) :
    OnCycle groups id := by
  generalize hhalt : Halt.again id = halt at h
  induction h with
  | top | unknown => cases hhalt
  | again hid =>
    cases hhalt
    exact hlinks id hid id rfl
  | @climb visited a g _ _ _ hg _ ih =>
    refine ih ?_ hhalt
    intro b hb parent hparent
    have hup : LeadsUp groups a parent := ⟨g, hg, hparent⟩
    rcases List.mem_append.mp hb with hb | hb
    · exact .tail (hlinks b hb a rfl) hup
    · rw [List.mem_singleton] at hb
      exact .single (hb ▸ hup)

end Questionnaire
