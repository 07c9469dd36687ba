/-!
# Finite maps keyed by text

`Entries α` holds one value per key, listed by ascending key (by code point). The listing is
part of the type, so two maps with the same look-ups are the same map. `put` adds or replaces
one entry, `ofList` puts a list of pairs one after another, so that the last of several values
for a key counts.
-/

namespace Questionnaire

/-- Keys ascend strictly from one entry to every later one. -/
def Ascending {α : Type} (pairs : List (String × α)) : Prop :=
  pairs.Pairwise fun a b => a.1 < b.1

/-- A finite map from text, listed by ascending key. -/
structure Entries (α : Type) where
  toList : List (String × α)
  ascending : Ascending toList

namespace Entries

variable {α β : Type}

@[ext] theorem ext {m n : Entries α} (h : m.toList = n.toList) : m = n := by
  cases m; cases n; cases h; rfl

/-- The map without entries. -/
def empty : Entries α := ⟨[], List.Pairwise.nil⟩

instance : Inhabited (Entries α) := ⟨empty⟩

/-- The value of `key` in a list of pairs: that of the first pair with this key. -/
def find? (key : String) : List (String × α) → Option α
  | [] => none
  | (k, v) :: rest => if k = key then some v else find? key rest

/-- The value stored under `key`. -/
def get? (m : Entries α) (key : String) : Option α := find? key m.toList

/-- The keys, ascending. -/
def keys (m : Entries α) : List String := m.toList.map (·.1)

/-- The values, by ascending key. -/
def values (m : Entries α) : List α := m.toList.map (·.2)

/-- The number of entries. -/
def size (m : Entries α) : Nat := m.toList.length

/-- Whether there is no entry. -/
def isEmpty (m : Entries α) : Bool := m.toList.isEmpty

/-- Stores `value` under `key` in an ascending list, in place of an earlier value. -/
def putPair (key : String) (value : α) : List (String × α) → List (String × α)
  | [] => [(key, value)]
  | (k, v) :: rest =>
    if key < k then (key, value) :: (k, v) :: rest
    else if key = k then (key, value) :: rest
    else (k, v) :: putPair key value rest

theorem mem_putPair {key : String} {value : α} {pairs : List (String × α)} {p : String × α}
    (h : p ∈ putPair key value pairs) : p = (key, value) ∨ p ∈ pairs := by
  induction pairs with
  | nil => exact .inl (List.mem_singleton.1 h)
  | cons q rest ih =>
    obtain ⟨k, v⟩ := q
    simp only [putPair] at h
    split at h
    · rcases List.mem_cons.1 h with rfl | h
      · exact .inl rfl
      · exact .inr h
    · split at h
      · rcases List.mem_cons.1 h with rfl | h
        · exact .inl rfl
        · exact .inr (List.mem_cons_of_mem _ h)
      · rcases List.mem_cons.1 h with rfl | h
        · exact .inr List.mem_cons_self
        · exact (ih h).imp id (List.mem_cons_of_mem _)

/-- A key that is neither below nor equal to another is above it. -/
theorem lt_of_not_lt_of_ne {a b : String} (h : ¬ a < b) (hne : a ≠ b) : b < a := by
  rcases String.le_total a b with hab | hba
  · exact absurd (String.le_antisymm hab (String.not_lt.1 h)) hne
  · exact String.not_le.1 fun hab => hne (String.le_antisymm hab hba)

theorem ascending_putPair (key : String) (value : α) {pairs : List (String × α)}
    (h : Ascending pairs) : Ascending (putPair key value pairs) := by
  induction pairs with
  | nil => exact List.pairwise_singleton _ _
  | cons q rest ih =>
    obtain ⟨k, v⟩ := q
    have hrest := (List.pairwise_cons.1 h).2
    have hk := (List.pairwise_cons.1 h).1
    simp only [putPair]
    split
    · rename_i hlt
      refine List.pairwise_cons.2 ⟨fun p hp => ?_, h⟩
      rcases List.mem_cons.1 hp with rfl | hp
      · exact hlt
      · exact String.lt_trans hlt (hk p hp)
    · rename_i hlt
      split
      · rename_i heq
        subst heq
        exact List.pairwise_cons.2 ⟨hk, hrest⟩
      · rename_i hne
        refine List.pairwise_cons.2 ⟨fun p hp => ?_, ih hrest⟩
        rcases mem_putPair hp with rfl | hp
        · exact lt_of_not_lt_of_ne hlt hne
        · exact hk p hp

/-- Stores `value` under `key`, in place of an earlier value. -/
def put (m : Entries α) (key : String) (value : α) : Entries α :=
  ⟨putPair key value m.toList, ascending_putPair key value m.ascending⟩

/-- The images of the values that have one. -/
def filterMapPairs (f : α → Option β) : List (String × α) → List (String × β)
  | [] => []
  | (k, v) :: rest => match f v with
    | some w => (k, w) :: filterMapPairs f rest
    | none => filterMapPairs f rest

theorem mem_filterMapPairs {f : α → Option β} {pairs : List (String × α)} {q : String × β}
    (h : q ∈ filterMapPairs f pairs) : ∃ p ∈ pairs, p.1 = q.1 ∧ f p.2 = some q.2 := by
  induction pairs with
  | nil => cases h
  | cons p rest ih =>
    obtain ⟨k, v⟩ := p
    simp only [filterMapPairs] at h
    split at h
    · rename_i w hw
      rcases List.mem_cons.1 h with rfl | h
      · exact ⟨(k, v), List.mem_cons_self, rfl, hw⟩
      · obtain ⟨p, hp, hq⟩ := ih h
        exact ⟨p, List.mem_cons_of_mem _ hp, hq⟩
    · obtain ⟨p, hp, hq⟩ := ih h
      exact ⟨p, List.mem_cons_of_mem _ hp, hq⟩

theorem ascending_filterMapPairs (f : α → Option β) {pairs : List (String × α)}
    (h : Ascending pairs) : Ascending (filterMapPairs f pairs) := by
  induction pairs with
  | nil => exact List.Pairwise.nil
  | cons p rest ih =>
    obtain ⟨k, v⟩ := p
    obtain ⟨hk, hrest⟩ := List.pairwise_cons.1 h
    simp only [filterMapPairs]
    split
    · refine List.pairwise_cons.2 ⟨fun q hq => ?_, ih hrest⟩
      obtain ⟨p, hp, hpq, -⟩ := mem_filterMapPairs hq
      exact hpq ▸ hk p hp
    · exact ih hrest

/-- The map of the images of the values that have one. -/
def filterMap (f : α → Option β) (m : Entries α) : Entries β :=
  ⟨filterMapPairs f m.toList, ascending_filterMapPairs f m.ascending⟩

/-- Puts the pairs one after another. -/
def ofList (pairs : List (String × α)) : Entries α :=
  pairs.foldl (fun m p => m.put p.1 p.2) empty

theorem find?_putPair (key : String) (value : α) (pairs : List (String × α)) (other : String) :
    find? other (putPair key value pairs) =
      if key = other then some value else find? other pairs := by
  induction pairs with
  | nil => simp [putPair, find?]
  | cons q rest ih =>
    obtain ⟨k, v⟩ := q
    simp only [putPair]
    split
    · simp [find?]
    · split
      · rename_i heq
        subst heq
        by_cases hk : key = other <;> simp [find?, hk]
      · rename_i hne
        by_cases hk : k = other
        · subst hk
          simp [find?, hne]
        · simp [find?, hk, ih]

@[simp] theorem get?_empty (key : String) : (empty : Entries α).get? key = none := rfl

@[simp] theorem get?_put (m : Entries α) (key : String) (value : α) (other : String) :
    (m.put key value).get? other = if key = other then some value else m.get? other :=
  find?_putPair key value m.toList other

theorem mem_of_find? {key : String} {pairs : List (String × α)} {a : α}
    (h : find? key pairs = some a) : (key, a) ∈ pairs := by
  induction pairs with
  | nil => cases h
  | cons p rest ih =>
    obtain ⟨k, b⟩ := p
    simp only [find?] at h
    split at h
    · rename_i hk
      cases h
      exact hk ▸ List.mem_cons_self
    · exact List.mem_cons_of_mem _ (ih h)

theorem mem_values_of_get? {m : Entries α} {key : String} {a : α} (h : m.get? key = some a) :
    a ∈ m.values :=
  List.mem_map.2 ⟨(key, a), mem_of_find? h, rfl⟩

/-- Each key of an ascending list stands once. -/
theorem find?_of_mem {pairs : List (String × α)} (hpairs : Ascending pairs) {key : String} {a : α}
    (h : (key, a) ∈ pairs) : find? key pairs = some a := by
  induction pairs with
  | nil => cases h
  | cons p rest ih =>
    obtain ⟨k, b⟩ := p
    obtain ⟨hk, hrest⟩ := List.pairwise_cons.1 hpairs
    rcases List.mem_cons.1 h with heq | h
    · cases heq
      simp [find?]
    · have hne : k ≠ key := fun heq => String.lt_irrefl k (heq ▸ hk (key, a) h)
      simpa [find?, hne] using ih hrest h

/-- The values are what the keys lead to. -/
theorem mem_values_iff {m : Entries α} {a : α} : a ∈ m.values ↔ ∃ key, m.get? key = some a := by
  constructor
  · intro h
    obtain ⟨p, hp, rfl⟩ := List.mem_map.1 h
    exact ⟨p.1, find?_of_mem m.ascending hp⟩
  · rintro ⟨key, h⟩
    exact mem_values_of_get? h

@[simp] theorem toList_empty : (empty : Entries α).toList = [] := rfl

/-- A key above all listed keys is put at the end. -/
theorem putPair_append {key : String} (value : α) {pairs : List (String × α)}
    (h : ∀ p ∈ pairs, p.1 < key) : putPair key value pairs = pairs ++ [(key, value)] := by
  induction pairs with
  | nil => rfl
  | cons q rest ih =>
    obtain ⟨k, v⟩ := q
    have hk : k < key := h (k, v) List.mem_cons_self
    have hlt : ¬ key < k := fun h' => String.lt_irrefl k (String.lt_trans hk h')
    have hne : key ≠ k := fun h' => String.lt_irrefl k (h' ▸ hk)
    rw [putPair, if_neg hlt, if_neg hne, ih fun p hp => h p (List.mem_cons_of_mem _ hp)]
    rfl

/-- Putting pairs with keys above all listed ones, in ascending order, lists them at the end. -/
theorem toList_foldl_put (pairs : List (String × α)) (m : Entries α)
    (h : Ascending (m.toList ++ pairs)) :
    (pairs.foldl (fun m p => m.put p.1 p.2) m).toList = m.toList ++ pairs := by
  induction pairs generalizing m with
  | nil => simp
  | cons p rest ih =>
    have hbelow : ∀ q ∈ m.toList, q.1 < p.1 := fun q hq =>
      (List.pairwise_append.1 h).2.2 q hq p List.mem_cons_self
    have hput : (m.put p.1 p.2).toList = m.toList ++ [p] := putPair_append p.2 hbelow
    have hrest : Ascending ((m.put p.1 p.2).toList ++ rest) := by
      rw [hput, List.append_assoc]
      exact h
    rw [List.foldl_cons, ih _ hrest, hput, List.append_assoc]
    rfl

/-- Putting the entries of a map one after another gives the map back. -/
theorem ofList_toList (m : Entries α) : ofList m.toList = m := by
  refine ext ?_
  have h : Ascending ((empty : Entries α).toList ++ m.toList) := m.ascending
  exact toList_foldl_put m.toList empty h

end Entries

end Questionnaire
