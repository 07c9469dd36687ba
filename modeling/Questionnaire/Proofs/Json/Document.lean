import Questionnaire.Json.Document

/-!
# Documents of values

The document of a value has no marks: it is well formed throughout, and it gives the value back.
-/

namespace Questionnaire.Json.Document

theorem ofItems_eq_map (items : List Json) : ofItems items = items.map ofJson := by
  induction items with
  | nil => rfl
  | cons j rest ih => rw [ofItems, ih, List.map_cons]

theorem ofMembers_eq_map (members : List (String × Json)) :
    ofMembers members = members.map fun m => (some m.1, ofJson m.2) := by
  induction members with
  | nil => rfl
  | cons m rest ih => rw [ofMembers, ih, List.map_cons]

theorem mem_ofMembers_iff {members : List (String × Json)} {name : String} {d : Document} :
    (some name, d) ∈ ofMembers members ↔ ∃ j, (name, j) ∈ members ∧ ofJson j = d := by
  rw [ofMembers_eq_map, List.mem_map]
  constructor
  · rintro ⟨m, hm, heq⟩
    cases heq
    exact ⟨m.2, hm, rfl⟩
  · rintro ⟨j, hj, rfl⟩
    exact ⟨(name, j), hj, rfl⟩

mutual

theorem toJson?_ofJson : ∀ j : Json, (ofJson j).toJson? = some j
  | .null => rfl
  | .bool _ => rfl
  | .number _ => rfl
  | .text _ => rfl
  | .list items => by rw [ofJson, toJson?, toItems?_ofItems items, Option.map_some]
  | .object members => by rw [ofJson, toJson?, toMembers?_ofMembers members, Option.map_some]

theorem toItems?_ofItems : ∀ items : List Json, toItems? (ofItems items) = some items
  | [] => rfl
  | j :: rest => by
    rw [ofItems, toItems?, toJson?_ofJson j, toItems?_ofItems rest, Option.bind_some,
      Option.map_some]

theorem toMembers?_ofMembers :
    ∀ members : List (String × Json), toMembers? (ofMembers members) = some members
  | [] => rfl
  | (name, j) :: rest => by
    rw [ofMembers, toMembers?, toJson?_ofJson j, toMembers?_ofMembers rest, Option.bind_some,
      Option.map_some]

end

mutual

theorem isIntact_ofJson : ∀ j : Json, (ofJson j).isIntact = true
  | .null => rfl
  | .bool _ => rfl
  | .number _ => rfl
  | .text _ => rfl
  | .list items => by rw [ofJson, isIntact, itemsIntact_ofItems items]
  | .object members => by rw [ofJson, isIntact, membersIntact_ofMembers members]

theorem itemsIntact_ofItems : ∀ items : List Json, itemsIntact (ofItems items) = true
  | [] => rfl
  | j :: rest => by
    rw [ofItems, itemsIntact, isIntact_ofJson j, itemsIntact_ofItems rest, Bool.and_self]

theorem membersIntact_ofMembers :
    ∀ members : List (String × Json), membersIntact (ofMembers members) = true
  | [] => rfl
  | (name, j) :: rest => by
    rw [ofMembers, membersIntact, isIntact_ofJson j, membersIntact_ofMembers rest, Bool.and_self]

end

end Questionnaire.Json.Document
