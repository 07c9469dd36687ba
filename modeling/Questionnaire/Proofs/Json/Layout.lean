import Questionnaire.Proofs.Json.Quoted

/-!
# The lines of a value

A value that is written over several lines takes one line if it has no parts. Otherwise the lines of
its parts stand between two brackets with lines of their own, two blanks deeper, and a comma closes
each part but the last. `Layout` says this of the lines, with a rule for each kind of value; it does
not say how a text is quoted, only that it is read back as the text. The main statement is that
`pretty` lays out every value like this.
-/

namespace Questionnaire.Json

/-- What is shown is read as one quoted text, which is this one. -/
def Quotes (shown text : String) : Prop := tokens shown.toList = [.text text]

mutual

/-- The lines of a value. -/
inductive Layout : Json → List String → Prop
  | null : Layout .null ["null"]
  | bool (b : Bool) : Layout (.bool b) [toString b]
  | int (n : Int) : Layout (.number (.int n)) [toString n]
  | float (x : Float) : Layout (.number (.float x)) [floatText x]
  | text {shown text : String} : Quotes shown text → Layout (.text text) [shown]
  | emptyList : Layout (.list []) ["[]"]
  | list {items : List Json} {lines : List String} : ItemsLayout items lines →
      Layout (.list items) (["["] ++ lines.map ("  " ++ ·) ++ ["]"])
  | emptyObject : Layout (.object []) ["\x7b\x7d"]
  | object {members : List (String × Json)} {lines : List String} : MembersLayout members lines →
      Layout (.object members) (["\x7b"] ++ lines.map ("  " ++ ·) ++ ["\x7d"])

/-- The lines of items, of which there is at least one. -/
inductive ItemsLayout : List Json → List String → Prop
  | last {item : Json} {lines : List String} : Layout item lines → ItemsLayout [item] lines
  | comma {item : Json} {rest : List Json} {final : String} {lines more : List String} :
      Layout item (lines ++ [final]) → ItemsLayout rest more →
      ItemsLayout (item :: rest) (lines ++ [final ++ ","] ++ more)

/-- The lines of a member: those of its value, with the name in front. -/
inductive MemberLayout : String × Json → List String → Prop
  | named {name shown first : String} {value : Json} {lines : List String} : Quotes shown name →
      Layout value (first :: lines) →
      MemberLayout (name, value) ((shown ++ ": " ++ first) :: lines)

/-- The lines of members, of which there is at least one. -/
inductive MembersLayout : List (String × Json) → List String → Prop
  | last {member : String × Json} {lines : List String} : MemberLayout member lines →
      MembersLayout [member] lines
  | comma {member : String × Json} {rest : List (String × Json)} {final : String}
      {lines more : List String} :
      MemberLayout member (lines ++ [final]) → MembersLayout rest more →
      MembersLayout (member :: rest) (lines ++ [final ++ ","] ++ more)

end

/-! ## Lines at a depth -/

/-- The text of lines `level` levels deep, of which there is at least one. -/
structure Joins (level : Nat) (lines : List String) (text : String) : Prop where
  ne_nil : lines ≠ []
  eq : text = ("\n" ++ indent level).intercalate lines

variable {level : Nat} {lines more : List String} {text shown first final : String}

theorem indent_succ (level : Nat) : indent (level + 1) = indent level ++ "  " := by
  unfold indent
  rw [Nat.mul_succ, ← List.replicate_append_replicate, String.ofList_append]
  rfl

theorem Joins.single (level : Nat) (line : String) : Joins level [line] line :=
  ⟨by simp, String.intercalate_singleton.symm⟩

theorem Joins.cons_append (h : Joins level (first :: lines) text) (s : String) :
    Joins level ((s ++ first) :: lines) (s ++ text) :=
  ⟨by simp, by rw [h.eq, String.intercalate_cons_append]⟩

theorem intercalate_map_blanks (separator : String) (h : lines ≠ []) :
    separator.intercalate (lines.map ("  " ++ ·)) =
      "  " ++ (separator ++ "  ").intercalate lines := by
  induction lines with
  | nil => exact absurd rfl h
  | cons line rest ih =>
    cases rest with
    | nil => simp
    | cons next rest =>
      rw [List.map_cons, String.intercalate_cons_of_ne_nil (by simp), ih (by simp),
        String.intercalate_cons_cons]
      simp only [String.append_assoc]

/-- Lines two blanks deeper. -/
theorem Joins.deeper (h : Joins (level + 1) lines text) :
    Joins level (lines.map ("  " ++ ·)) ("  " ++ text) := by
  refine ⟨by simpa using h.ne_nil, ?_⟩
  rw [intercalate_map_blanks _ h.ne_nil, String.append_assoc, ← indent_succ, h.eq]

/-- Lines one after the other. -/
theorem Joins.append {text' : String} (h : Joins level lines text) (h' : Joins level more text') :
    Joins level (lines ++ more) (text ++ "\n" ++ indent level ++ text') := by
  refine ⟨by simp [h.ne_nil], ?_⟩
  rw [String.intercalate_append_of_ne_nil h.ne_nil h'.ne_nil, ← h.eq, ← h'.eq]
  simp only [String.append_assoc]

/-- Something after the last line. -/
theorem Joins.append_last (h : Joins level (lines ++ [final]) text) (s : String) :
    Joins level (lines ++ [final ++ s]) (text ++ s) := by
  refine ⟨by simp, ?_⟩
  rw [h.eq]
  by_cases hlines : lines = []
  · simp [hlines]
  · simp only [String.intercalate_append_of_ne_nil hlines (List.cons_ne_nil _ _),
      String.intercalate_singleton, String.append_assoc]

/-- Lines after a comma. -/
theorem Joins.comma {text' : String} (h : Joins level (lines ++ [final]) text)
    (h' : Joins level more text') :
    Joins level (lines ++ [final ++ ","] ++ more) (text ++ (",\n" ++ indent level) ++ text') := by
  have hbreak : (",\n" : String) = "," ++ "\n" := rfl
  simpa only [hbreak, String.append_assoc] using (h.append_last ",").append h'

theorem Joins.exists_first (h : Joins level lines text) : ∃ first rest, lines = first :: rest :=
  List.exists_cons_of_ne_nil h.ne_nil

theorem Joins.exists_final (h : Joins level lines text) : ∃ rest final, lines = rest ++ [final] :=
  ⟨_, _, (List.dropLast_concat_getLast h.ne_nil).symm⟩

/-- Parts between brackets. -/
theorem Joins.bracketed {part : String} {rest : List String}
    (h : Joins (level + 1) lines ((",\n" ++ indent (level + 1)).intercalate (part :: rest)))
    (opening closing : String) :
    Joins level ([opening] ++ lines.map ("  " ++ ·) ++ [closing])
      (block opening closing level (part :: rest)) := by
  have hjoins := ((Joins.single level opening).append h.deeper).append (.single level closing)
  simpa only [block, indent_succ, String.append_assoc] using hjoins

/-! ## Every value is laid out -/

theorem exists_memberLayout {value : Json} (name : String)
    (h : ∃ lines, Layout value lines ∧ Joins level lines text) :
    ∃ lines, MemberLayout (name, value) lines ∧ Joins level lines (quote name ++ ": " ++ text) := by
  obtain ⟨lines, hlines, hjoins⟩ := h
  obtain ⟨first, rest, rfl⟩ := hjoins.exists_first
  exact ⟨_, .named (tokens_quote name) hlines, hjoins.cons_append _⟩

mutual

theorem layout_prettyAt (level : Nat) :
    ∀ j : Json, ∃ lines, Layout j lines ∧ Joins level lines (prettyAt level j)
  | .null => ⟨_, .null, .single level _⟩
  | .bool true => ⟨_, .bool true, .single level _⟩
  | .bool false => ⟨_, .bool false, .single level _⟩
  | .number (.int n) => ⟨_, .int n, .single level _⟩
  | .number (.float x) => ⟨_, .float x, .single level _⟩
  | .text s => ⟨_, .text (tokens_quote s), .single level _⟩
  | .list [] => ⟨_, .emptyList, .single level _⟩
  | .list (item :: rest) => by
    obtain ⟨lines, hlines, hjoins⟩ :=
      itemsLayout_prettyItems (level + 1) (item :: rest) (List.cons_ne_nil _ _)
    exact ⟨_, .list hlines, hjoins.bracketed "[" "]"⟩
  | .object [] => ⟨_, .emptyObject, .single level _⟩
  | .object (member :: rest) => by
    obtain ⟨lines, hlines, hjoins⟩ :=
      membersLayout_prettyMembers (level + 1) (member :: rest) (List.cons_ne_nil _ _)
    exact ⟨_, .object hlines, hjoins.bracketed "\x7b" "\x7d"⟩

theorem itemsLayout_prettyItems (level : Nat) :
    ∀ items : List Json, items ≠ [] → ∃ lines, ItemsLayout items lines ∧
      Joins level lines ((",\n" ++ indent level).intercalate (prettyItems level items))
  | [], h => absurd rfl h
  | [item], _ => by
    obtain ⟨lines, hlines, hjoins⟩ := layout_prettyAt level item
    refine ⟨lines, .last hlines, ?_⟩
    simpa only [prettyItems, String.intercalate_singleton] using hjoins
  | item :: next :: rest, _ => by
    obtain ⟨lines, hlines, hjoins⟩ := layout_prettyAt level item
    obtain ⟨more, hmore, hrest⟩ :=
      itemsLayout_prettyItems level (next :: rest) (List.cons_ne_nil _ _)
    obtain ⟨lines, final, rfl⟩ := hjoins.exists_final
    refine ⟨_, .comma hlines hmore, ?_⟩
    simpa only [prettyItems, String.intercalate_cons_cons] using hjoins.comma hrest

theorem membersLayout_prettyMembers (level : Nat) :
    ∀ members : List (String × Json), members ≠ [] → ∃ lines, MembersLayout members lines ∧
      Joins level lines ((",\n" ++ indent level).intercalate (prettyMembers level members))
  | [], h => absurd rfl h
  | [(name, value)], _ => by
    obtain ⟨lines, hlines, hjoins⟩ := exists_memberLayout name (layout_prettyAt level value)
    refine ⟨lines, .last hlines, ?_⟩
    simpa only [prettyMembers, String.intercalate_singleton] using hjoins
  | (name, value) :: next :: rest, _ => by
    obtain ⟨lines, hlines, hjoins⟩ := exists_memberLayout name (layout_prettyAt level value)
    obtain ⟨more, hmore, hrest⟩ :=
      membersLayout_prettyMembers level (next :: rest) (List.cons_ne_nil _ _)
    obtain ⟨lines, final, rfl⟩ := hjoins.exists_final
    refine ⟨_, .comma hlines hmore, ?_⟩
    simpa only [prettyMembers, String.intercalate_cons_cons] using hjoins.comma hrest

end

/-- The text is made of the lines of the value, and each of them is ended. -/
def WrittenAs (j : Json) (text : String) : Prop :=
  ∃ lines, Layout j lines ∧ text = "\n".intercalate lines ++ "\n"

/-- **Every value is laid out.** -/
theorem writtenAs_pretty (j : Json) : j.WrittenAs (j.pretty ++ "\n") := by
  obtain ⟨lines, hlines, hjoins⟩ := layout_prettyAt 0 j
  exact ⟨lines, hlines, congrArg (· ++ "\n") hjoins.eq⟩

end Questionnaire.Json
