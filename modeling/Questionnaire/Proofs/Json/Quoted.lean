import Mathlib.Tactic.SplitIfs
import Questionnaire.Json.Printer
import Questionnaire.Json.Token

/-!
# Quoted texts

A quoted text is written character by character and read unit by unit. A character is written as
itself, after a backslash, or in four digits, and in each form it is one unit, which stands for the
character. So a text in quotes is one token, and the token is the text, whatever characters it has.
-/

namespace Questionnaire.Json

/-- A character within quotes is escaped by a letter or a sign, or by its code if it is a control
character, or it stands for itself. -/
theorem quoteChar_cases (c : Char) :
    (∃ e, escape? e = some c ∧ quoteChar c = ['\\', e]) ∨
    (c.toNat < 32 ∧ quoteChar c =
      ['\\', 'u', '0', '0', hexDigit (c.toNat / 16), hexDigit (c.toNat % 16)]) ∨
    (c ≠ '"' ∧ c ≠ '\\' ∧ 32 ≤ c.toNat ∧ quoteChar c = [c]) := by
  unfold quoteChar
  split_ifs with hquote hslash hline hreturn htab hback hfeed hcontrol
  · exact .inl ⟨'"', hquote.symm ▸ rfl, rfl⟩
  · exact .inl ⟨'\\', hslash.symm ▸ rfl, rfl⟩
  · exact .inl ⟨'n', hline.symm ▸ rfl, rfl⟩
  · exact .inl ⟨'r', hreturn.symm ▸ rfl, rfl⟩
  · exact .inl ⟨'t', htab.symm ▸ rfl, rfl⟩
  · exact .inl ⟨'b', hback.symm ▸ rfl, rfl⟩
  · exact .inl ⟨'f', hfeed.symm ▸ rfl, rfl⟩
  · exact .inr (.inl ⟨hcontrol, rfl⟩)
  · exact .inr (.inr ⟨hquote, hslash, Nat.le_of_not_lt hcontrol, rfl⟩)

theorem unitValue?_hexDigit {n : Nat} (hn : n < 32) :
    unitValue? '0' '0' (hexDigit (n / 16)) (hexDigit (n % 16)) = some n := by
  revert n
  decide

theorem textUnits?_escape {c e : Char} (he : escape? e = some c) (rest : List Char) :
    textUnits? ('\\' :: e :: rest) = (textUnits? rest).map (consUnit (.char c)) := by
  unfold escape? at he
  split at he <;> cases he <;> rfl

theorem decodeUnits?_of_control {c : Char} (hc : c.toNat < 32) (units : List TextUnit) :
    decodeUnits? none (.escaped c.toNat :: units) = (decodeUnits? none units).map (c :: ·) := by
  have hhigh : isHighHalf c.toNat = false := by
    simp only [isHighHalf, Bool.and_eq_false_iff, decide_eq_false_iff_not]
    omega
  have hlow : isLowHalf c.toNat = false := by
    simp only [isLowHalf, Bool.and_eq_false_iff, decide_eq_false_iff_not]
    omega
  simp [decodeUnits?, hhigh, hlow]

/-- A character within quotes is one unit that stands for the character. -/
theorem exists_unit_quoteChar (c : Char) : ∃ unit : TextUnit,
    (∀ rest, textUnits? (quoteChar c ++ rest) = (textUnits? rest).map (consUnit unit)) ∧
    ∀ units, decodeUnits? none (unit :: units) = (decodeUnits? none units).map (c :: ·) := by
  rcases quoteChar_cases c with ⟨e, he, hc⟩ | ⟨hcontrol, hc⟩ | ⟨hquote, hslash, hcode, hc⟩
  · rw [hc]
    exact ⟨.char c, textUnits?_escape he, fun _ => rfl⟩
  · rw [hc]
    refine ⟨.escaped c.toNat, fun rest => ?_, decodeUnits?_of_control hcontrol⟩
    simp [textUnits?, unitValue?_hexDigit hcontrol]
  · rw [hc]
    refine ⟨.char c, fun rest => ?_, fun _ => rfl⟩
    simp [textUnits?, hslash, Nat.not_lt.mpr hcode]

/-- The characters within quotes are read up to the closing quote, and back as they were. -/
theorem textUnits?_flatMap_quoteChar (cs rest : List Char) : ∃ units,
    textUnits? (cs.flatMap quoteChar ++ '"' :: rest) = some (units, rest) ∧
    decodeUnits? none units = some cs := by
  induction cs with
  | nil => exact ⟨[], rfl, rfl⟩
  | cons c cs ih =>
    obtain ⟨unit, hunit, hdecode⟩ := exists_unit_quoteChar c
    obtain ⟨units, hunits, hcs⟩ := ih
    refine ⟨unit :: units, ?_, ?_⟩
    · rw [List.flatMap_cons, List.append_assoc, hunit, hunits, Option.map_some, consUnit]
    · rw [hdecode, hcs, Option.map_some]

theorem tokens_cons {c : Char} {rest more : List Char} {t : Token} (hspace : isSpace c = false)
    (hscan : scanToken? c rest = some (t, more)) : tokens (c :: rest) = t :: tokens more := by
  rw [tokens, if_neg (by simp [hspace])]
  split
  · rename_i hnone
    rw [hscan] at hnone
    cases hnone
  · rename_i p hp
    obtain rfl : p = (t, more) := Option.some.inj (hp.symm.trans hscan)
    rfl

/-- **A text in quotes is read as the text.** -/
theorem tokens_quote (s : String) : tokens (quote s).toList = [.text s] := by
  obtain ⟨units, hunits, hdecode⟩ := textUnits?_flatMap_quoteChar s.toList []
  have hscan : scanToken? '"' (s.toList.flatMap quoteChar ++ ['"']) = some (.text s, []) := by
    simp [scanToken?, punctuation?, hunits, textToken, hdecode]
  rw [quote, String.toList_ofList, List.cons_append, tokens_cons rfl hscan, tokens]

end Questionnaire.Json
