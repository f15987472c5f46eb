import Mathlib.Tactic.SplitIfs
import Statechart.Document.Printer
import Statechart.Proofs.Grammar

/-!
# Documents: what is written is read back

What is printed of a document is one of its written forms (`written_render`), whatever it holds: every character of a
text, halves of surrogate pairs that stand for no text, and all parts of a number, as long as the digits behind its
point are digits. So the document is read back from it (`read?_render`).
-/
namespace Statechart.Document

open Statechart.Text (hexDigit)

/-! ## Numbers -/

theorem digitChar_eq : ∀ digit < 10, Nat.digitChar digit = digitChar digit := by decide

/-- Digits that a number is written with: no zero stands before others. -/
structure Spells (digits : List Nat) (value : Nat) : Prop where
  written : printNat value = digits.map digitChar
  proper : Digits digits
  value : ofDigits digits = value
  leading : digits = [0] ∨ ∃ first rest, digits = first :: rest ∧ first ≠ 0

theorem ofDigits_concat (digits : List Nat) (digit : Nat) :
    ofDigits (digits ++ [digit]) = 10 * ofDigits digits + digit := by
  rw [ofDigits,List.foldl_append]
  rfl

theorem exists_spells (value : Nat) : ∃ digits, Spells digits value := by
  induction value using Nat.strongRecOn with
  | ind value ih =>
    by_cases small : value < 10
    · refine ⟨[value],?_,⟨by simp,by simpa using small⟩,by simp [ofDigits],?_⟩
      · rw [printNat,Nat.toDigits_of_lt_base small,digitChar_eq value small]
        rfl
      · by_cases zero : value = 0
        · exact .inl (by rw [zero])
        · exact .inr ⟨value,[],rfl,zero⟩
    · obtain ⟨digits,spells⟩ := ih (value / 10) (by omega)
      refine ⟨digits ++ [value % 10],?_,⟨by simp,?_⟩,?_,?_⟩
      · have last := digitChar_eq (value % 10) (Nat.mod_lt _ (by decide))
        rw [printNat,Nat.toDigits_of_base_le (by decide) (by omega),← printNat,spells.written,last,List.map_append]
        rfl
      · intro digit member
        rcases List.mem_append.mp member with earlier | last
        · exact spells.proper.small digit earlier
        · rw [List.mem_singleton.mp last]
          exact Nat.mod_lt _ (by decide)
      · rw [ofDigits_concat,spells.value]
        omega
      · rcases spells.leading with rfl | ⟨first,rest,rfl,positive⟩
        · have none : (0 : Nat) = value / 10 := spells.value
          omega
        · exact .inr ⟨first,rest ++ [value % 10],rfl,positive⟩

theorem wholeForm_printNat (value : Nat) : WholeForm value (printNat value) := by
  obtain ⟨digits,written,proper,rfl,leading⟩ := exists_spells value
  rw [written]
  rcases leading with rfl | ⟨first,rest,rfl,positive⟩
  · exact .zero
  · exact .digits proper positive

theorem fractionForm_print {fraction : List Nat} (small : ∀ digit ∈ fraction, digit < 10) :
    FractionForm fraction (if fraction.isEmpty then [] else '.' :: fraction.map digitChar) := by
  cases fraction with
  | nil => exact .absent
  | cons first later => exact .point ⟨List.cons_ne_nil _ _,small⟩

/-- How an exponent is written. -/
def printExponent : Option Int → List Char
  | none => []
  | some exponent => 'e' :: ((if exponent < 0 then ['-'] else []) ++ printNat exponent.natAbs)

theorem exponentForm_print (exponent : Option Int) : ExponentForm exponent (printExponent exponent) := by
  cases exponent with
  | none => exact .absent
  | some exponent =>
    obtain ⟨digits,written,proper,value,_⟩ := exists_spells exponent.natAbs
    by_cases negative : exponent < 0
    · have form := ExponentForm.power (.inl rfl) .minus proper
      have same : -(exponent.natAbs : Int) = exponent := by omega
      rw [if_pos rfl,value,same] at form
      rw [printExponent,if_pos negative,written]
      exact form
    · have form := ExponentForm.power (.inl rfl) .absent proper
      have same : (exponent.natAbs : Int) = exponent := by omega
      rw [if_neg (by simp),value,same] at form
      rw [printExponent,if_neg negative,written]
      exact form

/-- A number is printed in one of its forms, if the digits behind its point are digits. -/
theorem numeralForm_print {numeral : Numeral} (small : ∀ digit ∈ numeral.fraction, digit < 10) :
    NumeralForm numeral (printNumeral numeral) := by
  obtain ⟨negative,whole,fraction,exponent⟩ := numeral
  have form := NumeralForm.parts negative (wholeForm_printNat whole) (fractionForm_print small)
    (exponentForm_print exponent)
  have digit : (fun digit => Char.ofNat (48 + digit)) = digitChar := rfl
  rw [printNumeral]
  cases exponent <;> simpa [printExponent,digit] using form

/-! ## Texts -/

theorem hexValue?_hexDigit : ∀ value < 16, hexValue? (hexDigit value) = some value := by decide

theorem CodesForm.control {codes : List Nat} {chars : List Char} (upper lower : Nat) (high : upper < 16)
    (low : lower < 16) (form : CodesForm codes chars) :
    CodesForm ((upper * 16 + lower) :: codes)
      ('\\' :: 'u' :: '0' :: '0' :: hexDigit upper :: hexDigit lower :: chars) := by
  have zero : hexValue? '0' = some 0 := rfl
  have code := CodesForm.code zero zero (hexValue?_hexDigit upper high) (hexValue?_hexDigit lower low) form
  simpa using code

/-- A character is printed as a form of its code. -/
theorem CodesForm.escaped {codes : List Nat} {chars : List Char} (c : Char) (form : CodesForm codes chars) :
    CodesForm (c.toNat :: codes) (escapeChar c ++ chars) := by
  rw [escapeChar]
  split_ifs with quote backslash backspace tab feed page return_ control
  · rw [quote]; exact .letter rfl form
  · rw [backslash]; exact .letter rfl form
  · rw [backspace]; exact .letter rfl form
  · rw [tab]; exact .letter rfl form
  · rw [feed]; exact .letter rfl form
  · rw [page]; exact .letter rfl form
  · rw [return_]; exact .letter rfl form
  · have code := CodesForm.control (c.toNat / 16) (c.toNat % 16) (by omega) (by omega) form
    rw [Nat.div_add_mod' c.toNat 16] at code
    exact code
  · exact .plain quote backslash (by omega) form

theorem codesForm_escaped (content : List Char) : CodesForm (content.map Char.toNat) (content.flatMap escapeChar) := by
  induction content with
  | nil => exact .empty
  | cons c content ih => exact ih.escaped c

/-- No character is half of a surrogate pair. -/
theorem not_surrogate (c : Char) : isLeading c.toNat = false ∧ isTrailing c.toNat = false := by
  have valid : c.toNat < 0xd800 ∨ 0xdfff < c.toNat ∧ c.toNat < 0x110000 := c.valid
  simp only [isLeading,isTrailing,Bool.and_eq_false_iff,decide_eq_false_iff_not]
  omega

theorem assemble_map (content : List Char) : assemble (content.map Char.toNat) = some content := by
  induction content with
  | nil => rfl
  | cons c content ih =>
    obtain ⟨leading,trailing⟩ := not_surrogate c
    cases content with
    | nil => simp [assemble,leading,trailing,Char.ofNat_toNat]
    | cons next more =>
      rw [List.map_cons] at ih
      simp [assemble,leading,trailing,ih,Char.ofNat_toNat]

/-- A text is printed in one of its forms, and so is one that has no content. -/
theorem textForm_print (content : Option String) : TextForm content (printText content) := by
  cases content with
  | none =>
    have half : CodesForm [0xd800] ['\\','u','d','8','0','0'] :=
      .code (w := 13) (x := 8) (y := 0) (z := 0) rfl rfl rfl rfl .empty
    exact .quoted half
  | some content =>
    have form := TextForm.quoted (codesForm_escaped content.toList)
    rw [assemble_map,Option.map_some,String.ofList_toList] at form
    exact form

/-! ## Values -/

mutual

/-- The digits behind every point are digits. -/
def Proper : Document → Prop
  | .number numeral => ∀ digit ∈ numeral.fraction, digit < 10
  | .list items => ProperItems items
  | .object members => ProperMembers members
  | _ => True

def ProperItems : List Document → Prop
  | [] => True
  | item :: rest => item.Proper ∧ ProperItems rest

def ProperMembers : List (Option String × Document) → Prop
  | [] => True
  | (_, value) :: rest => value.Proper ∧ ProperMembers rest

end

/-- Nothing at all is a gap. -/
theorem Gap.nil : Gap [] := nofun

theorem printItems_cons (item next : Document) (items : List Document) :
    printItems (item :: next :: items) = item.print ++ ',' :: printItems (next :: items) := by
  rw [printItems]
  exact nofun

theorem printMembers_cons (key : Option String) (value : Document) (next : Option String × Document)
    (members : List (Option String × Document)) : printMembers ((key,value) :: next :: members) =
      printText key ++ ':' :: (value.print ++ ',' :: printMembers (next :: members)) := by
  rw [printMembers,List.append_assoc,List.cons_append]
  exact nofun

mutual

/-- A value is printed in one of its forms. -/
theorem form_print (document : Document) (proper : document.Proper) : document.Form document.print := by
  match document, proper with
  | .null, _ => exact .null
  | .bool true, _ => exact .yes
  | .bool false, _ => exact .no
  | .number numeral, proper => exact .number (numeralForm_print proper)
  | .text content, _ => exact .text (textForm_print content)
  | .list [], _ => exact .emptyList .nil
  | .list (item :: items), proper => exact .list .nil (itemsForm_print (item :: items) (List.cons_ne_nil _ _) proper)
  | .object [], _ => exact .emptyObject .nil
  | .object (member :: members), proper =>
    exact .object .nil (membersForm_print (member :: members) (List.cons_ne_nil _ _) proper)

theorem itemsForm_print (items : List Document) (some : items ≠ []) (proper : ProperItems items) :
    ItemsForm items (printItems items) := by
  match items, some, proper with
  | [], some, _ => exact absurd rfl some
  | [item], _, proper =>
    have form := ItemsForm.last (form_print item proper.1) .nil
    rwa [List.append_nil] at form
  | item :: next :: items, _, proper =>
    rw [printItems_cons]
    exact .more (form_print item proper.1) .nil .nil (itemsForm_print (next :: items) (List.cons_ne_nil _ _) proper.2)

theorem membersForm_print (members : List (Option String × Document)) (some : members ≠ [])
    (proper : ProperMembers members) : MembersForm members (printMembers members) := by
  match members, some, proper with
  | [], some, _ => exact absurd rfl some
  | [(key,value)], _, proper =>
    have form := MembersForm.last (textForm_print key) .nil .nil (form_print value proper.1) .nil
    rwa [List.append_nil] at form
  | (key,value) :: next :: members, _, proper =>
    rw [printMembers_cons]
    exact .more (textForm_print key) .nil .nil (form_print value proper.1) .nil .nil
      (membersForm_print (next :: members) (List.cons_ne_nil _ _) proper.2)

end

theorem written_render {document : Document} (proper : document.Proper) : document.Written document.render :=
  ⟨[],document.print,[],.nil,form_print document proper,.nil,by rw [render,String.toList_ofList]; simp⟩

/-- A document is read back from its written form. -/
theorem read?_render {document : Document} (proper : document.Proper) : read? document.render = some document :=
  read?_of_written (written_render proper)

end Statechart.Document
