import Mathlib.Tactic.SplitIfs
import Statechart.Document.Reader

/-!
# The grammar of documents

A document may be written in many ways: with gaps between its tokens, with characters escaped or not, and with exponents
of two cases and three signs. The forms of a document say what may be written of it, and whatever is written so is read
as this document (`Document.read?_of_written`). The form of a value tells where it ends, and behind it comes a gap or
one of a few signs.
-/
namespace Statechart.Document

/-! ## Forms of numbers -/

/-- How a digit is written. -/
def digitChar (digit : Nat) : Char := Char.ofNat (48 + digit)

/-- Some digits, each of them less than ten. -/
structure Digits (digits : List Nat) : Prop where
  nonempty : digits ≠ []
  small : ∀ digit ∈ digits, digit < 10

/-- The forms of a whole number: a zero, or digits that do not begin with one. -/
inductive WholeForm : Nat → List Char → Prop where
  | zero : WholeForm 0 ['0']
  | digits {first : Nat} {rest : List Nat} (digits : Digits (first :: rest)) (positive : first ≠ 0) :
      WholeForm (ofDigits (first :: rest)) ((first :: rest).map digitChar)

/-- The forms of what stands behind a point. -/
inductive FractionForm : List Nat → List Char → Prop where
  | absent : FractionForm [] []
  | point {digits : List Nat} (proper : Digits digits) : FractionForm digits ('.' :: digits.map digitChar)

/-- The forms of the sign of an exponent, and whether they make it negative. -/
inductive SignForm : Bool → List Char → Prop where
  | absent : SignForm false []
  | plus : SignForm false ['+']
  | minus : SignForm true ['-']

/-- The forms of an exponent. -/
inductive ExponentForm : Option Int → List Char → Prop where
  | absent : ExponentForm none []
  | power {mark : Char} {negative : Bool} {sign : List Char} {digits : List Nat} (marks : mark = 'e' ∨ mark = 'E')
      (signed : SignForm negative sign) (proper : Digits digits) :
      ExponentForm (some (if negative then -(ofDigits digits : Int) else ofDigits digits))
        (mark :: (sign ++ digits.map digitChar))

/-- The forms of a number. -/
inductive NumeralForm : Numeral → List Char → Prop where
  | parts {whole : Nat} {fraction : List Nat} {exponent : Option Int} {first second third : List Char} (negative : Bool)
      (wholes : WholeForm whole first) (fractions : FractionForm fraction second)
      (exponents : ExponentForm exponent third) :
      NumeralForm ⟨negative,whole,fraction,exponent⟩
        ((if negative then ['-'] else []) ++ (first ++ (second ++ third)))

/-! ## Forms of texts -/

/-- The forms of the codes of a text: a visible character stands for itself, and any code may be escaped. -/
inductive CodesForm : List Nat → List Char → Prop where
  | empty : CodesForm [] []
  | plain {c : Char} {codes : List Nat} {chars : List Char} (unquoted : c ≠ '"') (unescaped : c ≠ '\\')
      (visible : 32 ≤ c.toNat) (rest : CodesForm codes chars) : CodesForm (c.toNat :: codes) (c :: chars)
  | letter {letter : Char} {code : Nat} {codes : List Nat} {chars : List Char} (escapes : escape? letter = some code)
      (rest : CodesForm codes chars) : CodesForm (code :: codes) ('\\' :: letter :: chars)
  | code {a b c d : Char} {w x y z : Nat} {codes : List Nat} {chars : List Char} (first : hexValue? a = some w)
      (second : hexValue? b = some x) (third : hexValue? c = some y) (fourth : hexValue? d = some z)
      (rest : CodesForm codes chars) :
      CodesForm ((((w * 16 + x) * 16 + y) * 16 + z) :: codes) ('\\' :: 'u' :: a :: b :: c :: d :: chars)

/-- The forms of a text. -/
inductive TextForm : Option String → List Char → Prop where
  | quoted {codes : List Nat} {chars : List Char} (form : CodesForm codes chars) :
      TextForm ((assemble codes).map String.ofList) ('"' :: (chars ++ ['"']))

/-! ## Forms of values -/

/-- What may stand between two tokens. -/
def Gap (chars : List Char) : Prop := ∀ c ∈ chars, isGap c = true

mutual

/-- The forms of a value. -/
inductive Form : Document → List Char → Prop where
  | null : Form .null ['n','u','l','l']
  | yes : Form (.bool true) ['t','r','u','e']
  | no : Form (.bool false) ['f','a','l','s','e']
  | number {numeral : Numeral} {chars : List Char} (form : NumeralForm numeral chars) : Form (.number numeral) chars
  | text {content : Option String} {chars : List Char} (form : TextForm content chars) : Form (.text content) chars
  | emptyList {gap : List Char} (gaps : Gap gap) : Form (.list []) ('[' :: (gap ++ [']']))
  | list {gap : List Char} {items : List Document} {chars : List Char} (gaps : Gap gap) (form : ItemsForm items chars) :
      Form (.list items) ('[' :: (gap ++ (chars ++ [']'])))
  | emptyObject {gap : List Char} (gaps : Gap gap) : Form (.object []) ('\x7b' :: (gap ++ ['\x7d']))
  | object {gap : List Char} {members : List (Option String × Document)} {chars : List Char} (gaps : Gap gap)
      (form : MembersForm members chars) : Form (.object members) ('\x7b' :: (gap ++ (chars ++ ['\x7d'])))

/-- The forms of the items of a list that has some. -/
inductive ItemsForm : List Document → List Char → Prop where
  | last {item : Document} {chars gap : List Char} (form : Form item chars) (gaps : Gap gap) :
      ItemsForm [item] (chars ++ gap)
  | more {item : Document} {items : List Document} {chars before after rest : List Char} (form : Form item chars)
      (ahead : Gap before) (behind : Gap after) (others : ItemsForm items rest) :
      ItemsForm (item :: items) (chars ++ (before ++ ',' :: (after ++ rest)))

/-- The forms of the members of an object that has some. -/
inductive MembersForm : List (Option String × Document) → List Char → Prop where
  | last {key : Option String} {value : Document} {name chars before after gap : List Char} (named : TextForm key name)
      (ahead : Gap before) (behind : Gap after) (form : Form value chars) (gaps : Gap gap) :
      MembersForm [(key,value)] (name ++ (before ++ ':' :: (after ++ (chars ++ gap))))
  | more {key : Option String} {value : Document} {members : List (Option String × Document)}
      {name chars before after gap next rest : List Char} (named : TextForm key name) (ahead : Gap before)
      (behind : Gap after) (form : Form value chars) (gaps : Gap gap) (further : Gap next)
      (others : MembersForm members rest) :
      MembersForm ((key,value) :: members)
        (name ++ (before ++ ':' :: (after ++ (chars ++ (gap ++ ',' :: (next ++ rest))))))

end

/-- A text is a written form of a document. -/
def Written (document : Document) (text : String) : Prop :=
  ∃ before chars after, Gap before ∧ document.Form chars ∧ Gap after ∧ text.toList = before ++ (chars ++ after)

/-! ## What may follow -/

/-- No digit follows. -/
def NoDigit (rest : List Char) : Prop := ∀ c ∈ rest.head?, digit? c = none

/-- Nothing follows a value, or a gap, or a sign that ends an item, a list or an object. -/
def Ends (rest : List Char) : Prop := ∀ c ∈ rest.head?, isGap c = true ∨ c = ',' ∨ c = ']' ∨ c = '\x7d'

theorem isGap_cases {c : Char} (gap : isGap c = true) : c = ' ' ∨ c = '\t' ∨ c = '\n' ∨ c = '\r' := by
  simpa [isGap,or_assoc] using gap

theorem Ends.cases {c : Char} {rest : List Char} (ends : Ends (c :: rest)) :
    c = ' ' ∨ c = '\t' ∨ c = '\n' ∨ c = '\r' ∨ c = ',' ∨ c = ']' ∨ c = '\x7d' := by
  rcases ends c rfl with gap | sign
  · rcases isGap_cases gap with same | same | same | same <;> simp [same]
  · simp [sign]

theorem Ends.noDigit {rest : List Char} (ends : Ends rest) : NoDigit rest := by
  intro c first
  cases rest with
  | nil => cases first
  | cons d more =>
    cases first
    rcases ends.cases with rfl | rfl | rfl | rfl | rfl | rfl | rfl <;> rfl

theorem Ends.of_sign {c : Char} (sign : c = ',' ∨ c = ']' ∨ c = '\x7d') (rest : List Char) : Ends (c :: rest) := by
  rintro other ⟨⟩
  exact .inr sign

/-- A gap ends a value, and so does what follows it. -/
theorem Gap.ends {gap rest : List Char} (gaps : Gap gap) (ends : Ends rest) : Ends (gap ++ rest) := by
  cases gap with
  | nil => exact ends
  | cons c more =>
    rintro other ⟨⟩
    exact .inl (gaps c List.mem_cons_self)

theorem skipGap_of_not_gap {c : Char} (solid : isGap c = false) (rest : List Char) :
    skipGap (c :: rest) = c :: rest := by
  rw [skipGap,List.dropWhile_cons,solid]
  rfl

theorem Gap.skipGap_append {gap : List Char} (gaps : Gap gap) (rest : List Char) :
    skipGap (gap ++ rest) = skipGap rest := by
  induction gap with
  | nil => rfl
  | cons c more ih =>
    rw [List.cons_append,skipGap,List.dropWhile_cons,gaps c List.mem_cons_self,if_pos rfl]
    exact ih fun other member => gaps other (List.mem_cons_of_mem _ member)

/-- Behind a gap the next token is found. -/
theorem Gap.skip {gap : List Char} (gaps : Gap gap) {c : Char} (solid : isGap c = false) (rest : List Char) :
    skipGap (gap ++ c :: rest) = c :: rest := by
  rw [gaps.skipGap_append,skipGap_of_not_gap solid]

/-! ## Reading numbers -/

theorem digit?_digitChar : ∀ digit < 10, digit? (digitChar digit) = some digit := by decide

theorem readDigits_append {digits : List Nat} (small : ∀ digit ∈ digits, digit < 10) {rest : List Char}
    (stops : NoDigit rest) : readDigits (digits.map digitChar ++ rest) = (digits,rest) := by
  induction digits with
  | nil =>
    cases rest with
    | nil => rfl
    | cons c more => simp [readDigits,stops c rfl]
  | cons digit digits ih =>
    have first := digit?_digitChar digit (small digit List.mem_cons_self)
    have later := ih fun other member => small other (List.mem_cons_of_mem _ member)
    simp [readDigits,first,later]

/-- Digits begin with a digit. -/
theorem Digits.head {digits : List Nat} (proper : Digits digits) :
    ∃ first later, digits = first :: later ∧ first < 10 ∧
      digits.map digitChar = digitChar first :: later.map digitChar := by
  obtain ⟨nonempty,small⟩ := proper
  cases digits with
  | nil => exact absurd rfl nonempty
  | cons first later => exact ⟨first,later,rfl,small first List.mem_cons_self,rfl⟩

theorem digitChar_ne {digit : Nat} (small : digit < 10) {c : Char} (none : digit? c = none) : digitChar digit ≠ c := by
  rintro rfl
  rw [digit?_digitChar digit small] at none
  cases none

/-- A whole number begins with a digit. -/
theorem WholeForm.head {whole : Nat} {chars : List Char} (form : WholeForm whole chars) :
    ∃ c more, chars = c :: more ∧ ∀ other, digit? other = none → c ≠ other := by
  cases form with
  | zero => exact ⟨'0',[],rfl,fun other none same => by subst same; cases none⟩
  | @digits first rest proper _ =>
    exact ⟨_,_,rfl,fun other none => digitChar_ne (proper.small first List.mem_cons_self) none⟩

theorem WholeForm.reads {whole : Nat} {chars rest : List Char} (form : WholeForm whole chars) (stops : NoDigit rest) :
    readWhole (chars ++ rest) = some (whole,rest) := by
  cases form with
  | zero =>
    have small : ∀ digit ∈ [0], digit < 10 := by simp
    have reads : readDigits (['0'] ++ rest) = ([0],rest) := readDigits_append small stops
    rw [readWhole,reads]
    rfl
  | @digits first later proper positive =>
    rw [readWhole,readDigits_append proper.small stops]
    cases first with
    | zero => exact absurd rfl positive
    | succ first => rfl

theorem FractionForm.head {fraction : List Nat} {chars rest : List Char} (form : FractionForm fraction chars)
    (stops : NoDigit rest) : NoDigit (chars ++ rest) := by
  cases form with
  | absent => exact stops
  | point _ => rintro c ⟨⟩; rfl

theorem FractionForm.reads {fraction : List Nat} {chars rest : List Char} (form : FractionForm fraction chars)
    (stops : NoDigit rest) (pointless : ∀ c ∈ rest.head?, c ≠ '.') :
    readFraction (chars ++ rest) = some (fraction,rest) := by
  cases form with
  | absent =>
    cases rest with
    | nil => rfl
    | cons c more =>
      have other := pointless c rfl
      simp [readFraction,other]
  | point proper =>
    rw [List.cons_append,readFraction,readDigits_append proper.small stops]
    obtain ⟨first,later,rfl,_⟩ := proper.head
    rfl

theorem ExponentForm.head {exponent : Option Int} {chars rest : List Char} (form : ExponentForm exponent chars)
    (ends : Ends rest) : ∀ c ∈ (chars ++ rest).head?, digit? c = none ∧ c ≠ '.' := by
  intro c first
  cases form with
  | absent =>
    cases rest with
    | nil => cases first
    | cons d more =>
      cases first
      rcases ends.cases with rfl | rfl | rfl | rfl | rfl | rfl | rfl <;> exact ⟨rfl,by decide⟩
  | power marks _ _ =>
    cases first
    rcases marks with rfl | rfl <;> exact ⟨rfl,by decide⟩

theorem Digits.readPower {digits : List Nat} (proper : Digits digits) (negative : Bool) {rest : List Char}
    (stops : NoDigit rest) : readPower negative (digits.map digitChar ++ rest) =
      some (some (if negative then -(ofDigits digits : Int) else ofDigits digits),rest) := by
  rw [Document.readPower,readDigits_append proper.small stops]
  obtain ⟨first,later,rfl,_⟩ := proper.head
  rfl

theorem ExponentForm.reads {exponent : Option Int} {chars rest : List Char} (form : ExponentForm exponent chars)
    (ends : Ends rest) : readExponent (chars ++ rest) = some (exponent,rest) := by
  cases form with
  | absent =>
    cases rest with
    | nil => rfl
    | cons c more => rcases ends.cases with rfl | rfl | rfl | rfl | rfl | rfl | rfl <;> rfl
  | @power mark negative sign digits marks signed proper =>
    have reads := proper.readPower negative ends.noDigit
    have marked : (decide (mark = 'e') || decide (mark = 'E')) = true := by
      rcases marks with rfl | rfl <;> rfl
    simp only [List.cons_append,List.append_assoc,readExponent,marked,if_true]
    cases signed with
    | plus => exact reads
    | minus => exact reads
    | absent =>
      obtain ⟨first,later,rfl,small,written⟩ := proper.head
      simp only [written,List.nil_append,List.cons_append] at reads ⊢
      split
      · rename_i same
        exact absurd (List.cons.inj same).1 (digitChar_ne small rfl)
      · rename_i same
        exact absurd (List.cons.inj same).1 (digitChar_ne small rfl)
      · exact reads

/-- A number begins with its sign or a digit. -/
theorem NumeralForm.head {numeral : Numeral} {chars : List Char} (form : NumeralForm numeral chars) :
    ∃ c more, chars = c :: more ∧ ∀ other, digit? other = none → other ≠ '-' → c ≠ other := by
  cases form with
  | parts negative wholes _ _ =>
    obtain ⟨c,more,rfl,other⟩ := wholes.head
    cases negative with
    | true => exact ⟨'-',_,rfl,fun _ _ different => different.symm⟩
    | false => exact ⟨c,_,rfl,fun third none _ => other third none⟩

theorem NumeralForm.reads {numeral : Numeral} {chars rest : List Char} (form : NumeralForm numeral chars)
    (ends : Ends rest) : readNumeral (chars ++ rest) = some (numeral,rest) := by
  cases form with
  | @parts whole fraction exponent first second third negative wholes fractions exponents =>
    have head := exponents.head ends
    have stops : NoDigit (third ++ rest) := fun c first => (head c first).1
    have magnitude : readMagnitude negative (first ++ (second ++ (third ++ rest))) =
        some (⟨negative,whole,fraction,exponent⟩,rest) := by
      rw [readMagnitude,wholes.reads (fractions.head stops)]
      simp only [Option.bind_eq_bind,Option.bind_some]
      rw [fractions.reads stops fun c first => (head c first).2]
      simp only [Option.bind_some]
      rw [exponents.reads ends]
      rfl
    rw [List.append_assoc,List.append_assoc,List.append_assoc]
    cases negative with
    | true => exact magnitude
    | false =>
      obtain ⟨c,more,rfl,other⟩ := wholes.head
      simp only [Bool.false_eq_true,if_false,List.nil_append,List.cons_append] at magnitude ⊢
      rw [readNumeral]
      · exact magnitude
      · intro later same
        exact other '-' rfl (List.cons.inj same).1

/-! ## Reading texts -/

theorem CodesForm.reads {codes : List Nat} {chars : List Char} (form : CodesForm codes chars) (rest : List Char) :
    readCodes (chars ++ '"' :: rest) = some (codes,rest) := by
  induction form with
  | empty => rfl
  | plain unquoted unescaped visible _ ih =>
    rw [List.cons_append,readCodes]
    · simp [Nat.not_lt.mpr visible,unescaped,ih]
    · exact unquoted
    · exact fun _ _ _ _ _ same => absurd same unescaped
    · exact fun _ _ same => absurd same unescaped
  | @letter letter code codes chars escapes _ ih =>
    have other : letter ≠ 'u' := by
      rintro rfl
      cases escapes
    rw [List.cons_append,List.cons_append,readCodes]
    · simp [escapes,ih]
    · intro a b c d later same
      exact absurd same other
  | code first second third fourth _ ih =>
    simp only [List.cons_append]
    rw [readCodes]
    simp [first,second,third,fourth,ih]

theorem TextForm.reads {content : Option String} {chars : List Char} (form : TextForm content chars)
    (rest : List Char) :
    ∃ tail, chars = '"' :: tail ∧ readText (tail ++ rest) = some (content,rest) := by
  cases form with
  | quoted form =>
    refine ⟨_,rfl,?_⟩
    rw [List.append_assoc,List.singleton_append,readText,form.reads]
    rfl

/-! ## Reading values -/

/-- A value begins neither with a gap nor with the end of a list. -/
theorem Form.head {document : Document} {chars : List Char} (form : document.Form chars) :
    ∃ c more, chars = c :: more ∧ isGap c = false ∧ c ≠ ']' := by
  cases form with
  | number form =>
    obtain ⟨c,more,rfl,other⟩ := form.head
    refine ⟨c,more,rfl,?_,other ']' rfl (by decide)⟩
    simp [isGap,other ' ' rfl (by decide),other '\t' rfl (by decide),other '\n' rfl (by decide),
      other '\r' rfl (by decide)]
  | text form =>
    obtain ⟨tail,rfl,_⟩ := form.reads []
    exact ⟨_,_,rfl,rfl,by decide⟩
  | _ => exact ⟨_,_,rfl,rfl,by decide⟩

theorem ItemsForm.head {items : List Document} {chars : List Char} (form : ItemsForm items chars) :
    ∃ c more, chars = c :: more ∧ isGap c = false ∧ c ≠ ']' := by
  cases form with
  | last form _ =>
    obtain ⟨c,more,rfl,solid,open_⟩ := form.head
    exact ⟨c,_,rfl,solid,open_⟩
  | more form _ _ _ =>
    obtain ⟨c,more,rfl,solid,open_⟩ := form.head
    exact ⟨c,_,rfl,solid,open_⟩

/-- Members begin with the quote of a key. -/
theorem MembersForm.head {members : List (Option String × Document)} {chars : List Char}
    (form : MembersForm members chars) : ∃ more, chars = '"' :: more := by
  cases form with
  | last named _ _ _ _ =>
    obtain ⟨tail,rfl,_⟩ := named.reads []
    exact ⟨_,rfl⟩
  | more named _ _ _ _ _ _ =>
    obtain ⟨tail,rfl,_⟩ := named.reads []
    exact ⟨_,rfl⟩

theorem readValue_number {numeral : Numeral} {chars rest : List Char} (form : NumeralForm numeral chars) (fuel : Nat)
    (ends : Ends rest) : readValue (fuel + 1) (chars ++ rest) = some (.number numeral,rest) := by
  have reads := form.reads ends
  obtain ⟨c,more,rfl,other⟩ := form.head
  rw [List.cons_append] at reads ⊢
  rw [readValue]
  · rw [reads]
    rfl
  · exact fun _ same => other 'n' rfl (by decide) (List.cons.inj same).1
  · exact fun _ same => other 't' rfl (by decide) (List.cons.inj same).1
  · exact fun _ same => other 'f' rfl (by decide) (List.cons.inj same).1
  · exact fun _ same => other '"' rfl (by decide) (List.cons.inj same).1
  · exact fun _ same => other '[' rfl (by decide) (List.cons.inj same).1
  · exact fun _ same => other '\x7b' rfl (by decide) (List.cons.inj same).1

theorem readValue_list {fuel : Nat} {gap chars rest : List Char} {items : List Document} (gaps : Gap gap)
    (form : ItemsForm items chars) (reads : readItems fuel (chars ++ ']' :: rest) = some (items,rest)) :
    readValue (fuel + 1) ('[' :: (gap ++ (chars ++ [']'])) ++ rest) = some (.list items,rest) := by
  obtain ⟨c,more,rfl,solid,open_⟩ := form.head
  simp only [List.cons_append,List.append_assoc,List.nil_append] at reads ⊢
  rw [readValue,gaps.skip solid]
  split
  · rename_i same
    exact absurd (List.cons.inj same).1 open_
  · rw [reads]
    rfl

theorem readValue_object {fuel : Nat} {gap chars rest : List Char} {members : List (Option String × Document)}
    (gaps : Gap gap) (form : MembersForm members chars)
    (reads : readMembers fuel (chars ++ '\x7d' :: rest) = some (members,rest)) :
    readValue (fuel + 1) ('\x7b' :: (gap ++ (chars ++ ['\x7d'])) ++ rest) = some (.object members,rest) := by
  obtain ⟨more,rfl⟩ := form.head
  simp only [List.cons_append,List.append_assoc,List.nil_append] at reads ⊢
  rw [readValue,gaps.skip rfl]
  split
  · rename_i same
    cases same
  · rw [reads]
    rfl

mutual

/-- A value is read from each of its forms, whatever follows that ends it. -/
theorem Form.reads {document : Document} {chars : List Char} (form : document.Form chars) (fuel : Nat)
    (enough : 2 * chars.length ≤ fuel) (rest : List Char) (ends : Ends rest) :
    readValue fuel (chars ++ rest) = some (document,rest) := by
  obtain ⟨first,more,written,_⟩ := form.head
  obtain ⟨fuel,rfl⟩ : ∃ less, fuel = less + 1 := ⟨fuel - 1,by rw [written,List.length_cons] at enough; omega⟩
  match form with
  | .null => rfl
  | .yes => rfl
  | .no => rfl
  | .number form => exact readValue_number form fuel ends
  | .text form =>
    obtain ⟨tail,rfl,reads⟩ := form.reads rest
    rw [List.cons_append,readValue,reads]
    rfl
  | .emptyList gaps =>
    simp only [List.cons_append,List.append_assoc,List.nil_append]
    rw [readValue,gaps.skip rfl]
    rfl
  | .list gaps form =>
    simp only [List.length_cons,List.length_append,List.length_nil] at enough
    exact readValue_list gaps form (form.reads fuel (by omega) rest)
  | .emptyObject gaps =>
    simp only [List.cons_append,List.append_assoc,List.nil_append]
    rw [readValue,gaps.skip rfl]
    rfl
  | .object gaps form =>
    simp only [List.length_cons,List.length_append,List.length_nil] at enough
    exact readValue_object gaps form (form.reads fuel (by omega) rest)
termination_by structural form

theorem ItemsForm.reads {items : List Document} {chars : List Char} (form : ItemsForm items chars) (fuel : Nat)
    (enough : 2 * chars.length + 1 ≤ fuel) (rest : List Char) :
    readItems fuel (chars ++ ']' :: rest) = some (items,rest) := by
  obtain ⟨fuel,rfl⟩ : ∃ less, fuel = less + 1 := ⟨fuel - 1,by omega⟩
  match form with
  | .last form gaps =>
    rw [List.length_append] at enough
    have reads := form.reads fuel (by omega) _ (gaps.ends (.of_sign (.inr (.inl rfl)) rest))
    rw [List.append_assoc,readItems,reads]
    simp only [gaps.skip (c := ']') rfl]
  | @ItemsForm.more item items chars before after others form ahead behind further =>
    simp only [List.length_append,List.length_cons] at enough
    have first := form.reads fuel (by omega) _ (ahead.ends (.of_sign (.inl rfl) (after ++ (others ++ ']' :: rest))))
    have later := further.reads fuel (by omega) rest
    obtain ⟨c,more,rfl,solid,_⟩ := further.head
    simp only [List.append_assoc,List.cons_append] at first later ⊢
    rw [readItems,first]
    simp only [ahead.skip (c := ',') rfl,behind.skip solid,later]
    rfl
termination_by structural form

theorem MembersForm.reads {members : List (Option String × Document)} {chars : List Char}
    (form : MembersForm members chars) (fuel : Nat) (enough : 2 * chars.length + 1 ≤ fuel) (rest : List Char) :
    readMembers fuel (chars ++ '\x7d' :: rest) = some (members,rest) := by
  obtain ⟨fuel,rfl⟩ : ∃ less, fuel = less + 1 := ⟨fuel - 1,by omega⟩
  match form with
  | @MembersForm.last key value name chars before after gap named ahead behind form gaps =>
    simp only [List.length_append,List.length_cons] at enough
    have reads := form.reads fuel (by omega) _ (gaps.ends (.of_sign (.inr (.inr rfl)) rest))
    obtain ⟨c,more,rfl,solid,_⟩ := form.head
    obtain ⟨tail,rfl,keys⟩ := named.reads (before ++ ':' :: (after ++ (c :: more ++ (gap ++ '\x7d' :: rest))))
    simp only [List.append_assoc,List.cons_append] at reads keys ⊢
    rw [readMembers,keys]
    simp only [ahead.skip (c := ':') rfl,behind.skip solid,reads,gaps.skip (c := '\x7d') rfl]
  | @MembersForm.more key value members name chars before after gap next others named ahead behind form gaps beyond
      further =>
    simp only [List.length_append,List.length_cons] at enough
    have reads := form.reads fuel (by omega) _ (gaps.ends (.of_sign (.inl rfl) (next ++ (others ++ '\x7d' :: rest))))
    have later := further.reads fuel (by omega) rest
    obtain ⟨c,more,rfl,solid,_⟩ := form.head
    obtain ⟨tail,rfl,keys⟩ := named.reads
      (before ++ ':' :: (after ++ (c :: more ++ (gap ++ ',' :: (next ++ (others ++ '\x7d' :: rest))))))
    obtain ⟨quoted,rfl⟩ := further.head
    simp only [List.append_assoc,List.cons_append] at reads keys later ⊢
    rw [readMembers,keys]
    simp only [ahead.skip (c := ':') rfl,behind.skip solid,reads,gaps.skip (c := ',') rfl,beyond.skip (c := '"') rfl,
      later]
    rfl
termination_by structural form

end

/-- A document is read from each of its written forms. -/
theorem read?_of_written {document : Document} {text : String} (written : document.Written text) :
    read? text = some document := by
  obtain ⟨before,chars,after,ahead,form,behind,whole⟩ := written
  have start : skipGap (before ++ (chars ++ after)) = chars ++ after := by
    obtain ⟨c,more,rfl,solid,_⟩ := form.head
    exact ahead.skip solid _
  have finish : skipGap after = [] := by
    have empty := behind.skipGap_append []
    rwa [List.append_nil] at empty
  have ends : Ends after := by
    have empty := behind.ends (show Ends [] from nofun)
    rwa [List.append_nil] at empty
  have reads := form.reads (2 * (before ++ (chars ++ after)).length + 2)
    (by simp only [List.length_append]; omega) after ends
  rw [read?,readChars,whole,start,reads]
  simp only [finish]
  rfl

end Statechart.Document
