import ExactAlgebra.Input.Basic

/-!
# Leaves as they are written

Both formats write a leaf as one word: a variable by its name, and an integer by its
digits with an optional minus sign. A written leaf keeps the digits themselves, because
`7` and `007` are the same integer but not the same word. Reading a word finds a leaf
exactly when the word is how some leaf is written, and no operator is written that way.
-/

namespace ExactAlgebra

namespace Text

/-! ## Digits -/

variable {digits : List Char}

theorem isAlpha_ne_true_of_isDigit {digit : Char} (decimal : digit.isDigit = true) :
    ¬digit.isAlpha = true := by
  delta Char.isAlpha Char.isUpper Char.isLower
  simp [Char.isDigit, UInt32.le_iff_toNat_le] at *
  omega

theorem digitValue?_of_isDigit {digit : Char} (decimal : digit.isDigit = true) :
    digitValue? digit = some (digit.toNat - '0'.toNat) := by
  obtain ⟨lower, upper⟩ := Char.isDigit_iff_toNat.mp decimal
  have firstRow : digitZeros.find? (fun start => start ≤ digit.toNat ∧ digit.toNat < start + 10) =
      some '0'.toNat :=
    List.find?_cons_of_pos (decide_eq_true ⟨lower, Nat.lt_of_le_of_lt upper (by decide)⟩)
  rw [digitValue?, firstRow]
  rfl

/-- ASCII digits are read as the number that they write, after what was read before. -/
theorem readDigits?_of_isDigit
    (decimal : ∀ digit ∈ digits, digit.isDigit = true)
    (value : Nat) :
    readDigits? value digits = some (Nat.ofDigitChars 10 digits value) := by
  induction digits generalizing value with
  | nil => rfl
  | cons digit digits hypothesis =>
      obtain ⟨first, others⟩ := List.forall_mem_cons.mp decimal
      have noUnderscore : ∀ next rest, digit = '_' → digits = next :: rest → False := by
        rintro _ _ rfl
        cases first
      rw [readDigits?.eq_3 _ _ _ noUnderscore, digitValue?_of_isDigit first,
        Nat.ofDigitChars_cons]
      exact hypothesis others _

theorem readNatural?_of_isDigit
    (nonempty : digits ≠ [])
    (decimal : ∀ digit ∈ digits, digit.isDigit = true) :
    readNatural? digits = some (Nat.ofDigitChars 10 digits 0) := by
  cases digits with
  | nil => exact absurd rfl nonempty
  | cons digit digits =>
      obtain ⟨first, others⟩ := List.forall_mem_cons.mp decimal
      rw [readNatural?, digitValue?_of_isDigit first, Nat.ofDigitChars_cons, Nat.mul_zero,
        Nat.zero_add]
      exact readDigits?_of_isDigit others _

/-- No digit is a sign, so digits are read as a natural number. -/
theorem readInteger?_of_isDigit
    (nonempty : digits ≠ [])
    (decimal : ∀ digit ∈ digits, digit.isDigit = true) :
    readInteger? digits = some (Nat.ofDigitChars 10 digits 0 : Nat) := by
  have natural := readNatural?_of_isDigit nonempty decimal
  unfold readInteger?
  split
  · exact absurd (decimal '+' List.mem_cons_self) (by decide)
  · exact absurd (decimal '-' List.mem_cons_self) (by decide)
  · rw [natural]
    rfl

/-! ## Padding -/

/-- Nothing is trimmed from characters none of which are of the class. -/
theorem trim_eq_self
    {inClass : Char → Bool}
    {characters : List Char}
    (none : ∀ character ∈ characters, inClass character = false) :
    trim inClass characters = characters := by
  have kept {list : List Char} (none : ∀ character ∈ list, inClass character = false) :
      list.dropWhile inClass = list := by
    cases list with
    | nil => rfl
    | cons first others =>
        rw [List.dropWhile_cons_of_neg (by simp [none first List.mem_cons_self])]
  have backwards : ∀ character ∈ characters.reverse, inClass character = false :=
    fun character member => none character (List.mem_reverse.mp member)
  rw [trim, kept none, kept backwards, List.reverse_reverse]

theorem isPadding_eq_false_of_isDigit {digit : Char} (decimal : digit.isDigit = true) :
    isPadding digit = false := by
  obtain ⟨lower, upper⟩ := Char.isDigit_iff_toNat.mp decimal
  change 48 ≤ digit.toNat at lower
  change digit.toNat ≤ 57 at upper
  have notBlank : isBlank digit = false := by
    simp only [isBlank, decide_eq_false_iff_not]
    omega
  rw [isPadding, notBlank, Bool.false_and]

end Text

namespace Input

/-! ## Integers -/

/-- A written integer: an optional minus sign in front of one or more digits. -/
structure IntegerToken where
  negative : Bool
  digits : List Char
  nonempty : digits ≠ []
  decimal : ∀ digit ∈ digits, digit.isDigit = true

namespace IntegerToken

variable (token : IntegerToken)

/-- The characters of the integer. -/
def characters : List Char :=
  if token.negative then '-' :: token.digits else token.digits

/-- The word that the integer is written as. -/
def text : String :=
  String.ofList token.characters

/-- The integer that is written. -/
def value : Int :=
  if token.negative then -(Nat.ofDigitChars 10 token.digits 0 : Int)
  else Nat.ofDigitChars 10 token.digits 0

/-- The digits of a natural number, written without a sign. -/
def ofNat (number : Nat) : IntegerToken where
  negative := false
  digits := Nat.toDigits 10 number
  nonempty := Nat.toDigits_ne_nil
  decimal := fun _ member => Nat.isDigit_of_mem_toDigits (by decide) (by decide) member

theorem text_ofNat (number : Nat) : (ofNat number).text = toString number := by
  refine String.toList_injective ?_
  exact String.toList_ofList.trans Nat.toList_repr.symm

theorem value_ofNat (number : Nat) : (ofNat number).value = number :=
  congrArg Int.ofNat Nat.ofDigitChars_ten_toDigits

/-- The digits of an integer, with a minus sign if it is negative. -/
def ofInt : Int → IntegerToken
  | .ofNat number => ofNat number
  | .negSucc number => { ofNat (number + 1) with negative := true }

theorem text_ofInt (number : Int) : (ofInt number).text = toString number := by
  cases number with
  | ofNat number => exact text_ofNat number
  | negSucc number =>
      refine String.toList_injective ?_
      have digits : (toString (number + 1)).toList = Nat.toDigits 10 (number + 1) :=
        Nat.toList_repr
      change (String.ofList ('-' :: Nat.toDigits 10 (number + 1))).toList =
        ("-" ++ toString (number + 1)).toList
      rw [String.toList_ofList, String.toList_append, digits]
      rfl

theorem value_ofInt (number : Int) : (ofInt number).value = number := by
  cases number with
  | ofNat number => exact value_ofNat number
  | negSucc number =>
      change -((Nat.ofDigitChars 10 (Nat.toDigits 10 (number + 1)) 0 : Nat) : Int) = _
      rw [Nat.ofDigitChars_ten_toDigits]
      rfl

/-- An integer is written with digits and a minus sign. -/
theorem eq_minus_or_isDigit_of_mem_text
    {character : Char}
    (member : character ∈ token.text.toList) :
    character = '-' ∨ character.isDigit = true := by
  rw [text, String.toList_ofList, characters] at member
  split at member
  · exact (List.mem_cons.mp member).imp_right (token.decimal character)
  · exact .inr (token.decimal character member)

theorem exists_isDigit : ∃ digit ∈ token.text.toList, digit.isDigit = true := by
  obtain ⟨digit, rest, digits⟩ := List.exists_cons_of_ne_nil token.nonempty
  have inDigits : digit ∈ token.digits := digits ▸ List.mem_cons_self
  refine ⟨digit, ?_, token.decimal digit inDigits⟩
  rw [text, String.toList_ofList, characters]
  split
  · exact List.mem_cons_of_mem _ inDigits
  · exact inDigits

theorem text_injective : Function.Injective text := by
  intro first second equal
  have sameCharacters : first.characters = second.characters := String.ofList_injective equal
  obtain ⟨firstNegative, firstDigits, firstNonempty, firstDecimal⟩ := first
  obtain ⟨secondNegative, secondDigits, secondNonempty, secondDecimal⟩ := second
  have minus : ¬Char.isDigit '-' = true := by decide
  cases firstNegative <;> cases secondNegative
  · cases sameCharacters
    rfl
  · cases sameCharacters
    exact absurd (firstDecimal '-' List.mem_cons_self) minus
  · cases sameCharacters
    exact absurd (secondDecimal '-' List.mem_cons_self) minus
  · cases sameCharacters
    rfl

/-- No integer is written like a variable. -/
theorem text_ne_symbol (name : Symbol) : token.text ≠ name.text := by
  intro equal
  obtain ⟨digit, member, decimal⟩ := token.exists_isDigit
  exact Text.isAlpha_ne_true_of_isDigit decimal (name.isAlpha_of_mem_text (equal ▸ member))

end IntegerToken

/-- Reading a written integer gives the integer. -/
theorem readInteger?_text (token : IntegerToken) : readInteger? token.text = some token.value := by
  obtain ⟨negative, digits, nonempty, decimal⟩ := token
  have allDigits : digits.all Char.isDigit = true := List.all_eq_true.mpr decimal
  have natural := Text.readNatural?_of_isDigit nonempty decimal
  unfold readInteger? IntegerToken.text IntegerToken.characters
  rw [String.toList_ofList]
  cases negative with
  | true =>
      simp only [if_true, allDigits, Text.readInteger?, natural]
      rfl
  | false =>
      simp only [Bool.false_eq_true, if_false]
      split
      · exact absurd (decimal '-' List.mem_cons_self) (by decide)
      · rw [if_pos allDigits, Text.readInteger?_of_isDigit nonempty decimal]
        rfl

/-- There is no padding in a written integer, so it is also read where padding may
surround it. -/
theorem integer?_text (token : IntegerToken) : Text.integer? token.text = some token.value := by
  have noPadding : ∀ character ∈ token.text.toList, Text.isPadding character = false := by
    intro character member
    rcases token.eq_minus_or_isDigit_of_mem_text member with rfl | decimal
    · rfl
    · exact Text.isPadding_eq_false_of_isDigit decimal
  have converted : Text.readInteger? token.text.toList = some token.value := by
    have read := readInteger?_text token
    unfold readInteger? at read
    split at read
    all_goals
      split at read
      · exact read
      · cases read
  rw [Text.integer?, Text.trim_eq_self noPadding, converted]

/-- Only a written integer is read as an integer. -/
theorem exists_text_eq_of_readInteger?
    {word : String}
    {value : Int}
    (read : readInteger? word = some value) :
    ∃ token : IntegerToken, token.text = word := by
  unfold readInteger? at read
  split at read
  · rename_i digits characters
    split at read
    · rename_i decimal
      have nonempty : digits ≠ [] := by
        rintro rfl
        rw [characters] at read
        cases read
      refine ⟨⟨true, digits, nonempty, List.all_eq_true.mp decimal⟩, ?_⟩
      exact String.toList_injective (String.toList_ofList.trans characters.symm)
    · cases read
  · split at read
    · rename_i decimal
      have nonempty : word.toList ≠ [] := by
        intro empty
        rw [empty] at read
        cases read
      refine ⟨⟨false, word.toList, nonempty, List.all_eq_true.mp decimal⟩, ?_⟩
      exact String.ofList_toList
    · cases read

/-! ## Words -/

/-- A leaf as it is written. -/
inductive Leaf
  | symbol (name : Symbol)
  | integer (token : IntegerToken)

namespace Leaf

/-- The word that the leaf is written as. -/
def text : Leaf → String
  | symbol name => name.text
  | integer token => token.text

/-- The expression that the leaf stands for. -/
def expr : Leaf → Expr
  | symbol name => .symbol name
  | integer token => .number (.ofInt token.value)

theorem text_injective : Function.Injective text := by
  intro first second equal
  cases first with
  | symbol name =>
      cases second with
      | symbol other => rw [Symbol.text_injective equal]
      | integer other => exact absurd equal.symm (other.text_ne_symbol name)
  | integer token =>
      cases second with
      | symbol other => exact absurd equal (token.text_ne_symbol other)
      | integer other => rw [IntegerToken.text_injective equal]

theorem exists_isAlphanum (leaf : Leaf) :
    ∃ character ∈ leaf.text.toList, character.isAlphanum = true := by
  cases leaf with
  | symbol name =>
      obtain ⟨letter, member⟩ := List.exists_mem_of_ne_nil _ name.toList_text_ne_nil
      exact ⟨letter, member, by rw [Char.isAlphanum, name.isAlpha_of_mem_text member, Bool.true_or]⟩
  | integer token =>
      obtain ⟨digit, member, decimal⟩ := token.exists_isDigit
      exact ⟨digit, member, by rw [Char.isAlphanum, decimal, Bool.or_true]⟩

/-- No leaf is written like an operator. -/
theorem sign_ne_text (operator : Operator) (leaf : Leaf) : operator.sign ≠ leaf.text := by
  intro equal
  obtain ⟨character, member, alphanumeric⟩ := leaf.exists_isAlphanum
  have noneInSign : operator.sign.toList.all (!·.isAlphanum) = true := by
    cases operator <;> decide
  have absent := List.all_eq_true.mp noneInSign character (equal ▸ member)
  rw [alphanumeric] at absent
  cases absent

theorem ofSign?_text (leaf : Leaf) : Operator.ofSign? leaf.text = none := by
  refine List.find?_eq_none.mpr fun operator _ same => ?_
  exact sign_ne_text operator leaf (of_decide_eq_true same)

theorem readLeaf?_text (leaf : Leaf) : readLeaf? leaf.text = some leaf.expr := by
  cases leaf with
  | symbol name => simp only [readLeaf?, text, Symbol.ofText?_text, expr]
  | integer token =>
      have noSymbol : Symbol.ofText? token.text = none := by
        refine Option.eq_none_iff_forall_ne_some.mpr fun name found => ?_
        exact token.text_ne_symbol name (Symbol.text_of_ofText?_eq_some found).symm
      simp only [readLeaf?, text, noSymbol, readInteger?_text, Option.map_some, expr]

end Leaf

/-- A word is read as a leaf exactly when it is how some leaf is written. -/
theorem readLeaf?_eq_some_iff {word : String} {expr : Expr} :
    readLeaf? word = some expr ↔ ∃ leaf : Leaf, leaf.text = word ∧ leaf.expr = expr := by
  constructor
  · intro read
    obtain ⟨leaf, rfl⟩ : ∃ leaf : Leaf, leaf.text = word := by
      unfold readLeaf? at read
      split at read
      · rename_i name found
        exact ⟨.symbol name, Symbol.text_of_ofText?_eq_some found⟩
      · obtain ⟨value, found, _⟩ := Option.map_eq_some_iff.mp read
        obtain ⟨token, written⟩ := exists_text_eq_of_readInteger? found
        exact ⟨.integer token, written⟩
    rw [Leaf.readLeaf?_text] at read
    exact ⟨leaf, rfl, Option.some.inj read⟩
  · rintro ⟨leaf, rfl, rfl⟩
    exact leaf.readLeaf?_text

end Input
end ExactAlgebra
