import LiveTabs.Json.Printer

/-!
# Integers that are read back

An integer is written in decimal digits without leading zeros, and a negative one after a sign.
Reading the digits, up to a character that is no digit, gives the integer again. The digits as
numbers are kept apart from their characters, so that the sum that they stand for and the place
where reading stops are two separate facts.
-/

namespace LiveTabs.Json

open Text (digit? ofDigits)

/-- The digits of a natural number, most significant first. Zero has one digit. -/
def positional (value : Nat) : List Nat :=
  if value < 10 then [value] else positional (value / 10) ++ [value % 10]
termination_by value

/-- A number has at least one digit, so it is never written as nothing. -/
theorem positional_ne_nil (value : Nat) : positional value ≠ [] := by
  rw [positional]
  split <;> simp

/-- The digits of a number stand for the number, read by their positions. -/
theorem of_digits_positional (value : Nat) : ofDigits 10 (positional value) = value := by
  induction value using positional.induct with
  | case1 value small => simp [positional, small, ofDigits]
  | case2 value large inductionHypothesis =>
    rw [positional, if_neg large]
    simp only [ofDigits, List.foldl_append, List.foldl_cons, List.foldl_nil]
      at inductionHypothesis ⊢
    rw [inductionHypothesis]
    omega

/-- Only zero begins with a zero, and zero has a single digit. The reader refuses all other leading
zeros. -/
theorem positional_leading_zero (value : Nat) (leading : (positional value).head? = some 0) :
    (positional value).length = 1 := by
  induction value using positional.induct with
  | case1 value small => simp [positional, small]
  | case2 value large inductionHypothesis =>
    have longer : (positional (value / 10)).head? ≠ none := by
      simp [positional_ne_nil]
    obtain ⟨first, begins⟩ := Option.ne_none_iff_exists'.mp longer
    rw [positional, if_neg large, List.head?_append, begins] at leading
    obtain ⟨digit, only⟩ := List.length_eq_one_iff.mp (inductionHypothesis (begins.trans leading))
    -- The leading zero would be the only digit of a number that is not zero.
    have meant : ofDigits 10 (positional (value / 10)) = value / 10 := of_digits_positional _
    rw [only] at begins meant
    have zero : digit = 0 := by simp_all
    simp only [ofDigits, List.foldl_cons, List.foldl_nil, zero] at meant
    omega

/-- A written digit is read as the digit that it is, which is the step for whole numbers. -/
theorem digit_of_character (digit : Nat) (decimal : digit < 10) :
    digit? 10 (Char.ofNat (48 + digit)) = some digit := by
  have every : ∀ digit, digit < 10 → digit? 10 (Char.ofNat (48 + digit)) = some digit := by decide
  exact every digit decimal

/-- Reading the digits of a number and what follows them gives the number's digits before those
that follow. -/
theorem digits_decimal_digits (value : Nat) (after : List Char) :
    Numeral.digits (decimalDigits after value) =
      (positional value ++ (Numeral.digits after).1, (Numeral.digits after).2) := by
  induction value using positional.induct generalizing after with
  | case1 value small =>
    have only : digit? 10 (Char.ofNat (48 + value)) = some value := digit_of_character value small
    rw [decimalDigits, positional]
    simp [small, Numeral.digits, only, Nat.mod_eq_of_lt small]
  | case2 value large inductionHypothesis =>
    have last : digit? 10 (Char.ofNat (48 + value % 10)) = some (value % 10) :=
      digit_of_character (value % 10) (Nat.mod_lt value (by decide))
    rw [decimalDigits, positional, if_neg large, if_neg large, inductionHypothesis]
    simp [Numeral.digits, last]

/-- The digits of a number, written to the end, are read completely, with nothing left for a
fraction or an exponent. -/
theorem digits_of_number (value : Nat) :
    Numeral.digits (decimalDigits [] value) = (positional value, []) := by
  simp [digits_decimal_digits, Numeral.digits]

/-- What is read without a sign begins with a digit, so it is not taken for a negative number. -/
theorem decimal_digits_unsigned (value : Nat) (rest : List Char) :
    decimalDigits [] value ≠ '-' :: rest := by
  intro signed
  have none_read : Numeral.digits ('-' :: rest) = ([], '-' :: rest) := by
    simp [Numeral.digits, show digit? 10 '-' = none by decide]
  rw [← signed, digits_of_number] at none_read
  exact positional_ne_nil value (congrArg Prod.fst none_read)

/-- An integer as a numeral: a sign, digits, and nothing else. -/
def writtenInteger : Int → Numeral
  | .ofNat value => ⟨false, positional value, none, none⟩
  | .negSucc value => ⟨true, positional (value + 1), none, none⟩

/-- The characters of an integer are read as its sign and digits, whatever its size. -/
theorem read_integer (value : Int) :
    Numeral.read? (integerCharacters value) = some (writtenInteger value) := by
  have accepted (magnitude : Nat) : positional magnitude ≠ [] ∧
      ((positional magnitude).head? = some 0 → (positional magnitude).length = 1) :=
    ⟨positional_ne_nil magnitude, positional_leading_zero magnitude⟩
  cases value with
  | ofNat magnitude =>
    have digits : Numeral.digits (decimalDigits [] magnitude) = (positional magnitude, []) :=
      digits_of_number magnitude
    have unsigned : ∀ rest, decimalDigits [] magnitude ≠ '-' :: rest :=
      decimal_digits_unsigned magnitude
    rw [integerCharacters]
    generalize decimalDigits [] magnitude = characters at digits unsigned
    simpa [Numeral.read?, digits, Numeral.readFraction, Numeral.readExponent, writtenInteger]
      using accepted magnitude
  | negSucc magnitude =>
    simpa [integerCharacters, Numeral.read?, digits_of_number, Numeral.readFraction,
      Numeral.readExponent, writtenInteger] using accepted (magnitude + 1)

/-- Integers that 64 bits hold, with or without a sign. -/
def FitsWord (value : Int) : Prop :=
  -(Nat.pow 2 63 : Int) ≤ value ∧ value < (Nat.pow 2 64 : Int)

/-- A numeral of an integer within 64 bits means that integer. Beyond them it would be a floating
number. -/
theorem value_of_written_integer (value : Int) (fits : FitsWord value) :
    (writtenInteger value).value? = some (.integer value) := by
  obtain ⟨above, below⟩ := fits
  have half : Nat.pow 2 63 = 9223372036854775808 := by decide
  have whole : Nat.pow 2 64 = 18446744073709551616 := by decide
  cases value with
  | ofNat magnitude =>
    have bound : magnitude ≤ Numeral.countLimit := by
      have limit : Numeral.countLimit = 18446744073709551615 := by decide
      simp only [Int.ofNat_eq_natCast] at below
      omega
    simp [writtenInteger, Numeral.value?, of_digits_positional, bound]
  | negSucc magnitude =>
    have bound : magnitude + 1 ≤ Nat.pow 2 63 := by
      omega
    simp only [writtenInteger, Numeral.value?, of_digits_positional]
    simp [bound, Int.negSucc_eq]

end LiveTabs.Json
