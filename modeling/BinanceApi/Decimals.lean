import Mathlib
import BinanceApi.Cpp

/-!
# Printed decimals

What `std::stod` reads from the text that `std::to_string` prints: the number to six
digits after the point.  A number with no more digits than that is read back exactly.
-/

namespace BinanceApi

/-! ## Rounding -/

/-- Rounding does not go beyond a whole number. -/
theorem roundHalfEven_le {value : ℚ} {bound : Nat} (least : 0 ≤ value)
    (most : value ≤ bound) : roundHalfEven value ≤ bound := by
  have below : (value.floor.toNat : ℚ) ≤ value := by
    rw [← Int.cast_natCast, Int.toNat_of_nonneg (Rat.le_floor_iff.mpr least)]
    exact Rat.floor_le value
  have floorLe : value.floor.toNat ≤ bound := by exact_mod_cast below.trans most
  rcases floorLe.eq_or_lt with equal | less
  · have whole : value - value.floor.toNat < 1 / 2 := by
      rw [equal]
      linarith
    simp only [roundHalfEven, if_pos whole, floorLe]
  · simp only [roundHalfEven]
    split_ifs <;> omega

theorem roundHalfEven_natCast (value : Nat) : roundHalfEven (value : ℚ) = value := by
  have floor : ((value : ℚ).floor).toNat = value := by
    rw [← Int.cast_natCast, Rat.floor_intCast, Int.toNat_natCast]
  simp only [roundHalfEven, floor, sub_self]
  norm_num

namespace Double

/-- The number that is printed. -/
def printed (value : Double) : Double :=
  (if value < 0 then -1 else 1) * (roundHalfEven (|value| * 10 ^ 6) : ℚ) / 10 ^ 6

/-- A decimal with a number of digits after the point. -/
def IsDecimal (digits : Nat) (value : Double) : Prop :=
  ∃ scaled : Int, value * 10 ^ digits = scaled

instance (digits : Nat) (value : Double) : Decidable (IsDecimal digits value) :=
  decidable_of_iff ((value * 10 ^ digits).den = 1) (by
    constructor
    · intro whole
      exact ⟨(value * 10 ^ digits).num, (Rat.den_eq_one_iff _).mp whole |>.symm⟩
    · rintro ⟨scaled, scaledEq⟩
      rw [scaledEq]
      rfl)

theorem abs_eq_sign_mul (value : Double) :
    value = (if value < 0 then -1 else 1) * |value| := by
  split
  next negative => rw [abs_of_neg negative, neg_one_mul, neg_neg]
  next nonneg => rw [abs_of_nonneg (not_lt.mp nonneg), one_mul]

/-- Six digits are printed, and no more are needed for a decimal of six digits. -/
theorem printed_eq_self_iff (value : Double) : value.printed = value ↔ IsDecimal 6 value := by
  constructor
  · intro exact
    refine ⟨(if value < 0 then -1 else 1) * (roundHalfEven (|value| * 10 ^ 6) : Int), ?_⟩
    have scaled : value.printed * 10 ^ 6 =
        (if value < 0 then -1 else 1) * (roundHalfEven (|value| * 10 ^ 6) : ℚ) :=
      div_mul_cancel₀ _ (by norm_num)
    rw [exact] at scaled
    push_cast
    exact scaled
  · intro decimal
    rcases decimal with ⟨scaled, scaledEq⟩
    have magnitude : |value| * 10 ^ 6 = (scaled.natAbs : ℚ) := by
      rw [Nat.cast_natAbs, Int.cast_abs, ← scaledEq, abs_mul]
      norm_num
    rw [printed, magnitude, roundHalfEven_natCast, ← magnitude, ← mul_assoc,
      ← abs_eq_sign_mul, mul_div_cancel_right₀ _ (by norm_num)]

/-- The digits that are printed, as a number of millionths. -/
def millionths (value : Double) : Nat :=
  roundHalfEven (|value| * 10 ^ 6)

theorem printed_eq (value : Double) :
    value.printed = ((if value < 0 then -1 else 1 : Int) : ℚ) * (value.millionths / 10 ^ 6) := by
  rw [printed, millionths, mul_div_assoc]
  push_cast
  rfl

theorem abs_printed (value : Double) : |value.printed| = value.millionths / 10 ^ 6 := by
  have nonneg : (0 : ℚ) ≤ value.millionths / 10 ^ 6 := by positivity
  rw [printed_eq, abs_mul, abs_of_nonneg nonneg]
  split <;> norm_num

/-- What is printed is in the range of a `double` as well, whose ends are whole. -/
theorem abs_printed_le {value : Double} (inRange : |value| ≤ greatest) :
    |value.printed| ≤ greatest := by
  have whole : ∃ bound : Nat, greatest = bound :=
    ⟨(2 ^ 53 - 1) * 2 ^ 971, by decide +kernel⟩
  rcases whole with ⟨bound, equal⟩
  rw [equal] at inRange ⊢
  have rounded : value.millionths ≤ bound * 10 ^ 6 := by
    apply roundHalfEven_le (by positivity)
    push_cast
    linarith only [inRange]
  rw [abs_printed, div_le_iff₀ (by norm_num)]
  exact_mod_cast rounded

end Double

namespace AnyDouble

/-- What is printed of any value. -/
def printed : AnyDouble → AnyDouble
  | number value inRange => .number value.printed (Double.abs_printed_le inRange)
  | special => special

/-- A value that is written with so many digits after the point, as a decimal or without
any because it is no number. -/
def HasDigits (digits : Nat) : AnyDouble → Prop
  | number value _ => value.IsDecimal digits
  | infinity _ | nan _ => True

instance (digits : Nat) (value : AnyDouble) : Decidable (value.HasDigits digits) :=
  match value with
  | number value _ => inferInstanceAs (Decidable (value.IsDecimal digits))
  | infinity _ | nan _ => isTrue trivial

theorem printed_eq_self_iff (value : AnyDouble) :
    value.printed = value ↔ value.HasDigits 6 := by
  cases value with
  | number value inRange =>
      simp only [printed, number.injEq, HasDigits]
      exact value.printed_eq_self_iff
  | infinity negative | nan negative => exact iff_of_true rfl trivial

theorem ofDouble_eq {value : Double} (inRange : |value| ≤ Double.greatest) :
    ofDouble value = .number value inRange := by
  rcases abs_le.mp inRange with ⟨least, most⟩
  simp only [ofDouble, min_eq_right most, max_eq_right least]

end AnyDouble

/-! ## Reading digits -/

theorem spanDigits_append {digits rest : List Char}
    (all : ∀ char ∈ digits, char.isDigit = true)
    (stops : ∀ char ∈ rest.head?, char.isDigit = false) :
    spanDigits (digits ++ rest) =
      (digits.map fun digit => digit.toNat - '0'.toNat, rest) := by
  have restTake : rest.takeWhile Char.isDigit = [] := by
    cases rest with
    | nil => rfl
    | cons char others => simp [stops char rfl]
  have restDrop : rest.dropWhile Char.isDigit = rest := by
    cases rest with
    | nil => rfl
    | cons char others => simp [stops char rfl]
  rw [spanDigits, List.takeWhile_append_of_pos all, List.dropWhile_append_of_pos all,
    restTake, restDrop, List.append_nil]

theorem digitsValue_map (digits : List Char) :
    digitsValue 10 (digits.map fun digit => digit.toNat - '0'.toNat) =
      Nat.ofDigitChars 10 digits 0 := by
  rw [digitsValue, List.foldl_map, Nat.ofDigitChars_eq_foldl]

theorem isSpace_eq_false {char : Char} (visible : 32 < char.toNat) :
    isSpace char = false := by
  have notSpace : char ≠ ' ' := by
    rintro rfl
    exact absurd visible (by decide)
  simp only [isSpace, notSpace, false_or, decide_eq_false_iff_not]
  omega

theorem toNat_of_isDigit {char : Char} (digit : char.isDigit = true) :
    48 ≤ char.toNat ∧ char.toNat ≤ 57 := by
  simpa [Char.isDigit, UInt32.le_iff_toNat_le] using digit

theorem toLower_of_isDigit {char : Char} (digit : char.isDigit = true) :
    char.toLower = char := by
  have bounds := toNat_of_isDigit digit
  rw [Char.toLower, dif_neg]
  rintro ⟨upper, -⟩
  have least : 65 ≤ char.toNat := UInt32.le_iff_toNat_le.mp upper
  omega

theorem spanSign_of_isDigit {char : Char} (digit : char.isDigit = true)
    (rest : List Char) : spanSign (char :: rest) = (1, char :: rest) := by
  simp only [spanSign]
  split
  next equal =>
    cases equal
    exact absurd digit (by decide)
  next equal =>
    cases equal
    exact absurd digit (by decide)
  next => rfl

/-! ## Writing digits -/

/-- A number below `10 ^ width` in so many digits. -/
def paddedDigits (width value : Nat) : List Char :=
  List.replicate (width - (Nat.repr value).length) '0' ++ Nat.toDigits 10 value

theorem isDigit_toDigits {value : Nat} {char : Char}
    (member : char ∈ Nat.toDigits 10 value) : char.isDigit = true :=
  Nat.isDigit_of_mem_toDigits (by decide) (by decide) member

theorem isDigit_paddedDigits {width value : Nat} {char : Char}
    (member : char ∈ paddedDigits width value) : char.isDigit = true := by
  rcases List.mem_append.mp member with zeros | digits
  · rw [(List.mem_replicate.mp zeros).2]
    rfl
  · exact isDigit_toDigits digits

theorem length_paddedDigits {width value : Nat} (widthPos : 0 < width)
    (small : value < 10 ^ width) : (paddedDigits width value).length = width := by
  have fits := (Nat.length_repr_le_iff widthPos).mpr small
  have length : (Nat.toDigits 10 value).length = (Nat.repr value).length := by
    rw [← Nat.toList_repr, String.length_toList]
  rw [paddedDigits, List.length_append, List.length_replicate, length]
  omega

theorem ofDigitChars_paddedDigits (width value : Nat) :
    Nat.ofDigitChars 10 (paddedDigits width value) 0 = value := by
  rw [paddedDigits, Nat.ofDigitChars_append, Nat.ofDigitChars_replicate_zero, Nat.mul_zero,
    Nat.ofDigitChars_ten_toDigits]

namespace Double

/-- The text without its sign. -/
def unsignedText (value : Double) : List Char :=
  Nat.toDigits 10 (value.millionths / 10 ^ 6) ++
    '.' :: paddedDigits 6 (value.millionths % 10 ^ 6)

theorem toList_toString (value : Double) :
    value.toString.toList =
      (if value < 0 then ['-'] else []) ++ value.unsignedText := by
  simp only [Double.toString, unsignedText, millionths, paddedDigits, String.toList_append,
    String.toList_ofList, Nat.toList_repr]
  split <;> simp

theorem unsignedText_eq_cons (value : Double) :
    ∃ char rest, value.unsignedText = char :: rest ∧ char.isDigit = true := by
  rcases List.exists_cons_of_ne_nil (Nat.toDigits_ne_nil (n := value.millionths / 10 ^ 6)
    (b := 10)) with ⟨char, rest, digits⟩
  refine ⟨char, rest ++ '.' :: paddedDigits 6 (value.millionths % 10 ^ 6), ?_, ?_⟩
  · rw [unsignedText, digits, List.cons_append]
  · apply isDigit_toDigits
    rw [digits]
    exact List.mem_cons_self

/-- The text starts with a sign or a digit, so no white space is skipped. -/
theorem dropWhile_isSpace (value : Double) :
    value.toString.toList.dropWhile isSpace = value.toString.toList := by
  rcases value.unsignedText_eq_cons with ⟨char, rest, textEq, digit⟩
  have visible : isSpace char = false := by
    apply isSpace_eq_false
    have bounds := toNat_of_isDigit digit
    omega
  rw [toList_toString]
  split
  · exact List.dropWhile_cons_of_neg (by decide)
  · rw [textEq]
    exact List.dropWhile_cons_of_neg (by simp [visible])

theorem spanSign_toString (value : Double) :
    spanSign value.toString.toList = (if value < 0 then -1 else 1, value.unsignedText) := by
  rcases value.unsignedText_eq_cons with ⟨char, rest, textEq, digit⟩
  rw [toList_toString]
  split
  · rfl
  · rw [textEq]
    exact spanSign_of_isDigit digit rest

end Double

/-! ## Reading what was printed -/

namespace Double

/-- The digits of a number are neither a word nor hexadecimal. -/
theorem startsWith_unsignedText (value : Double) {letter : Char} (others : List Char)
    (isLetter : letter.isDigit = false) :
    startsWith (letter :: others) value.unsignedText = false := by
  rcases value.unsignedText_eq_cons with ⟨char, rest, textEq, digit⟩
  rw [textEq, startsWith, List.length_cons, List.take_succ_cons, List.map_cons,
    toLower_of_isDigit digit]
  have different : char ≠ letter := by
    rintro rfl
    rw [digit] at isLetter
    cases isLetter
  simp [different]

theorem magnitude?_unsignedText (value : Double) :
    magnitude? value.unsignedText = decimal? value.unsignedText := by
  rcases List.exists_cons_of_ne_nil (Nat.toDigits_ne_nil (n := value.millionths / 10 ^ 6)
    (b := 10)) with ⟨first, others, digits⟩
  have isDigit : ∀ char ∈ others, char.isDigit = true := by
    intro char member
    have printed : char ∈ Nat.toDigits 10 (value.millionths / 10 ^ 6) := by
      rw [digits]
      exact List.mem_cons_of_mem _ member
    exact isDigit_toDigits printed
  rw [unsignedText, digits, List.cons_append]
  unfold magnitude?
  split
  next letter rest same =>
      have notX : letter.toLower ≠ 'x' := by
        cases others with
        | nil =>
            cases (List.cons.inj same).2
            decide
        | cons second others =>
            have digit := isDigit second List.mem_cons_self
            cases (List.cons.inj same).2
            rw [toLower_of_isDigit digit]
            rintro rfl
            cases digit
      rw [if_neg notX]
  next => rfl

/-- Six of the digits stand behind the point. -/
theorem decimal?_unsignedText (value : Double) :
    decimal? value.unsignedText = some ((value.millionths : ℚ) / 10 ^ 6) := by
  have whole : spanDigits value.unsignedText =
      ((Nat.toDigits 10 (value.millionths / 10 ^ 6)).map fun digit =>
          digit.toNat - '0'.toNat,
        '.' :: paddedDigits 6 (value.millionths % 10 ^ 6)) :=
    spanDigits_append (fun _ => isDigit_toDigits) (by simp)
  have fraction : spanDigits (paddedDigits 6 (value.millionths % 10 ^ 6)) =
      ((paddedDigits 6 (value.millionths % 10 ^ 6)).map fun digit =>
        digit.toNat - '0'.toNat, []) := by
    have split : spanDigits (paddedDigits 6 (value.millionths % 10 ^ 6) ++ []) = _ :=
      spanDigits_append (fun _ => isDigit_paddedDigits) (by simp)
    rwa [List.append_nil] at split
  have length : (paddedDigits 6 (value.millionths % 10 ^ 6)).length = 6 :=
    length_paddedDigits (by decide) (Nat.mod_lt _ (by decide))
  have digits : digitsValue 10
      ((Nat.toDigits 10 (value.millionths / 10 ^ 6)).map (fun digit =>
          digit.toNat - '0'.toNat) ++
        (paddedDigits 6 (value.millionths % 10 ^ 6)).map fun digit =>
          digit.toNat - '0'.toNat) = value.millionths := by
    rw [← List.map_append, digitsValue_map, Nat.ofDigitChars_append,
      Nat.ofDigitChars_eq_ofDigitChars_zero, length, ofDigitChars_paddedDigits,
      Nat.ofDigitChars_ten_toDigits]
    exact Nat.div_add_mod _ _
  simp only [decimal?, numeral?, whole, fraction, digits, List.map_eq_nil_iff,
    Nat.toDigits_ne_nil, false_and, if_false, List.length_map, length, exponentValue]
  norm_num [div_eq_mul_inv]

/-- A millionth is a normal number. -/
theorem not_underflows_millionths (count : Nat) : ¬Underflows (count / 10 ^ 6) := by
  rintro ⟨small, inexact⟩
  cases count with
  | zero => exact inexact (by norm_num)
  | succ count =>
      have least : (1 / 10 ^ 6 : ℚ) ≤ ((count + 1 : Nat) : ℚ) / 10 ^ 6 := by
        gcongr
        exact_mod_cast Nat.succ_le_succ (Nat.zero_le count)
      have normal : (2 : ℚ) ^ (-1022 : Int) - 2 ^ (-1076 : Int) < 1 / 10 ^ 6 := by
        decide +kernel
      exact absurd (small.trans normal) (not_lt.mpr least)

end Double

/-- What is printed is what is read. -/
theorem stod_toString (value : AnyDouble) : stod value.toString = .ok value.printed := by
  cases value with
  | number value inRange =>
      have small : ¬(Double.overflow ≤ (value.millionths / 10 ^ 6 : ℚ) ∨
          Double.Underflows (value.millionths / 10 ^ 6)) := by
        have range := Double.abs_printed_le inRange
        rw [value.abs_printed] at range
        have fits : Double.greatest < Double.overflow := by decide +kernel
        exact not_or.mpr ⟨not_le.mpr (range.trans_lt fits),
          Double.not_underflows_millionths _⟩
      simp only [AnyDouble.toString, stod, value.dropWhile_isSpace, value.spanSign_toString,
        value.startsWith_unsignedText _ (by decide : 'i'.isDigit = false),
        value.startsWith_unsignedText _ (by decide : 'n'.isDigit = false),
        value.magnitude?_unsignedText, value.decimal?_unsignedText, if_neg small]
      rw [← value.printed_eq, AnyDouble.ofDouble_eq (Double.abs_printed_le inRange)]
      rfl
  | infinity negative => cases negative <;> decide +kernel
  | nan negative => cases negative <;> decide +kernel

end BinanceApi
