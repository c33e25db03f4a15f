import Mathlib.Data.Rat.Floor

/-!
# C++ computations

Exceptions, undefined behaviour and the numeric conversions of the standard
library that the client calls.  A `double` that is a number is the rational number it
denotes, so conversions to and from text are exact up to the digits they print.
-/

namespace BinanceApi

/-- An exception object derived from `std::exception`.  Handlers of the client
tell only the exceptions of the JSON library apart from the rest. -/
inductive Exception where
  | json (what : String)
  | standard (what : String)
  deriving DecidableEq, Repr

/-- How an evaluation can fail to produce a value. -/
inductive Fault where
  | raised (exception : Exception)
  | undefined (what : String)
  deriving DecidableEq, Repr

/-- A computation that returns or throws. -/
abbrev Throws (α : Type) := Except Exception α

/-- A computation that returns, throws, or has undefined behaviour. -/
abbrev Evaluates (α : Type) := Except Fault α

/-- A throwing computation inside one that may also be undefined. -/
def Throws.lift {α : Type} : Throws α → Evaluates α
  | .ok value => .ok value
  | .error exception => .error (.raised exception)

@[simp] theorem Throws.lift_ok {α : Type} (value : α) :
    Throws.lift (.ok value) = .ok value := rfl

@[simp] theorem Throws.lift_error {α : Type} (exception : Exception) :
    Throws.lift (.error exception : Throws α) = .error (.raised exception) := rfl

/-- Only a returning computation lifts to one that returns. -/
theorem Throws.lift_eq_ok_iff {α : Type} {computation : Throws α} {value : α} :
    computation.lift = .ok value ↔ computation = .ok value := by
  cases computation <;> simp

theorem ok_bind {ε α β : Type} (value : α) (next : α → Except ε β) :
    (Except.ok value >>= next) = next value :=
  rfl

theorem error_bind {ε α β : Type} (fault : ε) (next : α → Except ε β) :
    (Except.error fault >>= next) = .error fault :=
  rfl

/-- A sequence of computations returns only if its first one does. -/
theorem exists_of_bind_ok {ε α β : Type} {computation : Except ε α}
    {next : α → Except ε β} {result : β} (returns : computation >>= next = .ok result) :
    ∃ value, computation = .ok value ∧ next value = .ok result := by
  cases computation with
  | error fault => cases returns
  | ok value => exact ⟨value, rfl, returns⟩

/-- Reading back a list that was written element by element. -/
theorem mapM_map_ok {ε α β : Type} {decode : β → Except ε α} {encode : α → β}
    {values : List α}
    (decodes : ∀ value ∈ values, decode (encode value) = .ok value) :
    (values.map encode).mapM decode = .ok values := by
  induction values with
  | nil => rfl
  | cons value rest ih =>
      have restDecodes := ih fun other membership =>
        decodes other (List.mem_cons_of_mem value membership)
      rw [List.map_cons, List.mapM_cons, decodes value List.mem_cons_self, restDecodes]
      rfl

/-- The value of a `double` that is a number. -/
abbrev Double := ℚ

/-- Nearest natural number to a nonnegative rational, ties to even. -/
def roundHalfEven (value : ℚ) : Nat :=
  let floor := value.floor.toNat
  let rest := value - floor
  if rest < 1 / 2 then floor
  else if 1 / 2 < rest then floor + 1
  else if floor % 2 = 0 then floor else floor + 1

/-- `std::to_string(double)`: the `%f` form, six digits after the point. -/
def Double.toString (value : Double) : String :=
  let scaled := roundHalfEven (|value| * 10 ^ 6)
  let fraction := Nat.repr (scaled % 10 ^ 6)
  (if value < 0 then "-" else "") ++ Nat.repr (scaled / 10 ^ 6) ++ "." ++
    String.ofList (List.replicate (6 - fraction.length) '0') ++ fraction

/-! ## Values that are no numbers -/

/-- The greatest number that a `double` can have. -/
def Double.greatest : Double :=
  (2 ^ 53 - 1) * 2 ^ 971

/-- The least magnitude that is rounded to infinity. -/
def Double.overflow : Double :=
  2 ^ 1024 - 2 ^ 970

/-- A magnitude that is rounded to a subnormal number or to zero, and changed by it. -/
def Double.Underflows (magnitude : Double) : Prop :=
  magnitude < 2 ^ (-1022 : Int) - 2 ^ (-1076 : Int) ∧ (magnitude * 2 ^ 1074).den ≠ 1

instance (magnitude : Double) : Decidable magnitude.Underflows :=
  inferInstanceAs (Decidable (_ ∧ _))

/-- Any value of a `double`: a number in its range, an infinity or a NaN. -/
inductive AnyDouble where
  | number (value : Double) (inRange : |value| ≤ Double.greatest)
  | infinity (negative : Bool)
  | nan (negative : Bool)
  deriving DecidableEq, Repr

/-- The number, or the end of the range if it is beyond that. -/
def AnyDouble.ofDouble (value : Double) : AnyDouble :=
  .number (max (-Double.greatest) (min Double.greatest value))
    (abs_le.mpr ⟨le_max_left _ _, max_le (by decide +kernel) (min_le_left _ _)⟩)

/-- `std::to_string(double)` of any value. -/
def AnyDouble.toString : AnyDouble → String
  | number value _ => value.toString
  | infinity negative => if negative then "-inf" else "inf"
  | nan negative => if negative then "-nan" else "nan"

/-! ## Numbers in texts -/

/-- Longest prefix of decimal digits, as the digits and the remaining text. -/
def spanDigits (text : List Char) : List Nat × List Char :=
  ((text.takeWhile Char.isDigit).map fun digit => digit.toNat - '0'.toNat,
    text.dropWhile Char.isDigit)

/-- A hexadecimal digit in either case. -/
def isHexDigit (char : Char) : Bool :=
  char.isDigit ∨ 'a' ≤ char.toLower ∧ char.toLower ≤ 'f'

def hexDigitValue (char : Char) : Nat :=
  if char.isDigit then char.toNat - '0'.toNat else char.toLower.toNat - 'a'.toNat + 10

/-- Longest prefix of hexadecimal digits. -/
def spanHexDigits (text : List Char) : List Nat × List Char :=
  ((text.takeWhile isHexDigit).map hexDigitValue, text.dropWhile isHexDigit)

/-- Value of a digit string, most significant digit first. -/
def digitsValue (base : Nat) (digits : List Nat) : Nat :=
  digits.foldl (fun value digit => base * value + digit) 0

/-- An optional sign, as its factor and the remaining text. -/
def spanSign : List Char → Int × List Char
  | '-' :: rest => (-1, rest)
  | '+' :: rest => (1, rest)
  | rest => (1, rest)

/-- `std::isspace` in the C locale. -/
def isSpace (char : Char) : Bool :=
  char = ' ' ∨ 9 ≤ char.toNat ∧ char.toNat ≤ 13

/-- The exponent part of a number, in decimal digits behind a letter of either case.  A
letter without digits after it does not belong to the number. -/
def exponentValue (letter : Char) : List Char → Int
  | marker :: rest =>
      if marker.toLower = letter then
        let (sign, digits) := spanSign rest
        sign * digitsValue 10 (spanDigits digits).1
      else 0
  | [] => 0

/-- The number at the start of a text: digits of a base with an optional fraction and
exponent.  The exponent is one of `radix`, and a digit is worth `scale` of it. -/
def numeral? (span : List Char → List Nat × List Char) (base : Nat) (letter : Char)
    (radix scale : Nat) (text : List Char) : Option Double :=
  let (whole, afterWhole) := span text
  let (fraction, afterFraction) :=
    match afterWhole with
    | '.' :: rest => span rest
    | rest => ([], rest)
  if whole = [] ∧ fraction = [] then none
  else
    some ((digitsValue base (whole ++ fraction) : ℚ) *
      (radix : ℚ) ^ (exponentValue letter afterFraction - scale * fraction.length))

def decimal? : List Char → Option Double :=
  numeral? spanDigits 10 'e' 10 1

def hexadecimal? : List Char → Option Double :=
  numeral? spanHexDigits 16 'p' 2 4

/-- The number without a sign at the start of a text.  Without digits behind it, `0x` is
a zero and a letter that does not belong to it. -/
def magnitude? (text : List Char) : Option Double :=
  match text with
  | '0' :: letter :: rest =>
      if letter.toLower = 'x' then some ((hexadecimal? rest).getD 0) else decimal? text
  | _ => decimal? text

/-- A text that starts with a word, in whatever case. -/
def startsWith (word : List Char) (text : List Char) : Bool :=
  (text.take word.length).map Char.toLower = word

/-- `std::stod`: leading white space, a sign, and a number or the name of an infinity or
of a NaN; what follows is ignored.  It throws where `std::strtod` converts nothing or
sets `errno` to `ERANGE`, which the GNU C library does on overflow and when an inexact
result is subnormal or zero. -/
def stod (text : String) : Throws AnyDouble :=
  let (sign, unsigned) := spanSign (text.toList.dropWhile isSpace)
  if startsWith ['i', 'n', 'f'] unsigned then .ok (.infinity (sign < 0))
  else if startsWith ['n', 'a', 'n'] unsigned then .ok (.nan (sign < 0))
  else
    match magnitude? unsigned with
    | none => .error (.standard "stod")
    | some magnitude =>
        if Double.overflow ≤ magnitude ∨ magnitude.Underflows then
          .error (.standard "stod")
        else .ok (.ofDouble (sign * magnitude))

/-- `std::stoi`: leading white space, a sign and digits, within the range of an `int`;
what follows the number is ignored. -/
def stoi (text : String) : Throws Int :=
  let (sign, unsigned) := spanSign (text.toList.dropWhile isSpace)
  let (digits, _) := spanDigits unsigned
  let value := sign * digitsValue 10 digits
  if digits = [] ∨ value < -2 ^ 31 ∨ 2 ^ 31 ≤ value then .error (.standard "stoi")
  else .ok value

example : stod " -12.50x" = .ok (.ofDouble (-25 / 2)) := by decide +kernel

example : stod "-0X1.8p1" = .ok (.ofDouble (-3)) := by decide +kernel

example : stod "-Infinity" = .ok (.infinity true) := by decide +kernel

example : stod "1e400" = .error (.standard "stod") := by decide +kernel

example : Double.toString (-25 / 2) = "-12.500000" := by decide +kernel

end BinanceApi
