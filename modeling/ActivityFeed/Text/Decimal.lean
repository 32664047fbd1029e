/-!
# Whole numbers in decimal

Writing numbers in decimal, and reading them with the exact cause of a failure.

* `ActivityFeed.Text.digits` – the decimal digits of a natural number, no more than needed;
* `ActivityFeed.Text.padded` – the same with zeros in front up to a given width;
* `ActivityFeed.Text.signed` – the text of an integer;
* `ActivityFeed.Text.readInteger` – reads an optional sign and ASCII digits into a bounded range.

A reader goes through the text from the left and stops at the first problem, so a text with two
faults is reported by the one that stands first. A number is too large (or too small) at the digit
that takes it out of its range, and never wraps around.
-/

namespace ActivityFeed

namespace Text

/-! ### Writing -/

/-- The decimal digits of a number, the most significant first; zero is one digit. -/
def digits (n : Nat) : List Char := Nat.toDigits 10 n

/-- The digits of a number with zeros in front, at least `width` characters. -/
def padded (width n : Nat) : List Char :=
  List.replicate (width - (digits n).length) '0' ++ digits n

/-- The decimal text of an integer: a minus sign for a negative one, no sign otherwise. -/
def signed (n : Int) : List Char :=
  if n < 0 then '-' :: digits n.natAbs else digits n.natAbs

/-! ### Reading -/

/-- The value of an ASCII decimal digit. -/
def digitValue? (c : Char) : Option Nat :=
  if c.isDigit then some (c.toNat - '0'.toNat) else none

/-- Why a text is not a number of the wanted range. -/
inductive IntegerFault where
  /-- There is nothing to read. -/
  | empty
  /-- A character is not a digit, or a sign stands alone. -/
  | invalidDigit
  /-- The number lies above the range. -/
  | tooLarge
  /-- The number lies below the range. -/
  | tooSmall
  deriving DecidableEq, Repr

/-- The wording of a fault. -/
def IntegerFault.message : IntegerFault → String
  | .empty => "cannot parse integer from empty string"
  | .invalidDigit => "invalid digit found in string"
  | .tooLarge => "number too large to fit in target type"
  | .tooSmall => "number too small to fit in target type"

/-- A range of integers around zero. Where nothing lies below zero, a minus sign is not read. -/
structure IntegerRange where
  /-- The largest magnitude of a negative number, if there are any. -/
  below : Option Nat
  /-- The largest number. -/
  above : Nat
  deriving DecidableEq, Repr

/-- The signed 64-bit integers. -/
def IntegerRange.signed64 : IntegerRange := ⟨some 9223372036854775808, 9223372036854775807⟩

/-- The unsigned 64-bit integers. -/
def IntegerRange.unsigned64 : IntegerRange := ⟨none, 18446744073709551615⟩

/-- A number belongs to the range. -/
def IntegerRange.Holds (r : IntegerRange) (n : Int) : Prop :=
  -((r.below.getD 0 : Nat) : Int) ≤ n ∧ n ≤ (r.above : Int)

instance (r : IntegerRange) (n : Int) : Decidable (r.Holds n) :=
  inferInstanceAs (Decidable (_ ∧ _))

/-- Reads digits on top of the value `acc` of those already read; a value above `bound` is reported
as `beyond`. -/
def readDigits (bound : Nat) (beyond : IntegerFault) : Nat → List Char → Except IntegerFault Nat
  | acc, [] => .ok acc
  | acc, c :: cs =>
    match digitValue? c with
    | none => .error .invalidDigit
    | some d =>
      if 10 * acc + d ≤ bound then readDigits bound beyond (10 * acc + d) cs else .error beyond

/-- Reads one or more digits. -/
def readMagnitude (bound : Nat) (beyond : IntegerFault) : List Char → Except IntegerFault Nat
  | [] => .error .invalidDigit
  | c :: cs => readDigits bound beyond 0 (c :: cs)

/-- Reads an integer of the range: an optional sign, then one or more digits and nothing else. -/
def readInteger (r : IntegerRange) : List Char → Except IntegerFault Int
  | [] => .error .empty
  | c :: cs =>
    if c = '+' then (readMagnitude r.above .tooLarge cs).map fun n => (n : Int)
    else
      match c, r.below with
      | '-', some b => (readMagnitude b .tooSmall cs).map fun n => -(n : Int)
      | _, _ => (readMagnitude r.above .tooLarge (c :: cs)).map fun n => (n : Int)

example : readInteger .signed64 "-9223372036854775808".toList = .ok (-9223372036854775808) := by rfl

example : readInteger .signed64 "9223372036854775808".toList = .error .tooLarge := by rfl

example : readInteger .unsigned64 "-5".toList = .error .invalidDigit := by rfl

end Text

end ActivityFeed
