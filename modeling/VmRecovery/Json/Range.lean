import VmRecovery.Json.Value

/-!
# The range of numbers

A number that is kept for later is kept in double precision, and it has to be finite there. The
approximation rounds twice: the leading digits that fit into 64 bits become one double, the power
of ten behind them another, and the two are multiplied. So it depends on the digits as they were
written whether a number close to the limit is in range: a longer numeral of a smaller number may
be out of range, and a shorter one of a larger number within it.
-/

namespace VmRecovery.Json

/-- A number rounded to the 53 bits of a double. Of two doubles that are equally near, the one
with the even last bit is taken. -/
def roundToDouble (number : Nat) : Nat :=
  let unit := Nat.pow 2 (number.log2 - 52)
  let below := number / unit
  let rest := number % unit
  if 2 * rest < unit || (2 * rest == unit && below % 2 == 0) then below * unit
  else (below + 1) * unit

/-- The least number that is too large for a double. -/
def doubleLimit : Nat := Nat.pow 2 1024

/-- The largest power of ten that a double holds. -/
def maxPowerOfTen : Nat := 308

namespace Numeral

/-- The leading digits of a number that fit into 64 bits, and how many digits follow them. -/
def leadingDigits (number : Nat) : Nat × Nat :=
  if number < UInt64.size then (number, 0)
  else
    let (leading, dropped) := leadingDigits (number / 10)
    (leading, dropped + 1)
termination_by number
decreasing_by
  rename_i large
  exact Nat.div_lt_self (Nat.lt_of_lt_of_le (by decide) (Nat.le_of_not_lt large)) (by decide)

/-- Appends digits as long as the number fits into 64 bits, and counts them. -/
def appendDigits (number : Nat) : List Nat → Nat × Nat
  | [] => (number, 0)
  | digit :: rest =>
      if number * 10 + digit < UInt64.size then
        let (longer, appended) := appendDigits (number * 10 + digit) rest
        (longer, appended + 1)
      else (number, 0)

/-- The digits before the point, read as one number. -/
def whole (numeral : Numeral) : Nat :=
  numeral.digits / Nat.pow 10 numeral.places

/-- The digits after the point, from the first on. -/
def placeDigits (numeral : Numeral) : List Nat :=
  (List.range numeral.places).reverse.map fun place => numeral.digits / Nat.pow 10 place % 10

/-- The digits that count towards the approximation, and the power of ten behind them. Digits
after the point are appended even if digits before it were dropped. -/
def significant (numeral : Numeral) : Nat × Int :=
  let (leading, dropped) := leadingDigits numeral.whole
  let (digits, appended) := appendDigits leading numeral.placeDigits
  (digits, numeral.exponent.getD 0 + dropped - appended)

/-- Whether the approximation is finite. A number without significant digits is zero whatever
its power of ten, and one that is divided by a power of ten cannot exceed the limit. -/
def isFinite (numeral : Numeral) : Bool :=
  let (digits, power) := numeral.significant
  if digits == 0 || power < 0 then true
  else if power > maxPowerOfTen then false
  else
    roundToDouble (roundToDouble digits * roundToDouble (Nat.pow 10 power.toNat)) < doubleLimit

end Numeral

end VmRecovery.Json
