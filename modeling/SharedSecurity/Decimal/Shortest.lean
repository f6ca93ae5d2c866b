/-!
# Numbers as doubles

Metrics are written as double-precision numbers.  A natural number past `2 ^ 53` is first rounded
to the nearest double, and a double is written with the fewest digits that read back as the same
double, filled up with zeros and never with an exponent.

* `Decimal.nearestDouble` — the nearest double to a natural number, of two the one with an even
  significand.
* `Decimal.shortest` — among the numbers that round to the same double, the one with the most
  zeros at its end; of two such neighbours the nearer, and in a tie the greater.
-/

set_option autoImplicit false
namespace SharedSecurity
namespace Decimal

/-- The nearest number to `n` that has a significand of 53 bits; a tie goes to the even
significand. -/
def nearestDouble (n : Nat) : Nat :=
  let unit := Nat.pow 2 (n.log2 - 52)
  let significand := n / unit
  let excess := 2 * (n % unit)
  if unit < excess ∨ (excess = unit ∧ significand % 2 = 1) then (significand + 1) * unit
  else significand * unit

/-- The neighbour of `double` among the multiples of `unit` that rounds to `double`, if there is
one. -/
def onGrid? (double unit : Nat) : Option Nat :=
  let low := double / unit * unit
  let high := low + unit
  match nearestDouble low == double, nearestDouble high == double with
  | false, false => none
  | true, false => some low
  | false, true => some high
  | true, true => some (if double - low < high - double then low else high)

/-- The number with the most zeros at its end that rounds to the double nearest to `n`. -/
def shortest (n : Nat) : Nat :=
  let double := nearestDouble n
  let zeros := (List.range ((Nat.toDigits 10 double).length + 1)).reverse
  (zeros.findSome? fun count => onGrid? double (Nat.pow 10 count)).getD double

/-- The text of `n` as a double. -/
def doubleText (n : Nat) : String := String.ofList (Nat.toDigits 10 (shortest n))

end Decimal
end SharedSecurity
