/-!
# Numbers of 64 bits

Sizes, offsets and sector numbers are natural numbers that have to stay below
`2 ^ 64`.  What is modelled is a build that checks its arithmetic for overflow:
the operations of this module give no value when the exact result does not fit,
and a computation that meets such a result stops with a fault.  A build without
these checks would go on with the result modulo `2 ^ 64`, and what the theorems
call a fault would be a wrong number there.

Messages write numbers in decimal, or in hexadecimal or octal with a `0x` or
`0o` in front and, where a column is kept, zeroes after it.  Widths count the
whole numeral, the two leading characters included.
-/

set_option autoImplicit false

namespace TrustBoundary

namespace Word

/-- The first number that does not fit. -/
def limit : Nat := 0x10000000000000000

/-- The first number that does not fit when one bit is taken by the sign. -/
def signedLimit : Nat := 0x8000000000000000

/-- The greatest number that fits. -/
def greatest : Nat := limit - 1

/-- A number, if it fits. -/
def fit (number : Nat) : Option Nat := if number < limit then some number else none

/-- A sum, if it fits. -/
def add (left right : Nat) : Option Nat := fit (left + right)

/-- A product, if it fits. -/
def mul (left right : Nat) : Option Nat := fit (left * right)

/-- A difference, if it is not negative. -/
def sub (left right : Nat) : Option Nat := if right ≤ left then some (left - right) else none

/-! ## When there is a value -/

theorem fit_eq_some_iff {number result : Nat} :
    fit number = some result ↔ number < limit ∧ number = result := by
  by_cases small : number < limit <;> simp [fit, small]

theorem signedLimit_lt_limit : signedLimit < limit := by decide

theorem add_eq_some_iff {left right result : Nat} :
    add left right = some result ↔ left + right < limit ∧ left + right = result := fit_eq_some_iff

theorem mul_eq_some_iff {left right result : Nat} :
    mul left right = some result ↔ left * right < limit ∧ left * right = result := fit_eq_some_iff

theorem mul_eq_none_iff {left right : Nat} : mul left right = none ↔ limit ≤ left * right := by
  by_cases small : left * right < limit <;> simp [mul, fit, small]
  omega

theorem sub_eq_some_iff {left right result : Nat} :
    sub left right = some result ↔ right ≤ left ∧ left - right = result := by
  by_cases enough : right ≤ left <;> simp [sub, enough]

end Word

/-! ## Numerals in messages -/

namespace Numeral

/-- The digits of a number in a base up to sixteen, with zeroes in front up to `width`. -/
def padded (base width number : Nat) : String :=
  String.ofList ((Nat.toDigits base number).leftpad width '0')

/-- Hexadecimal with a leading `0x`. -/
def hex (number : Nat) : String := "0x" ++ padded 16 0 number

/-- Hexadecimal with a leading `0x`, at least `width` characters in all. -/
def hexWide (width number : Nat) : String := "0x" ++ padded 16 (width - 2) number

/-- Hexadecimal digits in upper case, at least `width` of them, with nothing in front. -/
def upperHex (width number : Nat) : String := (padded 16 width number).toUpper

/-- Octal with a leading `0o`. -/
def octal (number : Nat) : String := "0o" ++ padded 8 0 number

end Numeral

end TrustBoundary
