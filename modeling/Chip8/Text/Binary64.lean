import Chip8.Text.Literal

/-!
Decimals and the binary floating-point numbers of 64 bits nearest to them. A decimal is read as an
exact quotient and rounded once, to 53 significant bits and a tie to the even neighbour. A number
beyond the range has no neighbour; one close to zero becomes zero where only whole numbers matter.
-/

namespace Chip8

/-- A decimal `± mantissa · 10 ^ exponent`. -/
structure Decimal where
  negative : Bool
  mantissa : Nat
  exponent : Int
  deriving DecidableEq, Repr

namespace Decimal

def digitsValue (t : Bytes) : Nat := t.foldl (fun n b => n * 10 + (b.toNat - 0x30)) 0

/-- The exponent written behind the digits, if there is nothing else. -/
def exponent? (t : Bytes) : Option Int :=
  match t with
  | [] => some 0
  | e :: rest =>
    if Literal.lower e ≠ 0x65 then none
    else
      let (negative, digits) := Literal.sign rest
      if digits.isEmpty || !digits.all Numeral.isDigit then none
      else some (if negative then -(digitsValue digits : Int) else digitsValue digits)

/-- The decimal a text spells: digits with at most one point, of which at least one stands before it
or directly behind it, and an optional exponent. -/
def read? (t : Bytes) : Option Decimal :=
  let (negative, body) := Literal.sign t
  let (whole, rest) := body.span Numeral.isDigit
  let (fraction, tail) :=
    match rest with
    | 0x2E :: after => after.span Numeral.isDigit
    | _ => ([], rest)
  if whole.isEmpty && fraction.isEmpty then none
  else
    (exponent? tail).map fun e =>
      ⟨negative, digitsValue (whole ++ fraction), e - fraction.length⟩

end Decimal

/-- A binary floating-point number of 64 bits. A finite one is `± mantissa · 2 ^ exponent`. -/
inductive Binary64 where
  | finite (negative : Bool) (mantissa : Nat) (exponent : Int)
  | infinite (negative : Bool)
  | nan
  deriving DecidableEq, Repr

namespace Binary64

/-- The quotient rounded to the nearest whole number, a tie to the even one. -/
def roundDiv (num den : Nat) : Nat :=
  let q := num / den
  let r := num % den
  if 2 * r < den then q else if 2 * r > den then q + 1 else q + q % 2

/-- `num / den · 2 ^ (-e)` as a quotient. -/
def scaled (num den : Nat) (e : Int) : Nat × Nat :=
  if e ≥ 0 then (num, den * Nat.pow 2 e.toNat) else (num * Nat.pow 2 (-e).toNat, den)

/-- The exponent at which the positive quotient `num / den` has 53 bits before the point. -/
def exponentOf (num den : Nat) : Int :=
  let e : Int := (Nat.log2 num : Int) - Nat.log2 den - 52
  let (n, d) := scaled num den e
  max (-1074) (if n / d < Nat.pow 2 52 then e - 1 else e)

/-- Mantissa and exponent of the number nearest to the positive quotient `num / den`. -/
def nearest (num den : Nat) : Nat × Int :=
  let e := exponentOf num den
  let (n, d) := scaled num den e
  (roundDiv n d, e)

/-- How many powers of ten lie between the smallest and the largest magnitude and one. -/
def decimalReach : Int := 400

/-- The number nearest to a decimal, unless that is out of range. -/
def ofDecimal? (x : Decimal) : Option Binary64 :=
  let size : Int := (Numeral.decimal x.mantissa).length + x.exponent
  if x.mantissa = 0 ∨ size < -decimalReach then some (.finite x.negative 0 0)
  else if size > decimalReach then none
  else
    let (m, e) :=
      if x.exponent ≥ 0 then nearest (x.mantissa * Nat.pow 10 x.exponent.toNat) 1
      else nearest x.mantissa (Nat.pow 10 (-x.exponent).toNat)
    if e ≥ 0 ∧ m * Nat.pow 2 e.toNat ≥ Nat.pow 2 1024 then none else some (.finite x.negative m e)

/-- The whole number towards zero of a finite number. -/
def truncated (negative : Bool) (mantissa : Nat) (exponent : Int) : Int :=
  let n :=
    if exponent ≥ 0 then mantissa * Nat.pow 2 exponent.toNat else mantissa / Nat.pow 2 (-exponent).toNat
  if negative then -(n : Int) else n

/-- The least number above the signed words of 64 bits. -/
def pastInt64 : Int := Nat.pow 2 63

/-- The number cut to a signed word of 64 bits. One above `2 ^ 63` has none; one that the word does
not hold, `2 ^ 63` itself included, gives the least word. -/
def toInt64? : Binary64 → Option Int
  | finite negative m e =>
    let n := truncated negative m e
    if n > pastInt64 then none
    else if n < -pastInt64 ∨ n = pastInt64 then some (-pastInt64)
    else some n
  | infinite negative => if negative then some (-pastInt64) else none
  | nan => none

/-- The number cut to an unsigned word of 16 bits, if it fits. -/
def toUInt16? : Binary64 → Option UInt16
  | finite negative m e =>
    let n := truncated negative m e
    if 0 ≤ n ∧ n < 65536 then some n.toNat.toUInt16 else none
  | infinite _ | nan => none

end Binary64

end Chip8
