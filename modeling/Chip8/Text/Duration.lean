import Chip8.Text.Numeral

/-!
Durations in nanoseconds, written and read with units. A duration below a second is written in the
largest of ns, µs and ms that leaves a digit before the point; any other has hours and minutes as
far as they are needed, and seconds. Zeros at the end of a fraction are not written.

Read is a sign and then any number of decimals with a unit each, or a bare 0. A fraction is rounded
as binary floating point rounds it and cut to whole nanoseconds. The sum is taken in 64 bits, and one
above the largest magnitude is no duration.
-/

namespace Chip8.Duration

/-- The digits behind the point of `n / 10 ^ places`, without zeros at the end. -/
def fraction (places n : Nat) : Bytes :=
  let digits := Bytes.padLeft places 0x30 (Numeral.decimal n)
  let shown := (digits.reverse.dropWhile (· = 0x30)).reverse
  if shown.isEmpty then [] else text "." ++ shown

/-- `n / 10 ^ places` in decimal. -/
def decimalPlaces (places n : Nat) : Bytes :=
  Numeral.decimal (n / Nat.pow 10 places) ++ fraction places (n % Nat.pow 10 places)

/-- A natural number of nanoseconds. -/
def unsigned (n : Nat) : Bytes :=
  if n = 0 then text "0s"
  else if n < 1000 then Numeral.decimal n ++ text "ns"
  else if n < 1000000 then decimalPlaces 3 n ++ text "µs"
  else if n < 1000000000 then decimalPlaces 6 n ++ text "ms"
  else
    let seconds := n / 1000000000
    let minutes := seconds / 60
    let hours := minutes / 60
    (if hours > 0 then Numeral.decimal hours ++ text "h" else []) ++
    (if minutes > 0 then Numeral.decimal (minutes % 60) ++ text "m" else []) ++
    decimalPlaces 9 (n % 60000000000) ++ text "s"

def shown : Int → Bytes
  | .ofNat n => unsigned n
  | .negSucc n => text "-" ++ unsigned (n + 1)

/-! ### Reading -/

/-- The nanoseconds of a unit. Micro may be spelled with the micro sign or the Greek letter. -/
def unit? (word : Bytes) : Option Nat :=
  [(text "ns", 1), (text "us", 1000), (text "µs", 1000), (text "μs", 1000), (text "ms", 1000000),
   (text "s", 1000000000), (text "m", 60000000000), (text "h", 3600000000000)].lookup word

def limit : Nat := Nat.pow 2 63

/-- A whole number, unless it exceeds the largest magnitude. -/
def whole? (digits : Bytes) : Option Nat :=
  (digits.foldl (fun n b => n * 10 + (b.toNat - 0x30)) 0 |> some).filter (· ≤ limit)

/-- The digits behind a point as a number and how many of them it has. Digits that would make the
number too large are dropped. -/
def fractionDigits (digits : Bytes) : Nat × Nat :=
  let step := fun (acc : Nat × Nat × Bool) (b : UInt8) =>
    match acc with
    | (n, count, full) =>
      let next := n * 10 + (b.toNat - 0x30)
      if full || n > (limit - 1) / 10 || next > limit then (n, count, true) else (next, count + 1, false)
  match digits.foldl step (0, 0, false) with
  | (n, count, _) => (n, count)

/-- Ten to a power, rounded at each multiplication. It is infinite from the power 309 on. -/
def scale : Nat → Float
  | 0 => 1
  | count + 1 => scale count * 10

/-- The whole nanoseconds of the fraction `n / 10 ^ count` of a unit. The scale is not limited to 64
bits, so a fraction with many zeros in front of its first other digit comes to nothing. -/
def fractionOf (n count unit : Nat) : Nat :=
  (n.toUInt64.toFloat * (unit.toUInt64.toFloat / scale count)).toUInt64.toNat

/-- The first decimal with its unit, in nanoseconds, and the rest. -/
def item? (t : Bytes) : Option (Nat × Bytes) := do
  let (wholeDigits, rest) := t.span Numeral.isDigit
  let n ← whole? wholeDigits
  let (fracDigits, rest) :=
    match rest with
    | 0x2E :: after => after.span Numeral.isDigit
    | _ => ([], rest)
  if wholeDigits.isEmpty && fracDigits.isEmpty then none
  let (word, rest) := rest.span fun b => !(b = 0x2E || Numeral.isDigit b)
  let unit ← unit? word
  if n > limit / unit then none
  let (f, count) := fractionDigits fracDigits
  let value := n * unit + (if f > 0 then fractionOf f count unit else 0)
  if value > limit then none
  some (value, rest)

/-- The sum of two magnitudes in 64 bits, so that twice the largest is nothing. -/
def addWord (m n : Nat) : Nat := (m + n) % Nat.pow 2 64

/-- The sum of the decimals of a text, of which there are at most `fuel`. -/
def sum? : Nat → Nat → Bytes → Option Nat
  | _, total, [] => some total
  | 0, _, _ => none
  | fuel + 1, total, t => do
    let (value, rest) ← item? t
    if addWord total value > limit then none
    sum? fuel (addWord total value) rest

def read? (t : Bytes) : Option Int :=
  let (negative, body) :=
    match t with
    | 0x2D :: rest => (true, rest)
    | 0x2B :: rest => (false, rest)
    | _ => (false, t)
  if body = text "0" then some 0
  else if body.isEmpty then none
  else
    match sum? body.length 0 body with
    | none => none
    | some n => if negative then some (-(n : Int)) else if n < limit then some n else none

end Chip8.Duration
