import Chip8.Text.Literal

/-!
Dates and times as plain scalars write them: a year of four digits, month and day, and optionally a
time of day with a fraction of a second. Behind a `T` the time needs a zone; behind a blank it has
none.
-/

namespace Chip8.Yaml.Timestamp

/-- A number of one or two digits, and the rest. -/
def number? (t : Bytes) : Option (Nat × Bytes) :=
  match t with
  | a :: b :: rest =>
    if ¬Numeral.isDigit a then none
    else if Numeral.isDigit b then some ((a.toNat - 0x30) * 10 + (b.toNat - 0x30), rest)
    else some (a.toNat - 0x30, b :: rest)
  | [a] => if Numeral.isDigit a then some (a.toNat - 0x30, []) else none
  | [] => none

/-- A number below `bound`, and the rest. -/
def below? (bound : Nat) (t : Bytes) : Option (Nat × Bytes) := (number? t).filter (·.1 < bound)

/-- What follows a byte. -/
def after? (b : UInt8) (t : Bytes) : Option Bytes :=
  match t with
  | a :: rest => if a = b then some rest else none
  | [] => none

def isLeap (year : Nat) : Bool := year % 4 = 0 && (year % 100 ≠ 0 || year % 400 = 0)

def daysIn (year month : Nat) : Nat :=
  if month = 2 then (if isLeap year then 29 else 28)
  else if month = 4 ∨ month = 6 ∨ month = 9 ∨ month = 11 then 30
  else 31

/-- What follows a date. -/
def date? (t : Bytes) : Option Bytes := do
  if ¬(t.length > 4 ∧ (t.take 4).all Numeral.isDigit) then none
  let year ← Numeral.digitsValue? 10 (t.take 4)
  let (month, t) ← number? (← after? 0x2D (t.drop 4))
  if month = 0 ∨ month > 12 then none
  let (day, t) ← number? (← after? 0x2D t)
  if day = 0 ∨ day > daysIn year month then none
  some t

/-- What follows a fraction of a second, if there is one, which a point or a comma starts. -/
def afterFraction (t : Bytes) : Bytes :=
  match t with
  | mark :: d :: rest =>
    if (mark = 0x2E ∨ mark = 0x2C) ∧ Numeral.isDigit d then rest.dropWhile Numeral.isDigit else t
  | _ => t

/-- What follows a time of day. -/
def clock? (t : Bytes) : Option Bytes := do
  let (_, t) ← below? 24 t
  let (_, t) ← below? 60 (← after? 0x3A t)
  let (_, t) ← below? 60 (← after? 0x3A t)
  some (afterFraction t)

def pair? (a b : UInt8) : Option Nat :=
  if Numeral.isDigit a ∧ Numeral.isDigit b then some ((a.toNat - 0x30) * 10 + (b.toNat - 0x30)) else none

/-- Whether a text is a zone: `Z`, or a signed offset of hours and minutes. -/
def isZone (t : Bytes) : Bool :=
  match t with
  | [z] => z = 0x5A
  | [sign, h1, h2, colon, m1, m2] =>
    (sign = 0x2B || sign = 0x2D) && colon = 0x3A && (pair? h1 h2).any (· ≤ 24) && (pair? m1 m2).any (· ≤ 60)
  | _ => false

/-- Whether a text is a date, or a date and a time. -/
def isTimestamp (t : Bytes) : Bool :=
  match date? t with
  | none => false
  | some [] => true
  | some (mark :: rest) =>
    if mark = 0x54 ∨ mark = 0x74 then (clock? rest).any isZone
    else if mark = 0x20 then (clock? (rest.dropWhile (· = 0x20))).any List.isEmpty
    else false

end Chip8.Yaml.Timestamp
