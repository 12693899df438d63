import Chip8.Text.Numeral

/-!
Integer literals with a base prefix: `0x`, `0o` and `0b` of either case, a bare leading zero for
octal, and decimal otherwise. Underscores may stand between digits and after the base mark. A
literal is read from the left, so one that is too large is told so even if what follows is no digit.
-/

namespace Chip8.Literal

inductive Fault where
  | malformed
  | outOfRange
  deriving DecidableEq, Repr

def Fault.message : Fault → Bytes
  | malformed => text "invalid syntax"
  | outOfRange => text "value out of range"

def lower (b : UInt8) : UInt8 := if 0x41 ≤ b ∧ b ≤ 0x5A then b + 0x20 else b

/-- The value of a digit or letter, letters counting from ten. -/
def digit? (b : UInt8) : Option Nat :=
  if 0x30 ≤ b ∧ b ≤ 0x39 then some (b.toNat - 0x30)
  else if 0x61 ≤ lower b ∧ lower b ≤ 0x7A then some ((lower b).toNat - 0x57)
  else none

/-- The base of a literal without a sign, and its digits. -/
def base (t : Bytes) : Nat × Bytes :=
  match t with
  | 0x30 :: mark :: d :: rest =>
    if lower mark = 0x62 then (2, d :: rest)
    else if lower mark = 0x6F then (8, d :: rest)
    else if lower mark = 0x78 then (16, d :: rest)
    else (8, mark :: d :: rest)
  | 0x30 :: rest => (8, rest)
  | _ => (10, t)

/-- The last thing seen before an underscore. -/
inductive Seen where
  | nothing
  | digit
  | underscore
  | other
  deriving DecidableEq, Repr

/-- Whether underscores stand only between digits. -/
def separatedFrom (hex : Bool) : Seen → Bytes → Bool
  | seen, [] => seen ≠ .underscore
  | seen, b :: rest =>
    if (0x30 ≤ b && b ≤ 0x39) || (hex && 0x61 ≤ lower b && lower b ≤ 0x66) then
      separatedFrom hex .digit rest
    else if b = 0x5F then seen = .digit && separatedFrom hex .underscore rest
    else seen ≠ .underscore && separatedFrom hex .other rest

/-- Whether the underscores of a literal without a sign stand between digits; the base mark counts as
a digit. -/
def isSeparated (t : Bytes) : Bool :=
  match t with
  | 0x30 :: mark :: rest =>
    if lower mark = 0x78 then separatedFrom true .digit rest
    else if lower mark = 0x62 ∨ lower mark = 0x6F then separatedFrom false .digit rest
    else separatedFrom false .nothing t
  | _ => separatedFrom false .nothing t

def isUnderscore (b : UInt8) : Bool := b = 0x5F

/-- The value of digits of a base that follow `value`, of which none may exceed `most`. -/
def digitsValue (base most : Nat) : Nat → Bytes → Except Fault Nat
  | value, [] => .ok value
  | value, b :: rest =>
    match digit? b with
    | none => .error .malformed
    | some d =>
      if d ≥ base then .error .malformed
      else if value * base + d > most then .error .outOfRange
      else digitsValue base most (value * base + d) rest

def natural (most : Nat) (t : Bytes) : Except Fault Nat :=
  if t.isEmpty then .error .malformed
  else
    let (base, digits) := base t
    match digitsValue base most 0 (digits.filter fun b => !isUnderscore b) with
    | .error e => .error e
    | .ok n => if t.any isUnderscore ∧ ¬isSeparated t then .error .malformed else .ok n

def most64 : Nat := Nat.pow 2 64 - 1

/-- A value with its sign, if it fits 64 bits. -/
def withSign (negative : Bool) (n : Nat) : Except Fault Int :=
  if negative then (if n ≤ Nat.pow 2 63 then .ok (-(n : Int)) else .error .outOfRange)
  else if n < Nat.pow 2 63 then .ok n
  else .error .outOfRange

/-- A text without its sign, and whether that was a minus. -/
def sign (t : Bytes) : Bool × Bytes :=
  match t with
  | 0x2D :: rest => (true, rest)
  | 0x2B :: rest => (false, rest)
  | _ => (false, t)

/-- The value of a literal of 64 bits with an optional sign. -/
def integer (t : Bytes) : Except Fault Int :=
  let (negative, body) := sign t
  match natural most64 body with
  | .error e => .error e
  | .ok n => withSign negative n

/-- The value of digits of a base of 64 bits with an optional sign. -/
def integerIn (base : Nat) (t : Bytes) : Except Fault Int :=
  let (negative, body) := sign t
  if body.isEmpty then .error .malformed
  else
    match digitsValue base most64 0 body with
    | .error e => .error e
    | .ok n => withSign negative n

end Chip8.Literal
