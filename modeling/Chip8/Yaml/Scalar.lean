import Chip8.Text.Base64
import Chip8.Text.Binary64
import Chip8.Text.Duration
import Chip8.Yaml.Timestamp

/-!
What a scalar means. A plain scalar is a null, a truth value, a number or a timestamp if it is
spelled like one, and a string otherwise. A tag asks for one of these, and a scalar that is not
spelled so cannot be read; only a whole number may be asked for as a float. A tag may also say that
a string is written in base 64.
-/

namespace Chip8.Yaml

inductive Scalar where
  | null
  | bool (b : Bool)
  | int (n : Int)
  | float (x : Binary64)
  | timestamp (t : Bytes)
  | string (t : Bytes)
  deriving DecidableEq, Repr

namespace Tag

def null : Bytes := text "!!null"
def bool : Bytes := text "!!bool"
def string : Bytes := text "!!str"
def int : Bytes := text "!!int"
def float : Bytes := text "!!float"
def timestamp : Bytes := text "!!timestamp"
def binary : Bytes := text "!!binary"
def sequence : Bytes := text "!!seq"
def mapping : Bytes := text "!!map"
def merge : Bytes := text "!!merge"

/-- How the tags of the standard are spelled in full. -/
def standard : Bytes := text "tag:yaml.org,2002:"

/-- A tag with the short form of the standard ones. -/
def short (tag : Bytes) : Bytes :=
  if standard.isPrefixOf tag then text "!!" ++ tag.drop standard.length else tag

end Tag

namespace Scalar

def tag : Scalar → Bytes
  | null => Tag.null
  | bool _ => Tag.bool
  | int _ => Tag.int
  | float _ => Tag.float
  | timestamp _ => Tag.timestamp
  | string _ => Tag.string

/-- The words with a meaning of their own. -/
def words : List (Bytes × Scalar) :=
  [(text "true", bool true), (text "True", bool true), (text "TRUE", bool true),
   (text "false", bool false), (text "False", bool false), (text "FALSE", bool false),
   (text "", null), (text "~", null), (text "null", null), (text "Null", null), (text "NULL", null),
   (text ".nan", float .nan), (text ".NaN", float .nan), (text ".NAN", float .nan),
   (text ".inf", float (.infinite false)), (text ".Inf", float (.infinite false)),
   (text ".INF", float (.infinite false)), (text "+.inf", float (.infinite false)),
   (text "+.Inf", float (.infinite false)), (text "+.INF", float (.infinite false)),
   (text "-.inf", float (.infinite true)), (text "-.Inf", float (.infinite true)),
   (text "-.INF", float (.infinite true))]

/-- A float that starts with a point; underscores may stand between digits. -/
def pointFloat? (t : Bytes) : Option Scalar :=
  if t.any Literal.isUnderscore ∧ ¬Literal.isSeparated t then none
  else
    ((Decimal.read? (t.filter fun b => !Literal.isUnderscore b)).bind Binary64.ofDecimal?).map .float

/-- A whole number of 64 bits, with or without a sign. -/
def literal? (t : Bytes) : Option Scalar :=
  match Literal.integer t, Literal.natural Literal.most64 t with
  | .ok n, _ => some (.int n)
  | _, .ok n => some (.int n)
  | _, _ => none

/-- A whole number behind a base mark in lower case; a sign may stand behind the mark. -/
def markedLiteral? (t : Bytes) : Option Scalar :=
  let digits (base : Nat) (body : Bytes) : Option Scalar :=
    match Literal.integerIn base body with
    | .ok n => some (.int n)
    | .error _ =>
      if body.isEmpty then none
      else
        match Literal.digitsValue base Literal.most64 0 body with
        | .ok n => some (.int n)
        | .error _ => none
  let negated (base : Nat) (body : Bytes) : Option Scalar :=
    match Literal.integerIn base (0x2D :: body) with
    | .ok n => some (.int n)
    | .error _ => none
  if (text "0b").isPrefixOf t then digits 2 (t.drop 2)
  else if (text "-0b").isPrefixOf t then negated 2 (t.drop 3)
  else if (text "0o").isPrefixOf t then digits 8 (t.drop 2)
  else if (text "-0o").isPrefixOf t then negated 8 (t.drop 3)
  else none

/-- A number that starts with a digit or a sign; underscores do not count. -/
def number? (t : Bytes) : Option Scalar :=
  let t := t.filter fun b => !Literal.isUnderscore b
  (literal? t).orElse fun _ =>
    (((Decimal.read? t).bind Binary64.ofDecimal?).map .float).orElse fun _ => markedLiteral? t

/-- The meaning of a plain scalar. Whether it may be a timestamp is said apart. -/
def ofPlain (mayBeTimestamp : Bool) (t : Bytes) : Scalar :=
  match words.lookup t with
  | some s => s
  | none =>
    match t.head? with
    | none => null
    | some a =>
      if a = 0x2E then (pointFloat? t).getD (.string t)
      else if Numeral.isDigit a ∨ a = 0x2B ∨ a = 0x2D then
        if mayBeTimestamp ∧ Timestamp.isTimestamp t then .timestamp t
        else (number? t).getD (.string t)
      else .string t

def plainTag (t : Bytes) : Bytes := if t = text "<<" then Tag.merge else (ofPlain true t).tag

/-- The meaning of a text under a tag, if it has one. A tag that is not of the standard asks for
nothing. -/
def read? (tag t : Bytes) : Option Scalar :=
  if tag = Tag.string then some (.string t)
  else if tag = Tag.binary then (Base64.decode? t).map .string
  else if tag = Tag.null ∨ tag = Tag.bool ∨ tag = Tag.int ∨ tag = Tag.float ∨ tag = Tag.timestamp then
    let s := ofPlain (tag = Tag.timestamp) t
    if s.tag = tag then some s
    else
      match s with
      | int n =>
        if tag = Tag.float ∧ -Binary64.pastInt64 ≤ n ∧ n < Binary64.pastInt64 then
          (Binary64.ofDecimal? ⟨n < 0, n.natAbs, 0⟩).map .float
        else none
      | _ => none
  else some (.string t)

/-- The text of a scalar that is spelled `t`: a string's own, and the spelling of any other. -/
def toText (t : Bytes) : Scalar → Bytes
  | string own => own
  | _ => t

/-- Whether two scalars are the same key. A number that is none is never the same as any. -/
def isSameKey : Scalar → Scalar → Bool
  | float (.finite s m e), float (.finite s' m' e') => (m = 0 && m' = 0) || (s = s' && m = m' && e = e')
  | float .nan, _ => false
  | a, b => a = b

def toInt? : Scalar → Option Int
  | int n => if n < Binary64.pastInt64 then some n else none
  | float x => x.toInt64?
  | _ => none

def toUInt16? : Scalar → Option UInt16
  | int n => if 0 ≤ n ∧ n < 65536 then some n.toNat.toUInt16 else none
  | float x => x.toUInt16?
  | _ => none

def toDuration? : Scalar → Option Int
  | string t => Duration.read? t
  | _ => none

end Scalar

end Chip8.Yaml
