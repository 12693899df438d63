import Chip8.Text.Utf8

/-!
A YAML text as it comes in. The bytes are UTF-8, or UTF-16 if a byte order mark says so, and are read
in portions of 512. A portion that holds a fault gives no character at all, and what follows it is
not reached; the portions before it are none the worse for it. A character cut at the end of a
portion belongs to the next one.
-/

namespace Chip8.Yaml

inductive Encoding where
  | utf8
  | utf16Little
  | utf16Big
  deriving DecidableEq, Repr

/-- The encoding that the byte order mark at the start of a text says, and the bytes behind the
mark. -/
def Encoding.detect (t : Bytes) : Encoding × Nat :=
  if ([0xFF, 0xFE] : Bytes).isPrefixOf t then (utf16Little, 2)
  else if ([0xFE, 0xFF] : Bytes).isPrefixOf t then (utf16Big, 2)
  else if ([0xEF, 0xBB, 0xBF] : Bytes).isPrefixOf t then (utf8, 3)
  else (utf8, 0)

/-- What stands at the start of some bytes: a character and how many bytes it takes, a part of one,
or none. -/
inductive Symbol where
  | char (c : Char) (length : Nat)
  | cut
  | fault
  deriving DecidableEq

def Symbol.ofCode (n length : Nat) : Symbol :=
  if n.isValidChar then .char (Char.ofNat n) length else .fault

/-- How many bytes the sequence takes that a byte starts, and the bits of its code in that byte. -/
def leadByte? (b : UInt8) : Option (Nat × Nat) :=
  if b < 0x80 then some (1, b.toNat)
  else if 0xC0 ≤ b ∧ b < 0xE0 then some (2, b.toNat - 0xC0)
  else if 0xE0 ≤ b ∧ b < 0xF0 then some (3, b.toNat - 0xE0)
  else if 0xF0 ≤ b ∧ b < 0xF8 then some (4, b.toNat - 0xF0)
  else none

/-- The least code that needs a sequence of a length. -/
def leastCode (length : Nat) : Nat :=
  if length = 2 then 0x80 else if length = 3 then 0x800 else if length = 4 then 0x10000 else 0

def Symbol.utf8 (a : UInt8) (rest : Bytes) : Symbol :=
  match leadByte? a with
  | none => .fault
  | some (length, lead) =>
    let tails := rest.take (length - 1)
    if tails.length < length - 1 then .cut
    else if ¬tails.all Utf8.isTail then .fault
    else
      let code := tails.foldl (fun n b => n * 64 + (b.toNat - 0x80)) lead
      if code < leastCode length then .fault else .ofCode code length

def pairValue (little : Bool) (a b : UInt8) : Nat :=
  if little then b.toNat * 256 + a.toNat else a.toNat * 256 + b.toNat

def Symbol.utf16 (little : Bool) (t : Bytes) : Symbol :=
  match t with
  | a :: b :: rest =>
    let high := pairValue little a b
    if 0xDC00 ≤ high ∧ high < 0xE000 then .fault
    else if 0xD800 ≤ high ∧ high < 0xDC00 then
      match rest with
      | c :: d :: _ =>
        let low := pairValue little c d
        if 0xDC00 ≤ low ∧ low < 0xE000 then
          .ofCode (0x10000 + (high - 0xD800) * 0x400 + (low - 0xDC00)) 4
        else .fault
      | _ => .cut
    else .ofCode high 2
  | _ => .cut

/-- The first character of bytes that start with `a`. -/
def Encoding.first (e : Encoding) (a : UInt8) (rest : Bytes) : Symbol :=
  match e with
  | utf8 => Symbol.utf8 a rest
  | utf16Little => Symbol.utf16 true (a :: rest)
  | utf16Big => Symbol.utf16 false (a :: rest)

/-- Whether a character may stand in a YAML text. -/
def isAllowed (c : Char) : Bool :=
  let n := c.toNat
  n == 0x09 || n == 0x0A || n == 0x0D || (0x20 ≤ n && n ≤ 0x7E) || n == 0x85 ||
    (0xA0 ≤ n && n ≤ 0xFFFD) || 0x10000 ≤ n

/-- The characters of a portion behind its first `skip` bytes, and the bytes of one that is cut at its
end. -/
def Encoding.portion? (e : Encoding) : Nat → Bytes → Option (List Char × Bytes)
  | _, [] => some ([], [])
  | skip + 1, _ :: rest => e.portion? skip rest
  | 0, a :: rest =>
    match e.first a rest with
    | .fault => none
    | .cut => some ([], a :: rest)
    | .char c length =>
      if isAllowed c then (e.portion? (length - 1) rest).map fun (cs, cut) => (c :: cs, cut) else none

/-- The characters of a text in portions, up to the first that holds a fault. -/
structure Input where
  portions : List (List Char)
  /-- Whether no portion holds a fault. -/
  sound : Bool

namespace Input

def portionSize : Nat := 512

/-- The portions of the bytes at hand and of those to come; at most `fuel` portions. -/
def portionsFrom (e : Encoding) : Nat → Bytes → Bytes → Input
  | 0, _, _ => ⟨[], false⟩
  | fuel + 1, hand, later =>
    match e.portion? 0 hand with
    | none => ⟨[], false⟩
    | some (cs, cut) =>
      if later.isEmpty then ⟨[cs], cut.isEmpty⟩
      else
        let room := portionSize - cut.length
        let next := portionsFrom e fuel (cut ++ later.take room) (later.drop room)
        { next with portions := cs :: next.portions }

def ofBytes (t : Bytes) : Input :=
  let (e, mark) := Encoding.detect t
  portionsFrom e (t.length + 1) ((t.take portionSize).drop mark) (t.drop portionSize)

end Input

end Chip8.Yaml
