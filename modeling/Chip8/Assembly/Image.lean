import Chip8.Assembly.Error

/-!
Ways to write an image: as a file of raw bytes, as a list of byte values, as a listing beside its
source, or as a hex dump. The list and the dump need nothing but the image and are rendered here.
-/

namespace Chip8

/-- A way to write an image, by number. Those from 0 to 3 have a name. -/
structure Mode where
  code : Int
  deriving DecidableEq, Repr

namespace Mode

def binary : Mode := ⟨0⟩
def stdout : Mode := ⟨1⟩
def listing : Mode := ⟨2⟩
def hex : Mode := ⟨3⟩

def names : List (Mode × Bytes) :=
  [(binary, text "binary"), (stdout, text "stdout"), (listing, text "listing"), (hex, text "hex")]

/-- The name of a mode; one without a name is shown as a number. -/
def name (m : Mode) : Bytes :=
  match names.lookup m with
  | some n => n
  | none => text "mode(" ++ Numeral.signed m.code ++ text ")"

def ofName (n : Bytes) : Except AsmError Mode :=
  match names.find? fun entry => entry.2 = n with
  | some entry => .ok entry.1
  | none =>
    .error ⟨.modeMissing, n, text "mode " ++ n ++ text " is not defined, expected " ++
      Bytes.join (text ", ") (names.map Prod.snd)⟩

end Mode

namespace Image

/-- The address the machine loads an image at. -/
def loadBase : Nat := 0x200

def extension : Bytes := text ".c8x"

/-- The name of the image file for `name`: with the extension, which is added if it is missing. -/
def fileName (name : Bytes) : Bytes :=
  if extension.isSuffixOf name then name else name ++ extension

def addressText (address : Nat) : Bytes := text "0x" ++ Numeral.hexUpper 4 address

/-- The byte values in decimal. -/
def byteList (image : Bytes) : Bytes :=
  text "[" ++ Bytes.join (text ", ") (image.map fun b => Numeral.decimal b.toNat) ++ text "]\n"

def rowSize : Nat := 16

/-- Bytes and the address of the first of them. -/
structure DumpRow where
  address : Nat
  bytes : Bytes
  deriving DecidableEq, Repr

def DumpRow.line (row : DumpRow) : Bytes :=
  addressText row.address ++ row.bytes.flatMap fun b => text " " ++ Numeral.hexUpper 2 b.toNat

def dumpRows (address : Nat) : List Bytes → Bytes
  | [] => []
  | bytes :: rest => DumpRow.line ⟨address, bytes⟩ ++ text "\n" ++ dumpRows (address + rowSize) rest

def heading : Bytes := text "ADDR   DATA"

/-- The bytes in hexadecimal beside the addresses they are loaded at. -/
def hexDump (image : Bytes) : Bytes :=
  heading ++ text "\n" ++ dumpRows loadBase (Bytes.chunks rowSize image)

/-- The image as text in a mode that needs nothing but the image. -/
def render (mode : Mode) (image : Bytes) : Except AsmError Bytes :=
  if mode = .stdout then .ok (byteList image)
  else if mode = .hex then .ok (hexDump image)
  else
    .error ⟨.modeMissing, mode.name, text "mode " ++ mode.name ++ text " cannot be written to a console"⟩

end Image

end Chip8
