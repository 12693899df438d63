import Chip8.Assembly.Image
import Chip8.Assembly.Opcode
import Chip8.Table

/-!
Listings. A listing puts each source line beside the instruction word it became and the address of
that word. Lines and image have to match: two bytes a line. How a table of such rows is drawn is left to a
renderer.
-/

namespace Chip8

structure ListingRow where
  number : Nat
  address : Nat
  opcode : Opcode
  source : Bytes
  deriving DecidableEq, Repr

/-- Lines and an image that do not match. -/
structure ListingError where
  lines : Nat
  bytes : Nat
  deriving DecidableEq, Repr

def ListingError.message (e : ListingError) : Bytes :=
  text "listing: " ++ Numeral.decimal e.lines ++ text " lines but " ++ Numeral.decimal e.bytes ++
    text " bytes"

namespace Listing

/-- The entries of lines after the first `n`. -/
def rowsFrom (n : Nat) : List Bytes → Bytes → List ListingRow
  | line :: lines, high :: low :: image =>
    ⟨n + 1, Image.loadBase + 2 * n, ⟨high, low⟩, line⟩ :: rowsFrom (n + 1) lines image
  | _, _ => []

def rows (lines : List Bytes) (image : Bytes) : Except ListingError (List ListingRow) :=
  if 2 * lines.length = image.length then .ok (rowsFrom 0 lines image)
  else .error ⟨lines.length, image.length⟩

def columns : List Table.Column :=
  [⟨text "LINE", .right⟩, ⟨text "ADDR", .left⟩, ⟨text "OPCODE", .left⟩, ⟨text "SOURCE", .left⟩]

def cells (row : ListingRow) : List Bytes :=
  [Numeral.decimal row.number, Image.addressText row.address, row.opcode.digits, row.source]

/-- The listing as a renderer draws it. -/
def render (lines : List Bytes) (image : Bytes) (draw : Table.Renderer := Table.draw) : Except ListingError Bytes :=
  match rows lines image with
  | .error e => .error e
  | .ok entries => .ok (draw columns (entries.map cells))

end Listing

end Chip8
