import Chip8.Assembly.Listing
import Chip8.Proofs.Assembly.LineByLine
import Chip8.Proofs.Assembly.Renderings

/-!
# Listings tell the truth

A listing puts each line beside an address and an instruction word. Lines, listing and dump find the bytes of
an image in three different ways: a line is built into the next two bytes, the listing takes two bytes off for
every line and counts the address along, and the dump cuts the image into rows of sixteen. Here the cells of
the table are read as what they say, and what they say is compared with the image, with the words of the lines
and with what the dump shows at the same address (`listing_tells_the_image`).

The place of a byte in the image is what the three have in common: entry `n` has the bytes at `2 * n` and
`2 * n + 1` (`getElem?_rowsFrom`), and at an address a dump shows the byte that lies so far behind the start of
the image (`byteAt?_rowsOf`).
-/

namespace Chip8

open Numeral

/-! ### What is shown at an address -/

namespace Opcode

def ofDigits? (cell : Bytes) : Option Opcode := ((digitsValue? 16 cell).filter (· < 65536)).map ofWord

theorem ofWord_word (op : Opcode) : ofWord op.word = op := by
  have hhigh := op.high.toNat_lt
  have hlow := op.low.toNat_lt
  obtain ⟨high, low⟩ := op
  simp only [ofWord, word] at *
  congr 1
  · apply UInt8.toNat_inj.1
    rw [Nat.toUInt8, UInt8.toNat_ofNat']
    omega
  · apply UInt8.toNat_inj.1
    rw [Nat.toUInt8, UInt8.toNat_ofNat']
    omega

theorem ofDigits?_digits (op : Opcode) : ofDigits? op.digits = some op := by
  have hprinted : Printed 16 4 op.word op.digits := printed_hexUpper (by decide) _
  have hlt : op.word < 65536 := op.word_lt
  rw [ofDigits?, hprinted.digitsValue?_eq (by decide), Option.filter_some, if_pos (by simpa using hlt), Option.map_some,
    ofWord_word]

end Opcode

namespace Image

def DumpRow.byteAt? (row : DumpRow) (address : Nat) : Option UInt8 :=
  if row.address ≤ address then row.bytes[address - row.address]? else none

/-- The byte that a dump shows at an address. -/
def byteAt? (rows : List DumpRow) (address : Nat) : Option UInt8 := rows.findSome? fun row => row.byteAt? address

theorem byteAt?_rowAt (image : Bytes) (i k : Nat) :
    (rowAt image k).byteAt? (loadBase + i) = if k = i / 16 then image[i]? else none := by
  rw [rowAt_eq, DumpRow.byteAt?]
  show (if 0x200 + 16 * k ≤ 0x200 + i then
    ((image.drop (16 * k)).take 16)[0x200 + i - (0x200 + 16 * k)]? else none) = _
  rw [List.getElem?_take, List.getElem?_drop]
  by_cases hk : k = i / 16
  · have hplace : 16 * k + (0x200 + i - (0x200 + 16 * k)) = i := by omega
    rw [if_pos (by omega), if_pos (by omega), if_pos hk, hplace]
  · rw [if_neg hk]
    by_cases hle : 0x200 + 16 * k ≤ 0x200 + i
    · rw [if_pos hle, if_neg (by omega)]
    · rw [if_neg hle]

theorem byteAt?_rowsOf (image : Bytes) (i : Nat) : byteAt? (rowsOf image) (loadBase + i) = image[i]? := by
  rw [byteAt?]
  cases hfound : (rowsOf image).findSome? fun row => row.byteAt? (loadBase + i) with
  | some b =>
    obtain ⟨row, hrow, hb⟩ := List.exists_of_findSome?_eq_some hfound
    obtain ⟨k, -, rfl⟩ := List.mem_map.1 hrow
    rw [byteAt?_rowAt] at hb
    split at hb
    · exact hb.symm
    · cases hb
  | none =>
    by_cases hi : i < image.length
    · have hk : i / 16 < Bytes.chunkCount rowSize image.length := by
        rw [Bytes.lt_chunkCount_iff rowSize_pos, rowSize]
        omega
      have hnone := List.findSome?_eq_none_iff.1 hfound _ (List.mem_map_of_mem (List.mem_range.2 hk))
      rw [byteAt?_rowAt, if_pos rfl] at hnone
      exact hnone.symm
    · rw [List.getElem?_eq_none (by omega)]

end Image

namespace Listing

def wordOf? (row : List Bytes) : Option Opcode := row[2]?.bind Opcode.ofDigits?

def words? (table : List (List Bytes)) : Option (List Opcode) := table.mapM wordOf?

/-- The word that a table shows at an address. -/
def wordAt? (table : List (List Bytes)) (address : Nat) : Option Opcode :=
  table.findSome? fun row => if row[1]?.bind Image.address? = some address then wordOf? row else none

theorem wordOf?_cells (entry : ListingRow) : wordOf? (cells entry) = some entry.opcode :=
  Opcode.ofDigits?_digits entry.opcode

theorem address?_cells (entry : ListingRow) : (cells entry)[1]?.bind Image.address? = some entry.address :=
  Image.address?_append (printed_hexUpper (by decide) _)

theorem words?_cells (entries : List ListingRow) : words? (entries.map cells) = some (entries.map ListingRow.opcode) := by
  apply mapM_of_forall₂
  rw [List.forall₂_map_left_iff, List.forall₂_map_right_iff, List.forall₂_same]
  intro entry _
  exact wordOf?_cells entry

theorem exists_of_wordAt? {entries : List ListingRow} {address : Nat} {op : Opcode}
    (h : wordAt? (entries.map cells) address = some op) : ∃ entry ∈ entries, entry.address = address ∧ entry.opcode = op := by
  obtain ⟨row, hrow, hop⟩ := List.exists_of_findSome?_eq_some h
  obtain ⟨entry, hentry, rfl⟩ := List.mem_map.1 hrow
  rw [address?_cells, wordOf?_cells] at hop
  split at hop
  · next haddress => exact ⟨entry, hentry, Option.some.inj haddress, Option.some.inj hop⟩
  · cases hop

theorem exists_wordAt?_eq {entries : List ListingRow} {entry : ListingRow} (hentry : entry ∈ entries) :
    ∃ op, wordAt? (entries.map cells) entry.address = some op := by
  rw [← Option.isSome_iff_exists, wordAt?, List.findSome?_isSome_iff]
  refine ⟨cells entry, List.mem_map_of_mem hentry, ?_⟩
  rw [address?_cells, wordOf?_cells, if_pos rfl]
  rfl

/-! ### The entries -/

variable {lines : List Bytes} {image : Bytes}

theorem exists_cons_cons {line : Bytes} (h : 2 * (line :: lines).length = image.length) :
    ∃ high low rest, image = high :: low :: rest ∧ 2 * lines.length = rest.length := by
  match image, h with
  | [], h => simp at h
  | [_], h =>
    simp only [List.length_cons, List.length_nil] at h
    omega
  | high :: low :: rest, h =>
    simp only [List.length_cons] at h
    exact ⟨high, low, rest, rfl, by omega⟩

theorem length_rowsFrom (n : Nat) (h : 2 * lines.length = image.length) : (rowsFrom n lines image).length = lines.length := by
  induction lines generalizing n image with
  | nil => rfl
  | cons line lines ih =>
    obtain ⟨high, low, rest, rfl, hrest⟩ := exists_cons_cons h
    rw [rowsFrom, List.length_cons, List.length_cons, ih (n + 1) hrest]

theorem flatMap_rowsFrom (n : Nat) (h : 2 * lines.length = image.length) :
    (rowsFrom n lines image).flatMap (fun entry => entry.opcode.bytes) = image := by
  induction lines generalizing n image with
  | nil =>
    rw [List.eq_nil_of_length_eq_zero h.symm]
    rfl
  | cons line lines ih =>
    obtain ⟨high, low, rest, rfl, hrest⟩ := exists_cons_cons h
    rw [rowsFrom, List.flatMap_cons, ih (n + 1) hrest]
    rfl

/-- An entry has the two bytes at twice its place, whatever number its counting starts from. -/
theorem getElem?_rowsFrom (n : Nat) (h : 2 * lines.length = image.length) {i : Nat} {line : Bytes}
    (hi : lines[i]? = some line) : ∃ op : Opcode, image[2 * i]? = some op.high ∧ image[2 * i + 1]? = some op.low ∧
      (rowsFrom n lines image)[i]? = some ⟨n + i + 1, Image.loadBase + 2 * (n + i), op, line⟩ := by
  induction lines generalizing n i image with
  | nil => simp at hi
  | cons first lines ih =>
    obtain ⟨high, low, rest, rfl, hrest⟩ := exists_cons_cons h
    rw [rowsFrom]
    cases i with
    | zero =>
      obtain rfl : first = line := by simpa using hi
      exact ⟨⟨high, low⟩, rfl, rfl, rfl⟩
    | succ i =>
      obtain ⟨op, hhigh, hlow, hentry⟩ := ih (n + 1) hrest (by simpa using hi)
      refine ⟨op, hhigh, hlow, ?_⟩
      rw [List.getElem?_cons_succ, hentry]
      congr 2 <;> omega

theorem exists_of_mem_rowsFrom (h : 2 * lines.length = image.length) {entry : ListingRow}
    (hentry : entry ∈ rowsFrom 0 lines image) : ∃ n, entry.address = Image.loadBase + 2 * n ∧
      image[2 * n]? = some entry.opcode.high ∧ image[2 * n + 1]? = some entry.opcode.low := by
  obtain ⟨n, hn, rfl⟩ := List.mem_iff_getElem.1 hentry
  have hline : n < lines.length := length_rowsFrom 0 h ▸ hn
  obtain ⟨op, hhigh, hlow, hentry⟩ := getElem?_rowsFrom 0 h (List.getElem?_eq_getElem hline)
  rw [List.getElem?_eq_getElem hn, Nat.zero_add] at hentry
  rw [Option.some.inj hentry]
  exact ⟨n, rfl, hhigh, hlow⟩

/-! ### The table -/

/-- What the cells of a table say of the lines and of the image. -/
structure Tells (lines : List Bytes) (image : Bytes) (table : List (List Bytes)) : Prop where
  length_eq : table.length = lines.length
  row : ∀ (n : Nat) (line : Bytes), lines[n]? = some line → ∃ (high low : UInt8) (number address upper lower : Bytes),
    image[2 * n]? = some high ∧ image[2 * n + 1]? = some low ∧ Printed 10 1 (n + 1) number ∧
    Printed 16 4 (0x200 + 2 * n) address ∧ DigitPair high upper ∧ DigitPair low lower ∧
    table[n]? = some [number, text "0x" ++ address, upper ++ lower, line]
  encoded : build lines = .ok image → ∀ (n : Nat) (line : Bytes), lines[n]? = some line → ∃ (op : Opcode) (row : List Bytes),
    encode line = .ok op ∧ table[n]? = some row ∧ row[2]? = some op.digits
  image_eq : ∃ words, words? table = some words ∧ words.flatMap Opcode.bytes = image
  shown : ∀ n < lines.length, ∃ op, wordAt? table (0x200 + 2 * n) = some op
  dumped : ∃ dump rows, Image.render .hex image = .ok dump ∧ Image.readDump? dump = some rows ∧
    ∀ address op, wordAt? table address = some op →
      Image.byteAt? rows address = some op.high ∧ Image.byteAt? rows (address + 1) = some op.low

theorem tells_rowsFrom (h : 2 * lines.length = image.length) : Tells lines image ((rowsFrom 0 lines image).map cells) where
  length_eq := by rw [List.length_map, length_rowsFrom 0 h]
  row n line hline := by
    obtain ⟨op, hhigh, hlow, hentry⟩ := getElem?_rowsFrom 0 h hline
    refine ⟨op.high, op.low, decimal (n + 1), hexUpper 4 (0x200 + 2 * n), hexUpper 2 op.high.toNat,
      hexUpper 2 op.low.toNat, hhigh, hlow, printed_decimal _, printed_hexUpper (by decide) _, digitPair_hexUpper _,
      digitPair_hexUpper _, ?_⟩
    rw [List.getElem?_map, hentry, Option.map_some, Nat.zero_add, ← hexUpper_word]
    rfl
  encoded hbuild n line hline := by
    obtain ⟨-, ops, hops, rfl⟩ := build_eq_ok_iff.1 hbuild
    obtain ⟨op, hop, hhigh, hlow⟩ := getElem?_flatMap_bytes hops hline
    obtain ⟨op', hhigh', hlow', hentry⟩ := getElem?_rowsFrom 0 h hline
    have hsame : op' = op := by
      rw [hhigh] at hhigh'
      rw [hlow] at hlow'
      obtain ⟨high, low⟩ := op
      obtain ⟨high', low'⟩ := op'
      cases hhigh'
      cases hlow'
      rfl
    rw [hsame] at hentry
    refine ⟨op, cells ⟨0 + n + 1, Image.loadBase + 2 * (0 + n), op, line⟩, hop, ?_, rfl⟩
    rw [List.getElem?_map, hentry, Option.map_some]
  image_eq := by
    refine ⟨_, words?_cells _, ?_⟩
    rw [List.flatMap_map]
    exact flatMap_rowsFrom 0 h
  shown n hn := by
    obtain ⟨op, -, -, hentry⟩ := getElem?_rowsFrom 0 h (List.getElem?_eq_getElem hn)
    have hword := exists_wordAt?_eq (List.mem_of_getElem? hentry)
    rwa [Nat.zero_add] at hword
  dumped := by
    refine ⟨Image.hexDump image, Image.rowsOf image, rfl, Image.readDump?_hexDump image, ?_⟩
    intro address op hword
    obtain ⟨entry, hentry, rfl, rfl⟩ := exists_of_wordAt? hword
    obtain ⟨n, haddress, hhigh, hlow⟩ := exists_of_mem_rowsFrom h hentry
    rw [haddress, Nat.add_assoc, Image.byteAt?_rowsOf, Image.byteAt?_rowsOf]
    exact ⟨hhigh, hlow⟩

/-- Whoever draws it, a listing is made just if there are two bytes to a line. Then the rows that are drawn number the
lines from 1, show each beside its address and its two bytes, and say nothing else than the words of the lines, the
image and the dump. -/
theorem listing_tells_the_image (lines : List Bytes) (image : Bytes) (draw : Table.Renderer) :
    ((∃ listed, render lines image draw = .ok listed) ↔ image.length = 2 * lines.length) ∧
      (image.length = 2 * lines.length → ∃ entries, rows lines image = .ok entries ∧
        render lines image draw = .ok (draw columns (entries.map cells)) ∧ Tells lines image (entries.map cells)) := by
  have hrows : image.length = 2 * lines.length → rows lines image = .ok (rowsFrom 0 lines image) := by
    intro h
    rw [rows, if_pos h.symm]
  refine ⟨⟨?_, ?_⟩, ?_⟩
  · rintro ⟨listed, hlisted⟩
    by_contra h
    rw [render, rows, if_neg (fun heq => h heq.symm)] at hlisted
    cases hlisted
  · intro h
    exact ⟨_, by rw [render, hrows h]⟩
  · intro h
    exact ⟨_, hrows h, by rw [render, hrows h], tells_rowsFrom h.symm⟩

/-- Two lines, of which the second is at the address behind the first. -/
theorem listing_tells_the_image_two_lines :
    let lines := [text "cls", text "drw V1 V2 5"]
    let image := [0x00, 0xE0, 0xD1, 0x25]
    build lines = .ok image ∧ ∃ entries, rows lines image = .ok entries ∧
      entries.map cells =
        [[text "1", text "0x0200", text "00E0", text "cls"], [text "2", text "0x0202", text "D125", text "drw V1 V2 5"]] ∧
      Tells lines image (entries.map cells) := by
  intro lines image
  have hlength : image.length = 2 * lines.length := by rfl
  obtain ⟨entries, hrows, -, htells⟩ := (listing_tells_the_image lines image Table.draw).2 hlength
  have hentries : rows lines image = .ok
      [⟨1, 0x200, ⟨0x00, 0xE0⟩, text "cls"⟩, ⟨2, 0x202, ⟨0xD1, 0x25⟩, text "drw V1 V2 5"⟩] := by rfl
  refine ⟨by rfl, entries, hrows, ?_, htells⟩
  rw [hentries] at hrows
  rw [← Except.ok.inj hrows]
  decide +kernel

end Listing

end Chip8
