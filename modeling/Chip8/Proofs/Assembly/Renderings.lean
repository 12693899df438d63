import Chip8.Assembly.Image
import Chip8.Proofs.Assembly.SourceLines
import Chip8.Proofs.Text.Chunks
import Chip8.Proofs.Text.Numerals

/-!
# What the console shows of an image

An image is shown as a dump, in rows of sixteen bytes behind their address, or as a list of byte values in
decimal. Neither loses anything: both can be read again, and what is read is the image
(`renderings_lossless`).

The reader of a dump looks at the text only. It takes the heading off, cuts each line at its blanks and reads
the first word as an address and every other word as a byte; the number of digits of an address is never
counted, so addresses may be longer than four. A row is read from any line that shows it (`ofLine?_of_shown`),
and the printer makes such lines (`shown_line`).
-/

namespace Chip8

open Numeral

/-- The byte whose value a text is in `base`. -/
def Numeral.byte? (base : Nat) (t : Bytes) : Option UInt8 := ((digitsValue? base t).filter (· < 256)).map Nat.toUInt8

theorem Numeral.Printed.byte?_eq {base width : Nat} {b : UInt8} {t : Bytes} (h : Printed base width b.toNat t)
    (hwidth : 1 ≤ width) : byte? base t = some b := by
  have hlt : b.toNat < 256 := b.toNat_lt
  rw [byte?, h.digitsValue?_eq hwidth, Option.filter_some, if_pos (by simpa using hlt), Option.map_some, Nat.toUInt8,
    UInt8.ofNat_toNat]

/-- The text is the two digits of a byte. -/
def Numeral.DigitPair (b : UInt8) (pair : Bytes) : Prop := Printed 16 2 b.toNat pair ∧ pair.length = 2

theorem Numeral.digitPair_hexUpper (b : UInt8) : DigitPair b (hexUpper 2 b.toNat) := by
  have hprinted : Printed 16 2 b.toNat (hexUpper 2 b.toNat) := printed_hexUpper (by decide) _
  exact ⟨hprinted, hprinted.length_eq b.toNat_lt⟩

theorem Numeral.not_mem_of_digitPairs {bytes : Bytes} {pairs : List Bytes} (hpairs : List.Forall₂ DigitPair bytes pairs)
    {pair : Bytes} (hpair : pair ∈ pairs) {b : UInt8} (hb : hexDigit? b = none) : b ∉ pair := by
  obtain ⟨i, hi, rfl⟩ := List.mem_iff_getElem.1 hpair
  exact (hpairs.get (hpairs.length_eq ▸ hi) hi).1.not_mem hb

theorem mapM_of_forall₂ {α β : Type} {read? : β → Option α} {values : List α} {texts : List β}
    (h : List.Forall₂ (fun a t => read? t = some a) values texts) : texts.mapM read? = some values := by
  induction h with
  | nil => rfl
  | cons hread _ ih =>
    rw [List.mapM_cons, hread, ih]
    rfl

theorem mapM_map_of_read {α β : Type} {print : α → β} {read? : β → Option α} (hread : ∀ a, read? (print a) = some a)
    (values : List α) : (values.map print).mapM read? = some values := by
  apply mapM_of_forall₂
  rw [List.forall₂_map_right_iff, List.forall₂_same]
  intro a _
  exact hread a

namespace Bytes

theorem append_flatMap_eq_join (separator : UInt8) (piece : Bytes) (pieces : List Bytes) :
    piece ++ pieces.flatMap (fun p => [separator] ++ p) = join [separator] (piece :: pieces) := by
  induction pieces generalizing piece with
  | nil => simp [join]
  | cons next pieces ih => rw [join_cons_cons, ← ih, List.flatMap_cons, List.append_assoc, List.append_assoc]

/-- Words that are listed with a comma and a blank between them come apart at the blanks. -/
theorem dropFinal_splitOn_join {pieces : List Bytes} (hpieces : pieces ≠ [])
    (hfree : ∀ p ∈ pieces, 0x20 ∉ p ∧ 0x2C ∉ p) :
    (splitOn 0x20 (join (text ", ") pieces)).map (dropFinal 0x2C) = pieces := by
  induction pieces with
  | nil => exact absurd rfl hpieces
  | cons p rest ih =>
    have hp := hfree p List.mem_cons_self
    cases rest with
    | nil => rw [join, splitOn_of_not_mem hp.1, List.map_singleton, dropFinal_of_not_mem hp.2]
    | cons next rest =>
      have hrest := ih (by simp) fun q hq => hfree q (List.mem_cons_of_mem p hq)
      have hsplit : join (text ", ") (p :: next :: rest) = (p ++ [0x2C]) ++ 0x20 :: join (text ", ") (next :: rest) := by
        rw [join_cons_cons, List.append_assoc, List.append_assoc]
        rfl
      have hword : 0x20 ∉ p ++ [0x2C] := by simpa using hp.1
      rw [hsplit, splitOn_append_cons hword, List.map_cons, dropFinal_append_singleton, hrest]

end Bytes

namespace Image

/-! ### Rows of a dump -/

/-- The number behind `0x`. -/
def address? (word : Bytes) : Option Nat :=
  if (text "0x").isPrefixOf word then digitsValue? 16 (word.drop 2) else none

theorem address?_append {address : Nat} {digits : Bytes} (h : Printed 16 4 address digits) :
    address? (text "0x" ++ digits) = some address := by
  have hstart : (text "0x").isPrefixOf (text "0x" ++ digits) = true := List.isPrefixOf_iff_prefix.2 (List.prefix_append _ _)
  rw [address?, if_pos hstart]
  exact h.digitsValue?_eq (by decide)

namespace DumpRow

/-- The line shows the row: `0x`, the address in four digits or more, and for each byte a blank and two
digits. -/
def Shown (row : DumpRow) (line : Bytes) : Prop :=
  ∃ digits pairs, Printed 16 4 row.address digits ∧
    List.Forall₂ DigitPair row.bytes pairs ∧
    line = text "0x" ++ digits ++ pairs.flatMap (fun pair => text " " ++ pair)

def ofLine? (line : Bytes) : Option DumpRow :=
  match Bytes.splitOn 0x20 line with
  | [] => none
  | word :: words => do
    let address ← address? word
    let bytes ← words.mapM (byte? 16)
    return ⟨address, bytes⟩

theorem shown_line (row : DumpRow) : row.Shown row.line := by
  refine ⟨hexUpper 4 row.address, row.bytes.map fun b => hexUpper 2 b.toNat, printed_hexUpper (by decide) _, ?_, ?_⟩
  · rw [List.forall₂_map_right_iff, List.forall₂_same]
    intro b _
    exact digitPair_hexUpper b
  · rw [line, addressText, List.flatMap_map]

theorem mem_of_shown {row : DumpRow} {line : Bytes} (h : row.Shown line) {b : UInt8} (hb : b ∈ line) :
    b = 0x20 ∨ b = 0x78 ∨ hexDigit? b ≠ none := by
  obtain ⟨digits, pairs, hdigits, hpairs, rfl⟩ := h
  rw [List.mem_append, List.mem_append] at hb
  rcases hb with (hb | hb) | hb
  · have hstart : text "0x" = [0x30, 0x78] := by decide
    rw [hstart] at hb
    obtain rfl | rfl : b = 0x30 ∨ b = 0x78 := by simpa using hb
    · exact .inr (.inr (by decide))
    · exact .inr (.inl rfl)
  · exact .inr (.inr fun hnone => hdigits.not_mem hnone hb)
  · obtain ⟨pair, hpair, hb⟩ := List.mem_flatMap.1 hb
    rcases List.mem_append.1 hb with hb | hb
    · exact .inl (List.mem_singleton.1 hb)
    · exact .inr (.inr fun hnone => not_mem_of_digitPairs hpairs hpair hnone hb)

theorem plain_of_shown {row : DumpRow} {line : Bytes} (h : row.Shown line) : Source.Plain line := by
  have hfree : ∀ b : UInt8, b ≠ 0x20 → b ≠ 0x78 → hexDigit? b = none → b ∉ line := by
    intro b hblank hx hnone hb
    rcases mem_of_shown h hb with hb | hb | hb
    · exact hblank hb
    · exact hx hb
    · exact hb hnone
  refine ⟨hfree 0x0A (by decide) (by decide) (by decide), fun hlast => ?_⟩
  exact hfree 0x0D (by decide) (by decide) (by decide) (List.mem_of_getLast? hlast)

theorem splitOn_of_printed {address : Nat} {digits bytes : Bytes} {pairs : List Bytes}
    (hdigits : Printed 16 4 address digits)
    (hpairs : List.Forall₂ DigitPair bytes pairs) :
    Bytes.splitOn 0x20 (text "0x" ++ digits ++ pairs.flatMap fun pair => text " " ++ pair) =
      (text "0x" ++ digits) :: pairs := by
  have hfree : ∀ word ∈ (text "0x" ++ digits) :: pairs, 0x20 ∉ word := by
    intro word hword
    rcases List.mem_cons.1 hword with rfl | hword
    · rw [List.mem_append, not_or]
      exact ⟨by decide, hdigits.not_mem (by decide)⟩
    · exact not_mem_of_digitPairs hpairs hword (by decide)
  rw [show text " " = [0x20] from rfl, Bytes.append_flatMap_eq_join, Bytes.splitOn_join (by simp) hfree]

theorem ofLine?_of_shown {row : DumpRow} {line : Bytes} (h : row.Shown line) : ofLine? line = some row := by
  obtain ⟨digits, pairs, hdigits, hpairs, rfl⟩ := h
  have hbytes : pairs.mapM (byte? 16) = some row.bytes :=
    mapM_of_forall₂ (hpairs.imp fun _ _ hpair => hpair.1.byte?_eq (by decide))
  rw [ofLine?, splitOn_of_printed hdigits hpairs]
  simp [address?_append hdigits, hbytes]

end DumpRow

/-! ### Dumps -/

def rowAt (image : Bytes) (k : Nat) : DumpRow := ⟨loadBase + k * rowSize, Bytes.chunk rowSize image k⟩

def rowsOf (image : Bytes) : List DumpRow := (List.range (Bytes.chunkCount rowSize image.length)).map (rowAt image)

def readDump? (shown : Bytes) : Option (List DumpRow) :=
  match (Source.ofText shown).lines with
  | [] => none
  | first :: lines => if first = heading then lines.mapM DumpRow.ofLine? else none

def ofHexDump? (shown : Bytes) : Option Bytes := (readDump? shown).map fun rows => rows.flatMap DumpRow.bytes

theorem rowSize_pos : 0 < rowSize := by decide

theorem rowAt_eq (image : Bytes) (k : Nat) : rowAt image k = ⟨0x200 + 16 * k, (image.drop (16 * k)).take 16⟩ := by
  rw [Nat.mul_comm]
  rfl

theorem getElem?_rowsOf {image : Bytes} {k : Nat} {row : DumpRow} :
    (rowsOf image)[k]? = some row ↔ k < Bytes.chunkCount rowSize image.length ∧ row = rowAt image k := by
  rw [rowsOf, List.getElem?_map, Option.map_eq_some_iff]
  constructor
  · rintro ⟨j, hj, rfl⟩
    obtain ⟨hk, rfl⟩ := List.getElem?_eq_some_iff.1 hj
    rw [List.getElem_range]
    exact ⟨by simpa using hk, rfl⟩
  · rintro ⟨hk, rfl⟩
    exact ⟨k, List.getElem?_range hk, rfl⟩

theorem dumpRows_map (piece : Nat → Bytes) (address n : Nat) :
    dumpRows address ((List.range n).map piece) =
      (List.range n).flatMap fun k => DumpRow.line ⟨address + k * rowSize, piece k⟩ ++ [0x0A] := by
  induction n generalizing address piece with
  | zero => rfl
  | succ n ih =>
    rw [List.range_succ_eq_map, List.map_cons, List.map_map, dumpRows, ih, List.flatMap_cons, List.flatMap_map]
    have hstep : ∀ k, address + rowSize + k * rowSize = address + (k + 1) * rowSize := by
      intro k
      rw [Nat.succ_mul]
      omega
    simp only [hstep, Nat.zero_mul, Nat.add_zero]
    rfl

theorem hexDump_eq (image : Bytes) :
    hexDump image = (heading :: (rowsOf image).map DumpRow.line).flatMap fun line => line ++ [0x0A] := by
  rw [hexDump, Bytes.chunks_eq_map rowSize_pos, dumpRows_map, List.flatMap_cons, rowsOf, List.map_map, List.flatMap_map]
  rfl

theorem readDump?_hexDump (image : Bytes) : readDump? (hexDump image) = some (rowsOf image) := by
  have hplain : ∀ line ∈ heading :: (rowsOf image).map DumpRow.line, Source.Plain line := by
    intro line hline
    rcases List.mem_cons.1 hline with rfl | hline
    · decide
    · obtain ⟨row, -, rfl⟩ := List.mem_map.1 hline
      exact DumpRow.plain_of_shown row.shown_line
  have hlines : ((rowsOf image).map DumpRow.line).mapM DumpRow.ofLine? = some (rowsOf image) :=
    mapM_map_of_read (fun row => DumpRow.ofLine?_of_shown row.shown_line) (rowsOf image)
  rw [readDump?, hexDump_eq, Source.ofText_terminated hplain]
  exact (if_pos rfl).trans hlines

theorem ofHexDump?_hexDump (image : Bytes) : ofHexDump? (hexDump image) = some image := by
  have hbytes : (rowsOf image).flatMap DumpRow.bytes = image := by
    rw [rowsOf, List.flatMap_map, List.flatMap_def]
    exact Bytes.flatten_chunks rowSize_pos image
  rw [ofHexDump?, readDump?_hexDump, Option.map_some, hbytes]

/-! ### Byte lists -/

def ofByteList? (shown : Bytes) : Option Bytes :=
  let inner := (shown.drop 1).take (shown.length - 3)
  if inner.isEmpty then some []
  else ((Bytes.splitOn 0x20 inner).map (Bytes.dropFinal 0x2C)).mapM (byte? 10)

theorem ofByteList?_byteList (image : Bytes) : ofByteList? (byteList image) = some image := by
  have hinner : ((byteList image).drop 1).take ((byteList image).length - 3) =
      Bytes.join (text ", ") (image.map fun b => decimal b.toNat) := by
    generalize hlist : Bytes.join (text ", ") (image.map fun b => decimal b.toNat) = inner
    have hshown : byteList image = 0x5B :: (inner ++ [0x5D, 0x0A]) := by
      rw [byteList, hlist]
      rfl
    rw [hshown, List.drop_succ_cons, List.drop_zero, List.length_cons, List.length_append]
    exact List.take_left
  rw [ofByteList?, hinner]
  cases image with
  | nil => rfl
  | cons b image =>
    have hfree : ∀ piece ∈ (b :: image).map (fun b => decimal b.toNat), 0x20 ∉ piece ∧ 0x2C ∉ piece := by
      intro piece hpiece
      obtain ⟨b, -, rfl⟩ := List.mem_map.1 hpiece
      exact ⟨(printed_decimal b.toNat).not_mem (by decide), (printed_decimal b.toNat).not_mem (by decide)⟩
    have hsome : decimal b.toNat ≠ [] := List.ne_nil_of_length_pos (printed_decimal b.toNat).width_le
    have hinner : ¬(Bytes.join (text ", ") ((b :: image).map fun b => decimal b.toNat)).isEmpty := by
      rw [List.isEmpty_iff]
      cases image <;> simp [Bytes.join, hsome]
    rw [if_neg hinner, Bytes.dropFinal_splitOn_join (by simp) hfree]
    exact mapM_map_of_read (fun b => (printed_decimal b.toNat).byte?_eq (Nat.le_refl 1)) _

/-! ### Both are lossless -/

theorem injective_of_read {mode : Mode} {read? : Bytes → Option Bytes}
    (h : ∀ image, ∃ shown, render mode image = .ok shown ∧ read? shown = some image) :
    Function.Injective (render mode) := by
  intro image image' hsame
  obtain ⟨shown, hshown, hread⟩ := h image
  obtain ⟨shown', hshown', hread'⟩ := h image'
  rw [hshown, hshown'] at hsame
  rw [Except.ok.inj hsame, hread'] at hread
  exact (Option.some.inj hread).symm

/-- A dump is its heading and a row for every sixteen bytes, of which only the last may be shorter and none is
empty. A dump and a byte list can be read again, so images that differ are shown differently. -/
theorem renderings_lossless :
    (∀ image : Bytes, ∃ lines : List Bytes,
      render .hex image = .ok (text "ADDR   DATA\n" ++ lines.flatMap (fun line => line ++ text "\n")) ∧
      lines.length = (image.length + 15) / 16 ∧
      ∀ k line, lines[k]? = some line →
        DumpRow.Shown ⟨0x200 + 16 * k, (image.drop (16 * k)).take 16⟩ line ∧
        (image.drop (16 * k)).take 16 ≠ [] ∧
        (k + 1 < lines.length → ((image.drop (16 * k)).take 16).length = 16)) ∧
      (∀ image, ∃ shown, render .hex image = .ok shown ∧ ofHexDump? shown = some image) ∧
      (∀ image, ∃ shown, render .stdout image = .ok shown ∧ ofByteList? shown = some image) ∧
      Function.Injective (render .hex) ∧ Function.Injective (render .stdout) := by
  have hdump : ∀ image, ∃ shown, render .hex image = .ok shown ∧ ofHexDump? shown = some image :=
    fun image => ⟨hexDump image, rfl, ofHexDump?_hexDump image⟩
  have hlist : ∀ image, ∃ shown, render .stdout image = .ok shown ∧ ofByteList? shown = some image :=
    fun image => ⟨byteList image, rfl, ofByteList?_byteList image⟩
  refine ⟨fun image => ?_, hdump, hlist, injective_of_read hdump, injective_of_read hlist⟩
  refine ⟨(rowsOf image).map DumpRow.line, ?_, ?_, ?_⟩
  · show Except.ok (hexDump image) = _
    rw [hexDump_eq, List.flatMap_cons]
    rfl
  · rw [List.length_map, rowsOf, List.length_map, List.length_range]
    rfl
  · intro k line hline
    rw [List.getElem?_map, Option.map_eq_some_iff] at hline
    obtain ⟨row, hrow, rfl⟩ := hline
    obtain ⟨hk, rfl⟩ := getElem?_rowsOf.1 hrow
    have hbytes : (rowAt image k).bytes = (image.drop (16 * k)).take 16 := by rw [rowAt_eq]
    rw [← rowAt_eq, ← hbytes]
    refine ⟨DumpRow.shown_line _, ?_, ?_⟩
    · exact List.ne_nil_of_length_pos (Bytes.length_chunk rowSize_pos image hk).1
    · intro hnext
      rw [List.length_map, rowsOf, List.length_map, List.length_range] at hnext
      exact Bytes.length_chunk_eq rowSize_pos image hnext

/-- Of seventeen bytes, the first row shows sixteen and the second the one that is left. -/
theorem renderings_lossless_second_row : ∃ (lines : List Bytes) (first second : Bytes),
    render .hex (List.replicate 16 0x00 ++ [0xEE]) =
        .ok (text "ADDR   DATA\n" ++ lines.flatMap (fun line => line ++ text "\n")) ∧
      lines[0]? = some first ∧ DumpRow.Shown ⟨0x200, List.replicate 16 0x00⟩ first ∧
      lines[1]? = some second ∧ DumpRow.Shown ⟨0x210, [0xEE]⟩ second := by
  obtain ⟨lines, hshown, hlength, hrows⟩ := renderings_lossless.1 (List.replicate 16 0x00 ++ [0xEE])
  have htwo : lines.length = 2 := hlength
  have hfirst : lines[0]? = some lines[0] := List.getElem?_eq_getElem (by omega)
  have hsecond : lines[1]? = some lines[1] := List.getElem?_eq_getElem (by omega)
  exact ⟨lines, lines[0], lines[1], hshown, hfirst, (hrows 0 _ hfirst).1, hsecond, (hrows 1 _ hsecond).1⟩

end Image

end Chip8
