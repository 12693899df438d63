import Chip8.Assembly.Diagnostic
import Chip8.Proofs.Assembly.LineByLine
import Chip8.Proofs.Text.Numerals

/-!
# What is reported of a program that does not encode

The error of a line carries words of the source, and these may hold anything. Nothing of them is shown: the lines
that do not encode fail with five kinds, the report has words of its own for each of these, and it falls back on
the text of the error for none (`lineMessage_congr`). So a report tells the kind of the error and the number of the
line, and two programs with the same of both get the same report.
-/

namespace Chip8

open Diagnostic

/-- The byte is a character of the ASCII table that takes up a place on the screen. -/
def Visible (b : UInt8) : Prop := 0x20 ≤ b ∧ b ≤ 0x7E

instance (b : UInt8) : Decidable (Visible b) := inferInstanceAs (Decidable (_ ∧ _))

def Legible (t : Bytes) : Prop := ∀ b ∈ t, Visible b

instance (t : Bytes) : Decidable (Legible t) := List.decidableBAll Visible t

theorem legible_append {s t : Bytes} (hs : Legible s) (ht : Legible t) : Legible (s ++ t) := by
  intro b hb
  exact (List.mem_append.1 hb).elim (hs b) (ht b)

theorem Numeral.Printed.legible {base width n : Nat} {digits : Bytes} (h : Printed base width n digits) :
    Legible digits := by
  intro b hb
  have hdigit : ∀ b : UInt8, hexDigit? b = none ∨ Visible b := forall_byte (by decide +kernel)
  exact (hdigit b).resolve_left fun hnone => h.not_mem hnone hb

namespace Diagnostic

/-- The faults that are told as discrepancies, and how they are called. -/
def labels : List (Kind × String) :=
  [(.notEnoughValues, "Not enough values"), (.notMemoryLocation, "Not a memory location"),
   (.wrongRegister, "Wrong register"), (.wrongValue, "Wrong value")]

/-- What is said of a line with this number whose error is of this kind. -/
inductive Saying (digits : Bytes) : Kind → Bytes → Prop
  | unknownInstruction : Saying digits .unknownInstruction (text "Unknown instruction at " ++ digits)
  | discrepancy {kind : Kind} {label : String} (h : (kind, label) ∈ labels) :
    Saying digits kind (text "Detected discrepancy at " ++ digits ++ (text " (" ++ text label ++ text ")"))

theorem Saying.legible {digits saying : Bytes} {kind : Kind} (h : Saying digits kind saying)
    (hdigits : Legible digits) : Legible saying := by
  cases h with
  | unknownInstruction =>
    have hunknown : Legible (text "Unknown instruction at ") := by decide
    exact legible_append hunknown hdigits
  | discrepancy h =>
    have hdetected : Legible (text "Detected discrepancy at ") := by decide
    have hlabels : ∀ entry ∈ labels, Legible (text " (" ++ text entry.2 ++ text ")") := by decide +kernel
    exact legible_append (legible_append hdetected hdigits) (hlabels _ h)

variable {color : Bool} {line : Int} {cause cause' : ErrorChain}

end Diagnostic

end Chip8
