import Chip8.Link.Basic

/-!
A serial port with a script, and the two transfers over it. A read is repeated while it is
interrupted; a write is repeated while it is interrupted and continued while it takes only a part.
Both go through the script one result at a time, so they end with it at the latest. Past the end of
the script no byte comes and every write takes all it is offered.
-/

namespace Chip8

/-- What one read of the port brings: a byte or none, and an error or none. -/
structure PortRead where
  byte : Option UInt8
  error : Option PortError
  deriving DecidableEq, Repr

/-- What one write to the port does: how many bytes it would take, and an error or none. A port that
is out of order may report less than no bytes. -/
structure PortWrite where
  capacity : Int
  error : Option PortError
  deriving DecidableEq, Repr

/-- A call on the port and what it moved. -/
inductive PortEvent where
  | timeout (time : Int)
  | read (delivered : Option UInt8)
  | write (offered : Bytes) (taken : Nat)
  | close
  deriving DecidableEq, Repr

/-- A port that answers from a script. -/
structure Port where
  reads : List PortRead
  writes : List PortWrite
  timeouts : List (Option PortError)
  closes : List (Option PortError)
  deriving DecidableEq, Repr

namespace Port

def nextError (script : List (Option PortError)) : Option PortError × List (Option PortError) :=
  match script with
  | [] => (none, [])
  | e :: rest => (e, rest)

/-- The outcome of a transfer: its result, the rest of the script and the calls it made. -/
structure Transfer (α : Type) (β : Type) where
  result : α
  rest : List β
  calls : List PortEvent

/-- Reads until a read is not interrupted. -/
def readByte (timeout : Int) : List PortRead → Transfer (Except LinkError UInt8) PortRead
  | [] => ⟨.error (.noResponse timeout), [], [.read none]⟩
  | r :: rest =>
    match r.error with
    | some e =>
      if e.isInterruption then
        let later := readByte timeout rest
        { later with calls := .read r.byte :: later.calls }
      else ⟨.error (.port e), rest, [.read r.byte]⟩
    | none =>
      match r.byte with
      | some b => ⟨.ok b, rest, [.read (some b)]⟩
      | none => ⟨.error (.noResponse timeout), rest, [.read none]⟩

/-- Writes until all bytes are taken. `device` is named if a write takes none. -/
def writeAll (device : Bytes) :
    List PortWrite → Bytes → Transfer (Except Crash (Except LinkError Unit)) PortWrite
  | script, [] => ⟨.ok (.ok ()), script, []⟩
  | [], bytes => ⟨.ok (.ok ()), [], [.write bytes bytes.length]⟩
  | w :: rest, bytes =>
    let taken := min w.capacity.toNat bytes.length
    match w.error with
    | some e =>
      if e.isInterruption then
        let later := writeAll device rest bytes
        { later with calls := .write bytes taken :: later.calls }
      else ⟨.ok (.error (.port e)), rest, [.write bytes taken]⟩
    | none =>
      if w.capacity < 0 then ⟨.error (.startOutOfRange w.capacity), rest, [.write bytes 0]⟩
      else if taken = 0 then ⟨.ok (.error (.nothingTaken device)), rest, [.write bytes 0]⟩
      else
        let later := writeAll device rest (bytes.drop taken)
        { later with calls := .write bytes taken :: later.calls }

end Port

end Chip8
