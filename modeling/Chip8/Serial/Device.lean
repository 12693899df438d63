import Chip8.Serial.Port

/-!
The board's serial device: a named port that a session can use as its link until it is closed.
Bytes that pass are noted in the log if that is wanted. Using the port after it was closed is a
fault.
-/

namespace Chip8

/-- A device, the calls it made on its port and what it noted. -/
structure Device where
  name : Bytes
  port : Port
  isOpen : Bool
  debug : Bool
  trace : List PortEvent
  log : Bytes

namespace Device

def sendingNote (bytes : Bytes) : Bytes := text "Write: " ++ Numeral.hexPairs bytes

def receivedNote (b : UInt8) : Bytes := text "ReadFor: 0x" ++ Numeral.hexUpper 2 b.toNat

def noted (d : Device) (line : Bytes) : Device := { d with log := d.log ++ line ++ text "\n" }

/-- The device with a line added if passing bytes are to be noted. -/
def debugNoted (d : Device) (line : Bytes) : Device := if d.debug then d.noted line else d

def receive (d : Device) (timeout : Int) : Except Crash (Except LinkError UInt8) × Device :=
  if ¬d.isOpen then (.error .portNotOpen, d)
  else
    let (error, timeouts) := Port.nextError d.port.timeouts
    let d := { d with port := { d.port with timeouts := timeouts }, trace := d.trace ++ [.timeout timeout] }
    match error with
    | some e => (.ok (.error (.port e)), d)
    | none =>
      let read := Port.readByte timeout d.port.reads
      let d := { d with port := { d.port with reads := read.rest }, trace := d.trace ++ read.calls }
      match read.result with
      | .error e => (.ok (.error e), d)
      | .ok b => (.ok (.ok b), d.debugNoted (receivedNote b))

/-- Sends bytes. Sending none makes no call on the port. -/
def send (d : Device) (bytes : Bytes) : Except Crash (Except LinkError Unit) × Device :=
  let d := d.debugNoted (sendingNote bytes)
  if bytes.isEmpty then (.ok (.ok ()), d)
  else if ¬d.isOpen then (.error .portNotOpen, d)
  else
    let write := Port.writeAll d.name d.port.writes bytes
    (write.result,
      { d with port := { d.port with writes := write.rest }, trace := d.trace ++ write.calls })

inductive CloseError where
  | notOpen
  | port (error : PortError)
  deriving DecidableEq, Repr

def CloseError.message : CloseError → Bytes
  | notOpen => text "internal error: close(): port not open"
  | port e => e.message

/-- The device with a message added to its log, on a line of its own. -/
def notedLine (d : Device) (message : Bytes) : Device :=
  if message.getLast? = some 0x0A then { d with log := d.log ++ message } else d.noted message

/-- Closes the port. A port that fails to close stays open. -/
def close (d : Device) : Except CloseError Unit × Device :=
  if ¬d.isOpen then (.error .notOpen, d)
  else
    let (error, closes) := Port.nextError d.port.closes
    let d := { d with port := { d.port with closes := closes }, trace := d.trace ++ [PortEvent.close] }
    match error with
    | some e => (.error (.port e), d.notedLine (text "close serial port: " ++ e.message))
    | none => (.ok (), { d.noted (text "serial port closed") with isOpen := false })

def handle : Program.Handler Link Device
  | .receive timeout, d => d.receive timeout
  | .send bytes, d => d.send bytes
  | .note line, d => (.ok (), d.noted line)
  | .pause _, d => (.ok (), d)

def cleared (d : Device) : Device := { d with trace := [], log := [] }

end Device

end Chip8
