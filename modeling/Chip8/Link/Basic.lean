import Chip8.Interaction
import Chip8.Text.Duration

/-!
The link to the board as a session sees it: a byte can be asked for with a time limit, bytes can be
sent, and both can fail. Notes for the log and pauses between attempts are calls as well, so that a
run of a session shows them in their place.
-/

namespace Chip8

/-- A failure of a serial port. A call that was interrupted may be repeated, however deeply the
interruption is wrapped. -/
inductive PortError where
  | interrupted
  | failed (message : Bytes)
  | within (context : Bytes) (cause : PortError)
  deriving DecidableEq, Repr

namespace PortError

def message : PortError → Bytes
  | interrupted => text "interrupted system call"
  | failed m => m
  | within context cause => context ++ text ": " ++ cause.message

def isInterruption : PortError → Bool
  | interrupted => true
  | failed _ => false
  | within _ cause => cause.isInterruption

end PortError

inductive LinkError where
  | port (error : PortError)
  | noResponse (timeout : Int)
  | nothingTaken (device : Bytes)
  deriving DecidableEq, Repr

def LinkError.message : LinkError → Bytes
  | port e => e.message
  | noResponse timeout => text "read from device: no response after " ++ Duration.shown timeout
  | nothingTaken device => text "write to " ++ device ++ text " consumed 0 bytes"

/-- What a session asks of its link. Times are in nanoseconds. -/
inductive LinkOp where
  | receive (timeout : Int)
  | send (bytes : Bytes)
  | note (line : Bytes)
  | pause (time : Int)
  deriving DecidableEq, Repr

@[reducible] def LinkOp.Answer : LinkOp → Type
  | receive _ => Except LinkError UInt8
  | send _ => Except LinkError Unit
  | note _ => Unit
  | pause _ => Unit

@[reducible] def Link : Interface := ⟨LinkOp, LinkOp.Answer⟩

namespace Link

def receive (timeout : Int) : Program Link (Except LinkError UInt8) := .call (.receive timeout) .done

def send (bytes : Bytes) : Program Link (Except LinkError Unit) := .call (.send bytes) .done

def note (line : Bytes) : Program Link Unit := .call (.note line) .done

def pause (time : Int) : Program Link Unit := .call (.pause time) .done

end Link

end Chip8
