import Chip8.Files
import Chip8.Link.Basic

/-!
What the commands ask of the machine they run on: files, the two outputs, the log, and a serial
line. The outputs are kept apart: what was asked for is printed, and errors and the log go to the
second output.
-/

namespace Chip8

inductive SystemOp where
  | isFile (path : Bytes)
  | read (path : Bytes)
  | store (path data : Bytes)
  | print (t : Bytes)
  | warn (t : Bytes)
  | log (command line : Bytes)
  | isTerminal
  | openLine (name : Bytes) (baud : Int)
  | receive (timeout : Int)
  | send (bytes : Bytes)
  | pause (time : Int)
  deriving DecidableEq, Repr

@[reducible] def SystemOp.Answer : SystemOp → Type
  | isFile _ => Bool
  | read _ => Except FileError Bytes
  | store _ _ => Except FileError Unit
  | print _ => Except FileError Unit
  | warn _ => Unit
  | log _ _ => Unit
  | isTerminal => Bool
  | openLine _ _ => Except FileError Unit
  | receive _ => Except LinkError UInt8
  | send _ => Except LinkError Unit
  | pause _ => Unit

@[reducible] def System : Interface := ⟨SystemOp, SystemOp.Answer⟩

namespace System

/-- Whether a path leads to something that is not a directory. -/
def isFile (path : Bytes) : Program System Bool := .call (.isFile path) .done

def read (path : Bytes) : Program System (Except FileError Bytes) := .call (.read path) .done

/-- Makes a file anew. If that fails, the file may have been made, and may hold a part of the data. -/
def store (path data : Bytes) : Program System (Except FileError Unit) := .call (.store path data) .done

def print (t : Bytes) : Program System (Except FileError Unit) := .call (.print t) .done

/-- Writes to the second output. What comes of that is not asked. -/
def warn (t : Bytes) : Program System Unit := .call (.warn t) .done

def log (command line : Bytes) : Program System Unit := .call (.log command line) .done

/-- Whether the second output is a terminal. -/
def isTerminal : Program System Bool := .call .isTerminal .done

def openLine (name : Bytes) (baud : Int) : Program System (Except FileError Unit) :=
  .call (.openLine name baud) .done

def receive (timeout : Int) : Program System (Except LinkError UInt8) := .call (.receive timeout) .done

def send (bytes : Bytes) : Program System (Except LinkError Unit) := .call (.send bytes) .done

def pause (time : Int) : Program System Unit := .call (.pause time) .done

end System

end Chip8
