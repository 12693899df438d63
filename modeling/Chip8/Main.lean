import Chip8.Command.Dispatch
import Std.Time.Zoned

/-!
The command line on a real machine: every request of a command is carried out where the program
runs. The line settings of the serial port are left as they are.
-/

namespace Chip8

/-- An open serial line. A read that was given up on is still waiting for its byte. -/
structure OpenLine where
  handle : IO.FS.Handle
  pending : Option (Task (Except IO.Error ByteArray))

namespace Machine

def string (t : Bytes) : String := (String.fromUTF8? ⟨t.toArray⟩).getD ""

def cause : IO.Error → FileCause
  | .noFileOrDirectory _ _ _ | .noSuchThing _ _ _ => .missing
  | .inappropriateType _ _ details =>
    if details.startsWith "Not" then .notDirectory else .isDirectory
  | .illegalOperation _ _ => .isDirectory
  | .invalidArgument _ _ _ => .invalidArgument
  | .resourceExhausted _ _ _ => .noSpace
  | .permissionDenied _ _ _ => .other (text "permission denied")
  | e => .other (text (toString e))

def attempt {α : Type} (action : FileAction) (path : Bytes) (act : IO α) : IO (Except FileError α) := do
  try return .ok (← act)
  catch e => return .error ⟨action, path, cause e⟩

def readFile (path : Bytes) : IO (Except FileError Bytes) := do
  match ← attempt .opening path (IO.FS.Handle.mk (string path) .read) with
  | .error e => return .error e
  | .ok handle => attempt .reading path do return (← handle.readBinToEnd).data.toList

def isFile (path : Bytes) : IO Bool := do
  match ← readFile path with
  | .ok _ => return true
  | .error ⟨_, _, .other _⟩ => return true
  | .error _ => return false

def storeFile (path data : Bytes) : IO (Except FileError Unit) := do
  match ← attempt .opening path (IO.FS.Handle.mk (string path) .write) with
  | .error e => return .error e
  | .ok handle =>
    attempt .writing path do
      handle.write ⟨data.toArray⟩
      handle.flush

def timeOfDay : IO Bytes := do
  try
    let micros := (← Std.Time.PlainTime.now).toNanoseconds.val.toNat / 1000
    let seconds := micros / 1000000
    let two (n : Nat) : Bytes := Bytes.padLeft 2 0x30 (Numeral.decimal n)
    return two (seconds / 3600) ++ text ":" ++ two (seconds / 60 % 60) ++ text ":" ++ two (seconds % 60) ++
      text "." ++ Bytes.padLeft 6 0x30 (Numeral.decimal (micros % 1000000)) ++ text " "
  catch _ => return []

def writeTo (stream : IO.FS.Stream) (t : Bytes) : IO Unit := do
  stream.write ⟨t.toArray⟩
  stream.flush

def milliseconds (ns : Int) : Nat := (ns.toNat + 999999) / 1000000

def sleep (ns : Int) : IO Unit := IO.sleep (milliseconds ns).toUInt32

def openLine (line : IO.Ref (Option OpenLine)) (name : Bytes) : IO (Except FileError Unit) := do
  match ← attempt .opening name (IO.FS.Handle.mk (string name) .readWrite) with
  | .error e => return .error e
  | .ok handle =>
    if ← handle.isTty then
      line.set (some ⟨handle, none⟩)
      return .ok ()
    else return .error ⟨.opening, name, .notSerial⟩

/-- Waits for a byte, looking for it every millisecond. -/
def receive (line : IO.Ref (Option OpenLine)) (timeout : Int) : IO (Except LinkError UInt8) := do
  match ← line.get with
  | none => return .error (.noResponse timeout)
  | some l =>
    let task ← match l.pending with
      | some task => pure task
      | none => IO.asTask (l.handle.read 1) .dedicated
    line.set (some { l with pending := some task })
    for _ in [0:milliseconds timeout] do
      if ← IO.hasFinished task then break
      IO.sleep 1
    if ← IO.hasFinished task then
      line.set (some { l with pending := none })
      match task.get with
      | .error e => return .error (.port (.failed (text (toString e))))
      | .ok bytes =>
        match bytes.data.toList with
        | b :: _ => return .ok b
        | [] => return .error (.noResponse timeout)
    else return .error (.noResponse timeout)

def send (line : IO.Ref (Option OpenLine)) (bytes : Bytes) : IO (Except LinkError Unit) := do
  match ← line.get with
  | none => return .ok ()
  | some l =>
    try
      l.handle.write ⟨bytes.toArray⟩
      l.handle.flush
      return .ok ()
    catch e => return .error (.port (.failed (text (toString e))))

def serve (line : IO.Ref (Option OpenLine)) : (op : SystemOp) → IO op.Answer
  | .isFile path => isFile path
  | .read path => readFile path
  | .store path data => storeFile path data
  | .print t => do attempt .writing (text "/dev/stdout") (writeTo (← IO.getStdout) t)
  | .warn t => do writeTo (← IO.getStderr) t
  | .log command entry => do
    writeTo (← IO.getStderr) ((← timeOfDay) ++ command ++ text ": " ++ entry ++ text "\n")
  | .isTerminal => do (← IO.getStderr).isTty
  | .openLine name _ => openLine line name
  | .receive timeout => receive line timeout
  | .send bytes => send line bytes
  | .pause time => sleep time

def run {α : Type} (line : IO.Ref (Option OpenLine)) : Program System α → IO (Except Crash α)
  | .done a => return .ok a
  | .halt crash => return .error crash
  | .call op next => do
    let answer ← serve line op
    run line (next answer)

/-- Carries out a command line and gives the exit code. -/
def execute (arguments : List String) : IO UInt32 := do
  match ← run (← IO.mkRef none) (Command.execute (arguments.map text)) with
  | .ok true => return 0
  | .ok false => return 1
  | .error crash =>
    writeTo (← IO.getStderr) (crash.message ++ text "\n")
    return 2

end Machine

end Chip8

def main (arguments : List String) : IO UInt32 := Chip8.Machine.execute arguments
