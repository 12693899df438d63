import Chip8.System

/-!
A machine as a value: its files, what its serial line still has to say, and what has been written to
its outputs, which are no terminals and take everything. Running a command on it gives the machine afterwards.
-/

namespace Chip8

structure World where
  files : FileTree
  /-- The bytes that the serial line has to read. Bytes sent on it are taken and dropped. -/
  incoming : Bytes
  out : Bytes
  err : Bytes

namespace World

def logLine (command line : Bytes) : Bytes := command ++ text ": " ++ line ++ text "\n"

/-- Whether opening what stands at a path as a serial line succeeds. -/
def openLine (w : World) (name : Bytes) : Except FileError Unit :=
  match w.files.stat name with
  | .error cause => .error ⟨.opening, name, cause⟩
  | .ok .serialLine => .ok ()
  | .ok .directory => .error ⟨.opening, name, .isDirectory⟩
  | .ok _ => .error ⟨.opening, name, .notSerial⟩

def handle : Program.Handler System World
  | .isFile path, w => (.ok (w.files.isFile path), w)
  | .read path, w => (.ok (w.files.contents path), w)
  | .store path data, w =>
    let (result, files) := w.files.store path data
    (.ok result, { w with files := files })
  | .print t, w => (.ok (.ok ()), { w with out := w.out ++ t })
  | .warn t, w => (.ok (), { w with err := w.err ++ t })
  | .log command line, w => (.ok (), { w with err := w.err ++ logLine command line })
  | .isTerminal, w => (.ok false, w)
  | .openLine name _, w => (.ok (w.openLine name), w)
  | .receive timeout, w =>
    match w.incoming with
    | [] => (.ok (.error (.noResponse timeout)), w)
    | b :: rest => (.ok (.ok b), { w with incoming := rest })
  | .send _, w => (.ok (.ok ()), w)
  | .pause _, w => (.ok (), w)

/-- A machine with the given files, a silent line and empty outputs. -/
def ofFiles (files : FileTree) : World := ⟨files, [], [], []⟩

end World

end Chip8
