import Chip8.Settings.Decode
import Chip8.System

/-!
Loading settings. What a file says is put over the defaults and the result is judged. Without a path
the default file is read, and it may be missing.

What a document says is settled by a decoder, which has its own errors and its own words for them; that
of the program reads YAML. Loading uses nothing else of it.
-/

namespace Chip8

namespace Settings

/-- A reader of documents. It puts what a document says over settings; where it finds an error, it may have
put some of it there. -/
structure Decoder where
  Error : Type
  message : Error → Bytes
  decode : Settings → Bytes → Except Crash (Settings × Option Error)

@[reducible] def yaml : Decoder := ⟨DecodeError, DecodeError.message, decode⟩

end Settings

inductive SettingsError (ε : Type := Settings.DecodeError) where
  | file (error : FileError)
  | document (path : Bytes) (error : ε)
  | fault (fault : SettingsFault)
  deriving DecidableEq, Repr

/-- The text of an error. What is wrong with a document is told in the words of its decoder. -/
def SettingsError.message (decoder : Settings.Decoder := Settings.yaml) (e : SettingsError decoder.Error) : Bytes :=
  match e with
  | .file e => text "config: " ++ e.message
  | .document path e => text "config: " ++ path ++ text ": " ++ decoder.message e
  | .fault f => f.message

namespace Settings

/-- The file that is read where none is named. -/
def defaultFile : Bytes := text "slip8.yaml"

def fileOf (path : Bytes) : Bytes := if path.isEmpty then defaultFile else path

/-- The settings that a file with the given content makes of the defaults. -/
def ofDocument (decoder : Decoder) (path document : Bytes) :
    Except Crash (Settings × Option (SettingsError decoder.Error)) :=
  match decoder.decode default document with
  | .error c => .error c
  | .ok (s, some e) => .ok (s, some (.document path e))
  | .ok (s, none) => .ok (s, s.fault?.map .fault)

/-- Loads the settings of a file, or of the default file if the path is empty. -/
def load (path : Bytes) (decoder : Decoder := yaml) :
    Program System (Settings × Option (SettingsError decoder.Error)) := do
  match ← System.read (fileOf path) with
  | .ok document =>
    match ofDocument decoder (fileOf path) document with
    | .ok result => return result
    | .error c => .halt c
  | .error e =>
    if path.isEmpty ∧ e.cause = .missing then return (default, none)
    else return (default, some (.file e))

end Settings

end Chip8
