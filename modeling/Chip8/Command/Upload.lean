import Chip8.Command.Dump
import Chip8.Serial.Device
import Chip8.Settings.Load

/-!
The `upload` command: sends an image file to the board over a serial line. The settings are those of
the file with the given flags put over them; they are judged once as the file gives them and once
with the flags.
-/

namespace Chip8.Command

structure UploadFlags where
  config : Bytes
  device : Option Bytes
  baud : Option Int
  run : Bool
  debug : Bool
  deriving DecidableEq, Repr

namespace Upload

def name : Bytes := text "upload"

def log (line : Bytes) : Program System Unit := System.log name line

def overlaid (flags : UploadFlags) (s : Settings) : Settings :=
  { s with device := flags.device.getD s.device, baud := flags.baud.getD s.baud }

def debugLog (debug : Bool) (line : Bytes) : Program System Unit :=
  if debug then log line else .done ()

/-- What a session asks of its link, carried out on the open serial line. -/
def serve (debug : Bool) : (op : LinkOp) → Program System op.Answer
  | .receive timeout => do
    match ← System.receive timeout with
    | .ok b => do
      debugLog debug (Device.receivedNote b)
      return .ok b
    | .error e => return .error e
  | .send bytes => do
    debugLog debug (Device.sendingNote bytes)
    System.send bytes
  | .note line => log line
  | .pause time => System.pause time

/-- Waits for a board that was reset by the opening of its line. -/
def awaitReset (s : Settings) : Program System Unit :=
  if s.resetDelay > 0 then do
    log (text "serial port " ++ s.device ++ text " is open - delaying " ++ Duration.shown s.resetDelay ++
      text " for reset")
    System.pause s.resetDelay
  else .done ()

/-- Sends the image at a path under legal settings. -/
def send (flags : UploadFlags) (s : Settings) (path : Bytes) : Program System (Except ErrorChain Unit) := do
  match ← readImage path with
  | .error e => return .error e
  | .ok image =>
    match ← System.openLine s.device s.baud with
    | .error e => return .error (.plain e.message)
    | .ok () =>
      awaitReset s
      match ← (Session.upload (s.sessionOptions flags.run flags.debug) image).through (serve flags.debug) with
      | .error e => return .error (.plain e.message)
      | .ok () =>
        log (path ++ text ": " ++ Numeral.decimal image.length ++ text " bytes uploaded to " ++ s.device)
        return .ok ()

/-- Uploads the image at a path, under settings that the decoder reads. -/
def run (flags : UploadFlags) (path : Bytes) (decoder : Settings.Decoder := Settings.yaml) :
    Program System (Except ErrorChain Unit) := do
  match ← Settings.load flags.config decoder with
  | (_, some e) => return .error (.plain (e.message decoder))
  | (s, none) =>
    match (overlaid flags s).fault? with
    | some fault => return .error (.plain fault.message)
    | none => send flags (overlaid flags s) path

end Upload

end Chip8.Command
