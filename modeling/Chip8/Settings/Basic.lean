import Chip8.Link.Session

/-!
Settings for talking to the board: which serial device, at what speed, how long to wait, and how an
image is cut and where it goes. Settings are legal if none of the stated faults is in them, and the
first fault in the order stated is the one that is told.
-/

namespace Chip8

/-- The settings. Times are in nanoseconds. -/
structure Settings where
  device : Bytes
  baud : Int
  resetDelay : Int
  responseDelay : Int
  syncTries : Int
  retryDelay : Int
  loadBase : UInt16
  chunkSize : Int
  deriving DecidableEq, Repr

inductive SettingsFault where
  | noDevice
  | baud (rate : Int)
  | negativeDelay
  | syncTries
  | chunkSize (size : Int)
  | loadBase (base : UInt16)
  deriving DecidableEq, Repr

def SettingsFault.message : SettingsFault → Bytes
  | noDevice => text "config: no serial device"
  | baud rate => text "config: illegal baud rate " ++ Numeral.signed rate
  | negativeDelay => text "config: delays may not be negative"
  | syncTries => text "config: sync_tries must be at least 1"
  | chunkSize size => text "config: chunk_size " ++ Numeral.signed size ++ text " must be in 1..255"
  | loadBase base => text "config: illegal load_base 0x" ++ Numeral.hexUpper 1 base.toNat

namespace Settings

/-- What holds where nothing else is said. -/
def default : Settings where
  device := text "/dev/cu.usbserial-AQ0169PT"
  baud := 115200
  resetDelay := 3000000000
  responseDelay := 50000000
  syncTries := 3
  retryDelay := 1000000000
  loadBase := 0x200
  chunkSize := 64

/-- The first fault of settings. -/
def fault? (s : Settings) : Option SettingsFault :=
  if s.device.isEmpty then some .noDevice
  else if s.baud ≤ 0 then some (.baud s.baud)
  else if s.resetDelay < 0 ∨ s.responseDelay < 0 ∨ s.retryDelay < 0 then some .negativeDelay
  else if s.syncTries < 1 then some .syncTries
  else if s.chunkSize < 1 ∨ s.chunkSize > Protocol.maxPage then some (.chunkSize s.chunkSize)
  else if s.loadBase.toNat % 2 = 1 ∨ s.loadBase.toNat ≥ memoryEnd then some (.loadBase s.loadBase)
  else none

def sessionOptions (s : Settings) (run debug : Bool) : SessionOptions where
  loadBase := s.loadBase
  chunkSize := s.chunkSize
  responseDelay := s.responseDelay
  syncTries := s.syncTries
  retryDelay := s.retryDelay
  run := run
  debug := debug

end Settings

end Chip8
