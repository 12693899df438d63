import Chip8.Link.Basic
import Chip8.Link.Protocol

/-!
A session with the board. Commands are framed: a fixed part is sent, its acknowledgement is awaited,
and then as many response bytes as were asked for are read. Synchronizing sends one command until it
is acknowledged once and then takes in the acknowledgements that earlier attempts may still bring.
An image is written page by page, each page behind its address.
-/

namespace Chip8

/-- How a session behaves. Times are in nanoseconds. -/
structure SessionOptions where
  loadBase : UInt16
  chunkSize : Int
  responseDelay : Int
  syncTries : Int
  retryDelay : Int
  run : Bool
  /-- Whether every command is noted in the log. -/
  debug : Bool
  deriving DecidableEq, Repr

inductive SessionError where
  | emptyImage
  | imageTooLong (size : Nat) (base : UInt16)
  | chunkSize (size : Int)
  | notSynchronized (tries : Int)
  | version (host board : UInt8)
  | unexpectedResponse (command response : UInt8)
  | invalidCommand (fixed : Bytes)
  | invalidExpectation
  | countMismatch (size count : Nat)
  | link (error : LinkError)
  | atAddress (address : Nat) (cause : SessionError)
  | atPage (address : Nat) (cause : SessionError)
  deriving DecidableEq, Repr

def memoryEnd : Nat := 0x1000

def SessionError.message : SessionError → Bytes
  | emptyImage => text "upload: empty image"
  | imageTooLong size base =>
    text "upload: image of " ++ Numeral.decimal size ++ text " bytes at 0x" ++
      Numeral.hexUpper 3 base.toNat ++ text " ends past 0x" ++ Numeral.hexUpper 3 memoryEnd
  | chunkSize size =>
    text "upload: chunk size " ++ Numeral.signed size ++ text " must be in 1.." ++
      Numeral.decimal Protocol.maxPage
  | notSynchronized tries =>
    text "failed to synchronize after " ++ Numeral.signed tries ++ text " tries"
  | version host board =>
    text "protocol version mismatch: host 0x" ++ Numeral.hexUpper 2 host.toNat ++ text ", board 0x" ++
      Numeral.hexUpper 2 board.toNat
  | unexpectedResponse command response =>
    text "command 0x" ++ Numeral.hexUpper 1 command.toNat ++ text ": unexpected response 0x" ++
      Numeral.hexUpper 1 response.toNat
  | invalidCommand fixed => text "invalid fixed command " ++ Numeral.hexPairs fixed
  | invalidExpectation => text "invalid fixed response expected"
  | countMismatch size count =>
    text "counted send: have " ++ Numeral.decimal size ++ text " bytes, count is " ++ Numeral.decimal count
  | link e => e.message
  | atAddress address cause =>
    text "set address 0x" ++ Numeral.hexUpper 3 address ++ text ": " ++ cause.message
  | atPage address cause =>
    text "write page at 0x" ++ Numeral.hexUpper 3 address ++ text ": " ++ cause.message

/-- How a part of a session ends. -/
abbrev Outcome := Except SessionError Unit

namespace Session

variable (opts : SessionOptions)

def debugNote (line : Bytes) : Program Link Unit :=
  if opts.debug then Link.note line else .done ()

def awaitAck (command : UInt8) : Program Link Outcome := do
  match ← Link.receive opts.responseDelay with
  | .error e => return .error (.link e)
  | .ok b =>
    if b = Protocol.ack command then return .ok ()
    else return .error (.unexpectedResponse command b)

/-- Reads `count` bytes behind those already read, up to the first that does not come. -/
def readResponse (count : Nat) (soFar : Bytes) : Program Link (Bytes × Outcome) :=
  match count with
  | 0 => .done (soFar, .ok ())
  | count + 1 => do
    match ← Link.receive opts.responseDelay with
    | .error e => return (soFar, .error (.link e))
    | .ok b => readResponse count (soFar ++ [b])

/-- Whether bytes are a command with all its arguments. -/
def isComplete (fixed : Bytes) : Bool :=
  match fixed with
  | [] => false
  | command :: arguments => Protocol.argumentCount? command = some arguments.length

/-- The most response bytes that can be asked for. -/
def maxExpected : Int := 8

/-- Sends the fixed part of a command, waits for its acknowledgement and reads the expected number of
response bytes. What arrived of the response is there also if it fails. -/
def fixedCommand (fixed : Bytes) (expected : Int) : Program Link (Bytes × Outcome) :=
  match fixed with
  | [] => .done ([], .error (.invalidCommand fixed))
  | command :: _ =>
    if ¬isComplete fixed then .done ([], .error (.invalidCommand fixed))
    else if expected < 0 ∨ expected > maxExpected then .done ([], .error .invalidExpectation)
    else do
      debugNote opts (text "doFixedCommand: sending " ++ Numeral.hexPairs fixed)
      match ← Link.send fixed with
      | .error e => return ([], .error (.link e))
      | .ok () =>
        match ← awaitAck opts command with
        | .error e => return ([], .error e)
        | .ok () => readResponse opts expected.toNat []

/-- A command without arguments and without a response. -/
def command (c : UInt8) : Program Link Outcome := do
  return (← fixedCommand opts [c] 0).2

/-- Sends a command whose last byte counts the bytes that follow it, and then these. -/
def countedSend (fixed counted : Bytes) : Program Link Outcome :=
  match fixed.getLast? with
  | none => .halt (.indexOutOfRange (-1))
  | some count =>
    if counted.length ≠ count.toNat then .done (.error (.countMismatch counted.length count.toNat))
    else do
      match (← fixedCommand opts fixed 0).2 with
      | .error e => return .error e
      | .ok () =>
        debugNote opts (text "doCountedSend(): sending " ++ Numeral.decimal counted.length)
        match ← Link.send counted with
        | .error e => return .error (.link e)
        | .ok () => return .ok ()

/-- Takes in bytes that may or may not still come. -/
def drain (count : Nat) : Program Link Unit :=
  match count with
  | 0 => .done ()
  | count + 1 => do
    let _ ← Link.receive opts.responseDelay
    drain count

/-- Sends the synchronizing command up to `left` times after `failed` attempts that failed. -/
def syncAfter (failed : Nat) (left : Nat) : Program Link Outcome :=
  match left with
  | 0 => .done (.error (.notSynchronized opts.syncTries))
  | left + 1 => do
    match ← command opts Protocol.sync with
    | .ok () =>
      drain opts failed
      return .ok ()
    | .error e =>
      Link.note (text "sync command failed: " ++ e.message)
      if left > 0 then
        Link.pause opts.retryDelay
        syncAfter (failed + 1) left
      else syncAfter (failed + 1) left

/-- Brings the board to listen for commands. -/
def synchronize : Program Link Outcome := syncAfter opts 0 opts.syncTries.toNat

def checkVersion : Program Link Outcome := do
  match ← fixedCommand opts [Protocol.getVersion] 1 with
  | (_, .error e) => return .error e
  | ([], .ok ()) => .halt (.indexOutOfRange 0)
  | (board :: _, .ok ()) =>
    if board = Protocol.version then return .ok ()
    else return .error (.version Protocol.version board)

def connect : Program Link Outcome := do
  match ← synchronize opts with
  | .error e => return .error e
  | .ok () =>
    match ← checkVersion opts with
    | .error e => return .error e
    | .ok () =>
      debugNote opts (text "protocol version OK")
      return .ok ()

/-- Bytes and the address they go to. -/
structure Page where
  address : Nat
  payload : Bytes
  deriving DecidableEq, Repr

/-- Pieces of `size` bytes put one behind the other. -/
def pagesFrom (size : Nat) (address : Nat) : List Bytes → List Page
  | [] => []
  | piece :: pieces => ⟨address, piece⟩ :: pagesFrom size (address + size) pieces

def sendAddress (address : Nat) : Program Link Outcome := do
  match (← fixedCommand opts [Protocol.setAddress, (address / 256).toUInt8, address.toUInt8] 0).2 with
  | .error e => return .error (.atAddress address e)
  | .ok () => return .ok ()

/-- Sends the pages in order, each behind its address. -/
def sendPages : List Page → Program Link Outcome
  | [] => .done (.ok ())
  | page :: pages => do
    match ← sendAddress opts page.address with
    | .error e => return .error e
    | .ok () =>
      match ← countedSend opts [Protocol.writePage, page.payload.length.toUInt8] page.payload with
      | .error e => return .error (.atPage page.address e)
      | .ok () => sendPages pages

/-- The pages of an image. A page size of 0 makes no way, so the same empty page comes `patience`
times. -/
def pages (image : Bytes) (patience : Nat) : List Page :=
  if image.isEmpty then []
  else if opts.chunkSize = 0 then List.replicate patience ⟨opts.loadBase.toNat, []⟩
  else pagesFrom opts.chunkSize.toNat opts.loadBase.toNat (Bytes.chunks opts.chunkSize.toNat image)

/-- Sends an image. A negative page size cuts the first page before its start. -/
def sendImage (image : Bytes) (patience : Nat) : Program Link Outcome :=
  if opts.chunkSize < 0 ∧ ¬image.isEmpty then do
    match ← sendAddress opts opts.loadBase.toNat with
    | .error e => return .error e
    | .ok () => .halt (.boundOutOfRange opts.chunkSize)
  else sendPages opts (pages opts image patience)

def download (image : Bytes) (patience : Nat) : Program Link Outcome := do
  Link.note (text "uploading " ++ Numeral.decimal image.length ++ text " bytes at 0x" ++
    Numeral.hexUpper 3 opts.loadBase.toNat)
  match ← sendImage opts image patience with
  | .error e => return .error e
  | .ok () =>
    Link.note (text "upload complete")
    return .ok ()

/-- What is wrong with an image or with options, before anything is sent. -/
def refusal? (image : Bytes) : Option SessionError :=
  if image.isEmpty then some .emptyImage
  else if opts.loadBase.toNat + image.length > memoryEnd then
    some (.imageTooLong image.length opts.loadBase)
  else if opts.chunkSize < 1 ∨ opts.chunkSize > Protocol.maxPage then some (.chunkSize opts.chunkSize)
  else none

/-- Connects, writes the image and starts it if that is wanted. -/
def conduct (image : Bytes) : Program Link Outcome := do
  match ← connect opts with
  | .error e => return .error e
  | .ok () =>
    match ← download opts image 0 with
    | .error e => return .error e
    | .ok () =>
      if opts.run then
        Link.note (text "starting image")
        command opts Protocol.run
      else return .ok ()

/-- Uploads an image. Fewer than one attempt to synchronize are taken as one. -/
def upload (image : Bytes) : Program Link Outcome :=
  match refusal? opts image with
  | some e => .done (.error e)
  | none => conduct { opts with syncTries := max 1 opts.syncTries } image

end Session

end Chip8
