import Chip8.Text.Bytes

/-!
The byte protocol between the host and the board. A command is one byte and a fixed number of
argument bytes. The board answers a complete command with its acknowledgement, and with a version
byte behind it if the version was asked for. A page command is followed by as many bytes as its
argument counts; these are not acknowledged.
-/

namespace Chip8.Protocol

/-- The version both sides have to speak. -/
def version : UInt8 := 1

/-- Answered with the acknowledgement only. -/
def sync : UInt8 := 0xF0

/-- Answered with the acknowledgement and the version. -/
def getVersion : UInt8 := 0xF1

/-- Takes the high and the low byte of the address that the next page goes to. -/
def setAddress : UInt8 := 0xF2

/-- Takes the number of bytes that follow. -/
def writePage : UInt8 := 0xF3

/-- Starts the image. -/
def run : UInt8 := 0xF4

/-- The most bytes one page carries. -/
def maxPage : Nat := 255

/-- The byte that accepts a command: its complement. -/
def ack (command : UInt8) : UInt8 := ~~~command

/-- How many argument bytes follow a command, if the byte is one. -/
def argumentCount? (command : UInt8) : Option Nat :=
  if command = sync ∨ command = getVersion ∨ command = run then some 0
  else if command = setAddress then some 2
  else if command = writePage then some 1
  else none

end Chip8.Protocol
