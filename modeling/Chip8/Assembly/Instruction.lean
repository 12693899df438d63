import Chip8.Assembly.Opcode

/-!
The instructions of the machine, each with what it works on, and the word that encodes each. An
instruction is what a statement means once its spelling is forgotten: the form, the registers and
the value of each number or address.
-/

namespace Chip8

/-- A general register, V0 to VF. -/
abbrev Register := Fin 16

/-- A twelve-bit address: the leading digit and the byte that follows it. -/
structure Address where
  page : Fin 16
  offset : UInt8
  deriving DecidableEq, Repr

/-- The operations on a pair of registers that share one leading digit. -/
inductive PairOp where
  | or | and | xor | sub | shr | subn | shl
  deriving DecidableEq, Repr

/-- The last digit of a register pair instruction. -/
def PairOp.code : PairOp → Fin 16
  | or => 0x1
  | and => 0x2
  | xor => 0x3
  | sub => 0x5
  | shr => 0x6
  | subn => 0x7
  | shl => 0xE

inductive Instruction where
  | nop
  | clearScreen
  | returnFromCall
  | jump (target : Address)
  | jumpOffset (target : Address)
  | call (target : Address)
  | skipIfSame (x y : Register)
  | skipIfByte (x : Register) (value : UInt8)
  | loadDelay (x : Register)
  | loadKey (x : Register)
  | loadMemory (x : Register)
  | loadRegister (x y : Register)
  | loadByte (x : Register) (value : UInt8)
  | loadIndex (target : Address)
  | storeDelay (x : Register)
  | storeSound (x : Register)
  | pointAtDigit (x : Register)
  | storeDecimal (x : Register)
  | storeMemory (x : Register)
  | addToIndex (x : Register)
  | addRegister (x y : Register)
  | addByte (x : Register) (value : UInt8)
  | pair (op : PairOp) (x y : Register)
  | skipIfOther (x y : Register)
  | random (x : Register) (mask : UInt8)
  | draw (x y : Register) (rows : Fin 16)
  | skipIfPressed (x : Register)
  | skipIfReleased (x : Register)
  deriving DecidableEq, Repr

namespace Instruction

/-- An instruction word that ends in an address. -/
def addressed (lead : Fin 16) (target : Address) : Opcode := ⟨packNibbles lead target.page, target.offset⟩

/-- An instruction word that ends in a byte. -/
def immediate (lead : Fin 16) (x : Register) (low : UInt8) : Opcode := ⟨packNibbles lead x, low⟩

/-- An instruction word of four digits. -/
def paired (lead : Fin 16) (x y : Register) (last : Fin 16) : Opcode :=
  ⟨packNibbles lead x, packNibbles y last⟩

def opcode : Instruction → Opcode
  | nop => ⟨0x00, 0x00⟩
  | clearScreen => ⟨0x00, 0xE0⟩
  | returnFromCall => ⟨0x00, 0xEE⟩
  | jump a => addressed 0x1 a
  | call a => addressed 0x2 a
  | skipIfByte x k => immediate 0x3 x k
  | skipIfSame x y => paired 0x5 x y 0x0
  | loadByte x k => immediate 0x6 x k
  | addByte x k => immediate 0x7 x k
  | loadRegister x y => paired 0x8 x y 0x0
  | addRegister x y => paired 0x8 x y 0x4
  | pair op x y => paired 0x8 x y op.code
  | skipIfOther x y => paired 0x9 x y 0x0
  | loadIndex a => addressed 0xA a
  | jumpOffset a => addressed 0xB a
  | random x k => immediate 0xC x k
  | draw x y n => paired 0xD x y n
  | skipIfPressed x => immediate 0xE x 0x9E
  | skipIfReleased x => immediate 0xE x 0xA1
  | loadDelay x => immediate 0xF x 0x07
  | loadKey x => immediate 0xF x 0x0A
  | storeDelay x => immediate 0xF x 0x15
  | storeSound x => immediate 0xF x 0x18
  | addToIndex x => immediate 0xF x 0x1E
  | pointAtDigit x => immediate 0xF x 0x29
  | storeDecimal x => immediate 0xF x 0x33
  | storeMemory x => immediate 0xF x 0x55
  | loadMemory x => immediate 0xF x 0x65

end Instruction

end Chip8
