import Chip8.Assembly.Mnemonic
import Chip8.Assembly.Operand

/-!
Statements. A line is cut at every single blank; the first word is the mnemonic as it stands, and
each later word is an operand that loses at most one comma at its end. The mnemonic and the
operands then select an instruction. Operands behind those a form uses are ignored, except that a
jump with two operands or more is the offset form.
-/

namespace Chip8

/-- A line taken apart. -/
structure Statement where
  mnemonic : Bytes
  operands : List Bytes
  deriving DecidableEq, Repr

namespace Statement

def ofLine? (line : Bytes) : Option Statement :=
  match Bytes.splitOn 0x20 line with
  | [] => none
  | word :: words => some ⟨word, words.map (Bytes.dropFinal 0x2C)⟩

end Statement

namespace Mnemonic

def operandAt (operands : List Bytes) (i : Nat) : Reading Bytes := (operands[i]? : Option Bytes)

def readPair (name : Bytes) (operands : List Bytes) (make : Register → Register → Instruction) :
    Reading Instruction := do
  let x ← Operand.register name (← operandAt operands 0)
  let y ← Operand.register name (← operandAt operands 1)
  pure (make x y)

/-- A jump to an address, or to an address offset by V0 if there are two operands or more. -/
def readJump (name : Bytes) (operands : List Bytes) : Reading Instruction := do
  let first ← operandAt operands 0
  if operands.length = 1 then do
    return .jump (← Operand.address name first)
  else if first ≠ text "V0" then
    throw ⟨.wrongRegister, first,
      name ++ text ": can't offset by " ++ first ++ text ", only by V0"⟩
  else do
    return .jumpOffset (← Operand.address name (← operandAt operands 1))

/-- A skip on a register that equals another register or a number. -/
def readSkip (name : Bytes) (operands : List Bytes) : Reading Instruction := do
  let x ← Operand.register name (← operandAt operands 0)
  let second ← operandAt operands 1
  if Operand.isRegister second then do
    return .skipIfSame x (← Operand.register name second)
  else do
    match ← Operand.lead? second with
    | some _ => return .skipIfByte x (← Operand.byte name second)
    | none =>
      throw (Operand.found .wrongValue name "requires a register or a number, found " second)

/-- What `ld Vx` loads from a special source. -/
def specialSource? (word : Bytes) : Option (Register → Instruction) :=
  if word = text "DT" then some .loadDelay
  else if word = text "K" then some .loadKey
  else if word = text "[I]" then some .loadMemory
  else none

/-- What `ld` with a special destination does with Vx. -/
def specialTarget? (word : Bytes) : Option (Register → Instruction) :=
  if word = text "DT" then some .storeDelay
  else if word = text "ST" then some .storeSound
  else if word = text "F" then some .pointAtDigit
  else if word = text "B" then some .storeDecimal
  else if word = text "[I]" then some .storeMemory
  else none

def readLoadInto (name : Bytes) (x : Register) (second : Bytes) : Reading Instruction :=
  match specialSource? second with
  | some make => pure (make x)
  | none =>
    if Operand.isRegister second then do
      return .loadRegister x (← Operand.register name second)
    else do
      match ← Operand.lead? second with
      | some _ => return .loadByte x (← Operand.byte name second)
      | none =>
        throw (Operand.found .wrongValue name
          "requires a register, DT, K, [I] or a number, found " second)

/-- A load, whose form hangs on the first operand and then on the second. -/
def readLoad (name : Bytes) (operands : List Bytes) : Reading Instruction := do
  let first ← operandAt operands 0
  let second ← operandAt operands 1
  if Operand.isRegister first then do
    readLoadInto name (← Operand.register name first) second
  else if first = text "I" then do
    return .loadIndex (← Operand.address name second)
  else
    match specialTarget? first with
    | some make => do return make (← Operand.register name second)
    | none =>
      throw (Operand.found .wrongValue name "expected V, I, DT, ST, F, B or [I], found " first)

def readAdd (name : Bytes) (operands : List Bytes) : Reading Instruction := do
  let first ← operandAt operands 0
  let second ← operandAt operands 1
  if first = text "I" then do
    return .addToIndex (← Operand.register name second)
  else if ¬Operand.isRegister first then
    throw (Operand.found .wrongValue name "expected V or I, found " first)
  else do
    let x ← Operand.register name first
    if Operand.isRegister second then do
      return .addRegister x (← Operand.register name second)
    else do
      return .addByte x (← Operand.hexByte name second)

def readRandom (name : Bytes) (operands : List Bytes) : Reading Instruction := do
  let x ← Operand.register name (← operandAt operands 0)
  let mask ← Operand.hexByte name (← operandAt operands 1)
  return .random x mask

def readDraw (name : Bytes) (operands : List Bytes) : Reading Instruction := do
  let x ← Operand.register name (← operandAt operands 0)
  let y ← Operand.register name (← operandAt operands 1)
  let rows ← Operand.nibble name (← operandAt operands 2)
  return .draw x y rows

/-- The instruction that a mnemonic selects from operands of which there are enough. -/
def select (m : Mnemonic) (operands : List Bytes) : Reading Instruction :=
  match m with
  | nop => pure .nop
  | cls => pure .clearScreen
  | ret => pure .returnFromCall
  | jp => readJump m.name operands
  | call => do return .call (← Operand.address m.name (← operandAt operands 0))
  | se => readSkip m.name operands
  | ld => readLoad m.name operands
  | add => readAdd m.name operands
  | or => readPair m.name operands (.pair .or)
  | and => readPair m.name operands (.pair .and)
  | xor => readPair m.name operands (.pair .xor)
  | sub => readPair m.name operands (.pair .sub)
  | shr => readPair m.name operands (.pair .shr)
  | subn => readPair m.name operands (.pair .subn)
  | shl => readPair m.name operands (.pair .shl)
  | sne => readPair m.name operands .skipIfOther
  | rnd => readRandom m.name operands
  | drw => readDraw m.name operands
  | skp => do return .skipIfPressed (← Operand.register m.name (← operandAt operands 0))
  | sknp => do return .skipIfReleased (← Operand.register m.name (← operandAt operands 0))

end Mnemonic

namespace Statement

def read (s : Statement) : Reading Instruction :=
  match Mnemonic.ofName? s.mnemonic with
  | none => throw ⟨.unknownInstruction, s.mnemonic, Quoted.string s.mnemonic⟩
  | some m =>
    if s.operands.length < m.arity then
      throw ⟨.notEnoughValues, m.name, m.name ++ text ": " ++ text m.needs⟩
    else m.select s.operands

end Statement

end Chip8
