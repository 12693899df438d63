import Chip8.Command.Flag
import Chip8.Settings.Load

/-!
The commands, their flags and their help. A page of help has what the command does, how it is
called, the commands below it, its own flags and those of the whole program. Flags are in the order
of their names, and the descriptions stand in one column.
-/

namespace Chip8.Command

/-- What can be asked for. The root is the program without a command. -/
inductive Name where
  | root
  | asm
  | dump
  | upload
  | help
  deriving DecidableEq, Repr

def programName : Bytes := text "slip8"

namespace Name

def word : Name → Bytes
  | root => programName
  | asm => text "asm"
  | dump => text "dump"
  | upload => text "upload"
  | help => text "help"

def ofWord? (t : Bytes) : Option Name := [asm, dump, upload, help].find? fun n => n.word = t

def description : Name → Bytes
  | root => text ("SLIP-8 translates CHIP-8 assembly language into machine code images\n" ++
      "and uploads them to a board that runs them.\n\n" ++
      "Each line of a .c8asm source file holds exactly one statement: a\n" ++
      "mnemonic followed by operands separated by single spaces. All numbers\n" ++
      "and addresses are written in hex. The image is written to a .c8x file,\n" ++
      "the flat big endian machine code the interpreter loads at 0x200.")
  | asm => text ("Asm assembles exactly one .c8asm source file. Every line of the file\n" ++
      "must be a statement; the file must end with a newline. Assembly stops at\n" ++
      "the first line in error and no output is written in that case.\n\n" ++
      "By default the image is written beside the source as NAME.c8x. --out\n" ++
      "names the image instead, --stdout prints the bytes rather than writing\n" ++
      "them and --mode selects any of binary, stdout, listing or hex.")
  | dump => text ("Dump prints an image written by asm, either as a hex dump at the\n" ++
      "addresses the interpreter loads it to (--mode hex, the default) or as\n" ++
      "the list of byte values (--mode stdout).")
  | upload => text ("Upload opens the serial line to the board that runs CHIP-8 images,\n" ++
      "synchronizes with its firmware, checks the protocol version and writes\n" ++
      "the image to memory at the load base (0x200 unless configured).\n\n" ++
      "Settings come from slip8.yaml in the current directory, if present, or\n" ++
      "the file named by --config. --device and --baud override the file.\n" ++
      "Opening a USB serial port resets most boards, so the upload waits for\n" ++
      "the reset before it starts.")
  | help => text ("Help provides help for any command in the application.\n" ++
      "Simply type slip8 help [path to command] for full details.")

def usage : Name → Bytes
  | root => text "slip8 [command]"
  | asm => text "slip8 asm sourceFile [flags]"
  | dump => text "slip8 dump imageFile [flags]"
  | upload => text "slip8 upload imageFile [flags]"
  | help => text "slip8 help [command] [flags]"

end Name

/-! ### Flags -/

/-- The flag of every command. -/
def debugFlag : Flag := ⟨text "debug", none, .truth, [], text "trace serial traffic"⟩

def helpFlag (n : Name) : Flag :=
  ⟨text "help", some 0x68, .truth, [], text "help for " ++ n.word⟩

/-- The flags of a command alone, in the order of their names. -/
def Name.ownFlags : Name → List Flag
  | .root => [debugFlag, helpFlag .root]
  | .asm =>
    [helpFlag .asm,
     ⟨text "list", none, .truth, [], text "also print a listing after a successful build"⟩,
     ⟨text "mode", none, .word, [], text "output mode: binary, stdout, listing or hex"⟩,
     ⟨text "out", some 0x6F, .word, [], text "name of the image file, .c8x is added"⟩,
     ⟨text "stdout", none, .truth, [], text "print the image bytes instead of writing a file"⟩]
  | .dump => [helpFlag .dump, ⟨text "mode", none, .word, text "hex", text "hex or stdout"⟩]
  | .upload =>
    [⟨text "baud", none, .number, Numeral.signed Settings.default.baud, text "baud rate"⟩,
     ⟨text "config", none, .word, [], text "YAML settings file (default " ++ Settings.defaultFile ++ text ")"⟩,
     ⟨text "device", none, .word, Settings.default.device, text "serial device"⟩,
     helpFlag .upload,
     ⟨text "run", none, .truth, [], text "start the image after it is loaded"⟩]
  | .help => [helpFlag .help]

def Name.flags : Name → List Flag
  | .root => Name.root.ownFlags
  | n => n.ownFlags ++ [debugFlag]

/-! ### Pages -/

def FlagKind.shown : FlagKind → Bytes
  | .truth => []
  | .word => text " string"
  | .number => text " int"

/-- A flag before its description. -/
def Flag.heading (f : Flag) : Bytes :=
  (match f.letter with
    | some letter => text "  -" ++ [letter] ++ text ", --"
    | none => text "      --") ++ f.name ++ f.kind.shown

/-- The description of a flag, and its default if there is one. -/
def Flag.remark (f : Flag) : Bytes :=
  f.description ++
    (if f.shownDefault.isEmpty then []
     else
      text " (default " ++ (if f.kind = .word then Quoted.string f.shownDefault else f.shownDefault) ++
        text ")")

/-- The text filled up to `width` bytes with blanks on its right. -/
def padRight (width : Nat) (t : Bytes) : Bytes := t ++ List.replicate (width - t.length) 0x20

/-- Flags with their descriptions in one column, three blanks behind the longest heading. -/
def flagLines (flags : List Flag) : Bytes :=
  let width := (flags.map fun f => f.heading.length).foldl max 0
  flags.flatMap fun f => padRight (width + 3) f.heading ++ f.remark ++ text "\n"

def summaries : List (Bytes × Bytes) :=
  [(text "asm", text "Assemble a .c8asm source file"),
   (text "completion", text "Generate the autocompletion script for the specified shell"),
   (text "dump", text "Print a .c8x image"),
   (text "help", text "Help about any command"),
   (text "upload", text "Upload a .c8x image to the board over a serial line")]

def summaryLines : Bytes :=
  summaries.flatMap fun (word, summary) => text "  " ++ padRight 11 word ++ text " " ++ summary ++ text "\n"

/-- How the program is called and with which of the given flags. -/
def programUsage (flags : List Flag) : Bytes :=
  text "Usage:\n  " ++ Name.root.usage ++ text "\n\nAvailable Commands:\n" ++ summaryLines ++
    text "\nFlags:\n" ++ flagLines flags ++
    text "\nUse \"slip8 [command] --help\" for more information about a command.\n"

def usagePage : Name → Bytes
  | .root => programUsage Name.root.ownFlags
  | n =>
    text "Usage:\n  " ++ n.usage ++ text "\n\nFlags:\n" ++ flagLines n.ownFlags ++
      text "\nGlobal Flags:\n" ++ flagLines [debugFlag]

def helpPage (n : Name) : Bytes := n.description ++ text "\n\n" ++ usagePage n

end Chip8.Command
