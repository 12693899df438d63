import Chip8.Assembly.Assemble
import Chip8.Assembly.Build
import Chip8.Assembly.Diagnostic
import Chip8.Assembly.Encode
import Chip8.Assembly.Error
import Chip8.Assembly.Image
import Chip8.Assembly.Instruction
import Chip8.Assembly.Listing
import Chip8.Assembly.Mnemonic
import Chip8.Assembly.Opcode
import Chip8.Assembly.Operand
import Chip8.Assembly.Source
import Chip8.Assembly.Statement
import Chip8.Command.Asm
import Chip8.Command.Dispatch
import Chip8.Command.Dump
import Chip8.Command.Flag
import Chip8.Command.Help
import Chip8.Command.Upload
import Chip8.Files
import Chip8.Interaction
import Chip8.Link.Basic
import Chip8.Link.Protocol
import Chip8.Link.Script
import Chip8.Link.Session
import Chip8.Main
import Chip8.Proofs.Assembly.Acceptance
import Chip8.Proofs.Assembly.Grammar
import Chip8.Proofs.Assembly.Operands
import Chip8.Proofs.Assembly.Unambiguity
import Chip8.Proofs.Link.Board
import Chip8.Proofs.Link.Calls
import Chip8.Proofs.Link.Exchange
import Chip8.Proofs.Link.Plan
import Chip8.Proofs.Link.Safety
import Chip8.Proofs.Text.Chunks
import Chip8.Proofs.Text.Hexadecimal
import Chip8.Proofs.Text.Words
import Chip8.Serial.Device
import Chip8.Serial.Port
import Chip8.Settings.Basic
import Chip8.Settings.Decode
import Chip8.Settings.Load
import Chip8.System
import Chip8.Table
import Chip8.Text.Base64
import Chip8.Text.Binary64
import Chip8.Text.Blank
import Chip8.Text.Bytes
import Chip8.Text.Case
import Chip8.Text.Duration
import Chip8.Text.Literal
import Chip8.Text.Numeral
import Chip8.Text.Printable
import Chip8.Text.Quoted
import Chip8.Text.Utf8
import Chip8.Text.Width
import Chip8.World
import Chip8.Yaml.BlockScalar
import Chip8.Yaml.Cursor
import Chip8.Yaml.Input
import Chip8.Yaml.Node
import Chip8.Yaml.Property
import Chip8.Yaml.Quotation
import Chip8.Yaml.Scalar
import Chip8.Yaml.Timestamp
import Chip8.Yaml.Token
import Chip8.Proofs.Assembly.LineByLine
import Chip8.Proofs.Assembly.SourceLines
import Chip8.Proofs.Assembly.Statements
import Chip8.Proofs.Assembly.Images
import Chip8.Proofs.Serial.Crossing
import Chip8.Proofs.Serial.Scripts
import Chip8.Proofs.Serial.Ideal
import Chip8.Proofs.Assembly.LineEnds
import Chip8.Proofs.Link.Refusal
import Chip8.Proofs.Settings.Layers
import Chip8.Proofs.Settings.Legal
import Chip8.Proofs.Command.UploadSettings
import Chip8.Proofs.Command.ImageFile
import Chip8.Proofs.Assembly.Blame
import Chip8.Proofs.Assembly.Diagnosis
import Chip8.Proofs.Link.Framing
import Chip8.Proofs.Command.Footprint
import Chip8.Proofs.Command.DefaultName
import Chip8.Proofs.Assembly.Renderings
import Chip8.Proofs.Assembly.Listings
import Chip8.Proofs.Assembly.Punctuation
import Chip8.Proofs.Link.Failures
import Chip8.Proofs.Assembly.ExtraOperands
import Chip8.Proofs.Command.ErrorKinds
import Chip8.Proofs.Assembly.Reports
import Chip8.Proofs.Assembly.Colours
import Chip8.Proofs.Link.Commands
import Chip8.Proofs.Serial.Progress
import Chip8.Proofs.Link.Limits
import Chip8.Proofs.Assembly.Lookups
