import Chip8.Text.Numeral
import Chip8.Op
import Chip8.Fault
import Chip8.Number.Double
import Chip8.Argument
import Chip8.Failure
import Chip8.Decode.Table
import Chip8.Layout
import Chip8.Random
import Chip8.State
import Chip8.Execute
import Chip8.Step
import Chip8.Frame
import Chip8.Screen.Picture
import Chip8.Program
import Chip8.Machine
import Chip8.Fault.Build
import Chip8.Guard.Draft
import Chip8.Screen.Cells
import Chip8.Program.File
import Chip8.Ledger
import Chip8.Argument.Integer
import Chip8.Argument.Operand
import Chip8.Keypad.Row
import Chip8.Text.Printable
import Chip8.Number.Shortest
import Chip8.Argument.Print
import Chip8.Text.Listing
import Chip8.Proofs.Decode.Pattern
import Chip8.Proofs.Frame.Pacing
import Chip8.Proofs.Screen.Grid
import Chip8.Proofs.Sprite.Pixels
import Chip8.Proofs.Execute.Overrun
import Chip8.Proofs.Execute.Drawing
import Chip8.Proofs.Execute.Locality
import Chip8.Proofs.Execute.Counter
import Chip8.Proofs.Frame.Waiting
import Chip8.Proofs.Frame.Timers
import Chip8.Proofs.Stack.Shadow
import Chip8.Proofs.Machine.Accounts
import Chip8.Proofs.Machine.Halted
import Chip8.Proofs.Machine.Calls
import Chip8.Proofs.Machine.Notices
import Chip8.Proofs.Random.Decipher
import Chip8.Proofs.Keypad.Influence
import Chip8.Proofs.Frame.Sound
import Chip8.Proofs.Frame.Rounds
import Chip8.Proofs.Machine.Leftover
import Chip8.Proofs.Execute.Arithmetic
import Chip8.Proofs.Execute.Transfers
import Chip8.Proofs.Execute.Continuation
import Chip8.Proofs.Execute.Redrawing
import Chip8.Proofs.Program.Contents
import Chip8.Proofs.Machine.Refusals
import Chip8.Proofs.Screen.Enlarged
import Chip8.Proofs.Screen.Reading
import Chip8.Proofs.Machine.Summaries
import Chip8.Proofs.Machine.Rankings
import Chip8.Proofs.Ledger
