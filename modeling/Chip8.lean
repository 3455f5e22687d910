import Chip8.Files
import Chip8.Main
import Chip8.Progress
import Chip8.Proofs.Headless
import Chip8.Proofs.Instruction.Assembly
import Chip8.Proofs.Instruction.Encoding
import Chip8.Proofs.Machine.Access
import Chip8.Proofs.Machine.Ambient
import Chip8.Proofs.Machine.Arithmetic
import Chip8.Proofs.Machine.Cadence
import Chip8.Proofs.Machine.Counter
import Chip8.Proofs.Machine.KeyWait
import Chip8.Proofs.Machine.Listing
import Chip8.Proofs.Machine.Returns
import Chip8.Proofs.Machine.Transfer
import Chip8.Proofs.Screen.Redraw
import Chip8.Proofs.Screen.Row
import Chip8.Proofs.Screen.Sprite
import Chip8.Proofs.Screen.Views
import Chip8.Proofs.Session.Clock
import Chip8.Proofs.Session.Configuration
import Chip8.Proofs.Session.Counting
import Chip8.Proofs.Session.Keypad
import Chip8.Proofs.Session.Pacing
import Chip8.Proofs.Session.Recovery
import Chip8.Proofs.Session.Refusal
import Chip8.Proofs.Session.Restart
import Chip8.Proofs.Session.Stream
import Chip8.Screen.Image
import Chip8.Session.Keypad
