/-!
# The help text
-/

namespace Chip8.CommandLine

/-- How the program is called. -/
def programName : String := "chipcore"

def helpLines : List String :=
  [ "usage: chipcore [-h] [--cycles CYCLES] [--frequency FREQUENCY] [--seed SEED]",
    "                [--log-level \x7bDEBUG,INFO,WARNING,ERROR,CRITICAL\x7d]",
    "                [--no-progress] [--disassemble N]",
    "                rom",
    "",
    "Run a CHIP-8 ROM headless and print the final screen",
    "",
    "positional arguments:",
    "  rom                   Path to the CHIP-8 ROM file",
    "",
    "options:",
    "  -h, --help            show this help message and exit",
    "  --cycles CYCLES       Number of instruction cycles to run (default: 700)",
    "  --frequency FREQUENCY",
    "                        Instruction cycles per second, sets the timer ratio",
    "                        (default: 700)",
    "  --seed SEED           Random seed for the RND instruction (default: 0)",
    "  --log-level \x7bDEBUG,INFO,WARNING,ERROR,CRITICAL\x7d",
    "                        Console log level (default: INFO)",
    "  --no-progress         Disable the progress bar",
    "  --disassemble N       Print N instructions from 0x200 instead of running" ]

def usageLines : List String := helpLines.take 4

end Chip8.CommandLine
