import PocketShell.Launch.Program
import Std.Time.Format

/-!
# The command line

Everything that reads or writes: the clock, the terminal, the input and the
output.  What to write is decided elsewhere.
-/

namespace PocketShell
namespace Terminal

/-- The seconds by which local time is ahead of universal time. -/
def readUtcOffset (now : Std.Time.Timestamp) : IO Int := do
  try
    let rules ← Std.Time.Database.defaultGetLocalZoneRules
    return (rules.timezoneAt now).offset.second.val
  catch _ =>
    return 0

def readClock : IO Clock := do
  let now ← Std.Time.Timestamp.now
  return ⟨now.toSecondsSinceUnixEpoch.val.toNat, ← readUtcOffset now⟩

/-- The number under the name in the environment, or else the usual one. -/
def readDimension (name : String) (usual : Nat) : IO Nat := do
  return ((← IO.getEnv name).bind String.toNat?).getD usual

def readSize : IO ScreenSize := do
  return ⟨← readDimension "COLUMNS" 80, ← readDimension "LINES" 24⟩

def write (text : String) : IO Unit := do
  let output ← IO.getStdout
  output.putStr text
  output.flush

def typedKeys (line : String) : List KeyPress :=
  line.toList.map fun char => if char = '\n' then .plain .enter else .ofTyped char

/-- Presses the keys, and tells whether the console stays open. -/
def pressAll (size : ScreenSize) (console : Console) : List KeyPress → IO (Console × Bool)
  | [] => return (console, true)
  | key :: rest => do
      match console.press (← readClock) key with
      | (next, .redraw) =>
          write (next.frame size)
          pressAll size next rest
      | (next, .ignored) => pressAll size next rest
      | (next, .quit) => return (next, false)

/-- Reads keys until the user leaves or the input ends. -/
partial def converse (size : ScreenSize) (console : Console) : IO Unit := do
  let line ← (← IO.getStdin).getLine
  if line.isEmpty then return
  let (next, open?) ← pressAll size console (typedKeys line)
  if open? then converse size next

def openConsole (options : Options) : IO Unit := do
  let size ← readSize
  let console := Program.console options
  write (console.frame size)
  converse size console
  write clearedScreen

def runProgram (arguments : List String) (options? : Option Options) : IO UInt32 := do
  let input ←
    if options?.any (·.commands.isEmpty) then (← IO.getStdin).readBinToEnd else pure .empty
  let outcome := Program.run (← readClock) arguments input.data.toList
  let output ← IO.getStdout
  output.write outcome.output
  output.flush
  if options?.isNone && outcome.exitCode ≠ 0 then
    (← IO.getStderr).putStr Program.helpText
  return UInt32.ofNat outcome.exitCode

/-- Does what the arguments ask for, and tells how the program exits. -/
def launch (arguments : List String) : IO UInt32 := do
  match Launch.ofArguments arguments with
  | .start options =>
      let onTerminal := (← (← IO.getStdin).isTty) && (← (← IO.getStdout).isTty)
      if options.opensConsole && onTerminal then
        openConsole options
        return 0
      else
        runProgram arguments (some options)
  | _ => runProgram arguments none

end Terminal
end PocketShell

def main (arguments : List String) : IO UInt32 :=
  PocketShell.Terminal.launch arguments
