import PocketShell.Launch.Options
import PocketShell.Screen.Frame
import PocketShell.Stream.Batch
import PocketShell.Stream.Input

/-!
# The program

What the program writes and how it exits.  It executes the lines among its
arguments, or else the lines of its input, or else it opens the console if it
has a terminal.
-/

namespace PocketShell

namespace Options

def replyForm (options : Options) : ReplyForm :=
  if options.json then .record else .plain

/-- Whether a program with a terminal opens the console. -/
def opensConsole (options : Options) : Bool :=
  options.commands.isEmpty && !options.json

/-- The lines to execute: those among the arguments, or else those of the input. -/
def batchLines (options : Options) (input : List UInt8) : List String :=
  if options.commands.isEmpty then Input.lines input else options.commands

end Options

namespace Program

def versionText : String :=
  "droidterm 0.1.0\n"

def helpText : String :=
  Wording.text
    ["droidterm - a simulated Android-style shell over an in-memory filesystem",
      "",
      "Usage: droidterm [OPTIONS]",
      "",
      "Options:",
      "  -c, --command <COMMANDS>  Run this command line (repeatable) in one session, then exit",
      "      --json                Print each command result as a JSON object per line",
      "      --no-banner           Skip the welcome banner in interactive mode",
      "  -d, --debug               Enable debug logging",
      "  -h, --help                Print help",
      "  -V, --version             Print version"]

structure Outcome where
  exitCode : Nat
  output : ByteArray

/-- The outcome of a program that succeeds with the text as its output. -/
def succeed (text : String) : Outcome :=
  ⟨0, text.toUTF8⟩

/-- The outcome of arguments that make no sense. -/
def refuse : Outcome :=
  ⟨2, .empty⟩

def runBatch (clock : Clock) (options : Options) (input : List UInt8) : Outcome :=
  match Batch.run clock options.replyForm .unbounded (options.batchLines input) with
  | (sink, .ok _) => ⟨0, sink.taken⟩
  | (sink, .error _) => ⟨1, sink.taken⟩

/-- The outcome of the program without a terminal. -/
def run (clock : Clock) (arguments : List String) (input : List UInt8) : Outcome :=
  match Launch.ofArguments arguments with
  | .showHelp => succeed helpText
  | .showVersion => succeed versionText
  | .usageError => refuse
  | .start options => runBatch clock options input

def console (options : Options) : Console :=
  .start (!options.noBanner)

/-- What the program writes to a terminal of the size while the keys are pressed. -/
def frames (clock : Clock) (size : ScreenSize) (options : Options) (keys : List KeyPress) :
    List String :=
  (console options).frames clock size keys

end Program

end PocketShell
