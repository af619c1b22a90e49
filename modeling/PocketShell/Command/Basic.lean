import PocketShell.Command.Failure

/-!
# Commands

A command is what a name and its arguments ask for.  Only `echo` uses all of its
arguments; the others use the first one at most.
-/

namespace PocketShell

/-- Where a change of directory leads. -/
inductive Destination where
  | home
  | parent
  | child (name : String)
deriving DecidableEq, Repr

inductive Command where
  | help
  | clear
  | ls
  | pwd
  | cd (destination : Destination)
  | cat (name : String)
  | echo (text : String)
  | date
  | whoami
  | uname
  | mkdir (name : String)
  | touch (name : String)
  /-- A known command whose arguments are of no use. -/
  | invalid (failure : Failure)
  | unknown (name : String)
deriving DecidableEq, Repr

namespace Destination

/-- The destination named by the first argument, if there is one. -/
def ofArgument : Option String → Destination
  | none => .home
  | some name => if name = ".." then .parent else .child name

end Destination

namespace Command

/-- The command on the operand; without operand it is invalid. -/
def onOperand (command : String) (file : Bool) (make : String → Command) :
    Option String → Command
  | none => .invalid (.missingOperand command file)
  | some operand => make operand

def ofWords (name : String) (arguments : List String) : Command :=
  match name with
  | "help" => .help
  | "clear" => .clear
  | "ls" => .ls
  | "pwd" => .pwd
  | "cd" => .cd (.ofArgument arguments.head?)
  | "cat" => onOperand "cat" true .cat arguments.head?
  | "echo" => .echo (" ".intercalate arguments)
  | "date" => .date
  | "whoami" => .whoami
  | "uname" => .uname
  | "mkdir" => onOperand "mkdir" false .mkdir arguments.head?
  | "touch" => onOperand "touch" true .touch arguments.head?
  | _ => .unknown name

end Command

end PocketShell
