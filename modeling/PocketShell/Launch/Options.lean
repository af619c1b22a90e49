/-!
# Options

The arguments of the program are read from left to right.  A short option is one
letter behind a hyphen, and letters may share the hyphen.  An option with a value
takes what is left of its argument, without an equals sign in front, or else the
next argument, unless that looks like an option.  Asking for help or for the
version takes effect at once, as does a fault.
-/

namespace PocketShell

/-- What the arguments ask for. -/
structure Options where
  /-- The lines to execute instead of reading any. -/
  commands : List String
  /-- Whether replies are written as records. -/
  json : Bool
  /-- Whether the console starts without a banner. -/
  noBanner : Bool
  /-- Whether to tell what the program does. -/
  debug : Bool
deriving DecidableEq, Repr

/-- What the program is to do. -/
inductive Launch where
  | start (options : Options)
  | showHelp
  | showVersion
  /-- The arguments make no sense. -/
  | usageError
deriving DecidableEq, Repr

namespace Options

def initial : Options :=
  ⟨[], false, false, false⟩

def addCommand (options : Options) (line : String) : Options :=
  { options with commands := options.commands ++ [line] }

/-- The options with records asked for, which may be done once. -/
def setJson? (options : Options) : Option Options :=
  if options.json then none else some { options with json := true }

def setNoBanner? (options : Options) : Option Options :=
  if options.noBanner then none else some { options with noBanner := true }

def setDebug? (options : Options) : Option Options :=
  if options.debug then none else some { options with debug := true }

end Options

namespace Launch

inductive Step where
  | continue (options : Options)
  /-- The value of an option is still to come. -/
  | awaitValue (options : Options)
  | finish (launch : Launch)

namespace Step

/-- Goes on with the options, if there are any. -/
def ofOptions? : Option Options → Step
  | some options => .continue options
  | none => .finish .usageError

end Step

def readShort (options : Options) : List Char → Step
  | [] => .continue options
  | 'c' :: [] => .awaitValue options
  | 'c' :: '=' :: value => .continue (options.addCommand (String.ofList value))
  | 'c' :: value => .continue (options.addCommand (String.ofList value))
  | 'd' :: rest =>
      match options.setDebug? with
      | some changed => readShort changed rest
      | none => .finish .usageError
  | 'h' :: _ => .finish .showHelp
  | 'V' :: _ => .finish .showVersion
  | _ => .finish .usageError

/-- Reads a long option with the value that follows its equals sign, if there is one. -/
def readLong (options : Options) (name : String) (value? : Option String) : Step :=
  match name, value? with
  | "command", none => .awaitValue options
  | "command", some value => .continue (options.addCommand value)
  | "json", none => .ofOptions? options.setJson?
  | "no-banner", none => .ofOptions? options.setNoBanner?
  | "debug", none => .ofOptions? options.setDebug?
  | "help", none => .finish .showHelp
  | "version", none => .finish .showVersion
  | _, _ => .finish .usageError

/-- The name of a long option, and the value behind the first equals sign. -/
def splitLong (chars : List Char) : String × Option String :=
  match chars.dropWhile (· ≠ '=') with
  | [] => (String.ofList chars, none)
  | _ :: value => (String.ofList (chars.takeWhile (· ≠ '=')), some (String.ofList value))

def readArgument (options : Options) (argument : String) : Step :=
  match argument.toList with
  | '-' :: '-' :: long =>
      let (name, value?) := splitLong long
      readLong options name value?
  | '-' :: short :: more => readShort options (short :: more)
  | _ => .finish .usageError

/-- Whether the argument can be the value of the option before it. -/
def isValue (argument : String) : Bool :=
  argument = "-" || argument.toList.head? ≠ some '-'

/-- Reads the arguments, given the options so far. -/
def readArguments (options : Options) : List String → Launch
  | [] => .start options
  | "--" :: rest => if rest.isEmpty then .start options else .usageError
  | argument :: rest =>
      match readArgument options argument with
      | .continue changed => readArguments changed rest
      | .finish launch => launch
      | .awaitValue changed =>
          match rest with
          | [] => .usageError
          | value :: later =>
              if isValue value then readArguments (changed.addCommand value) later
              else .usageError

def ofArguments (arguments : List String) : Launch :=
  readArguments .initial arguments

end Launch

end PocketShell
