import PocketShell.Console.Basic

/-!
# Keys

A key press is a key with the modifiers held down, and `KeyPress.action?` tells
which action it asks for.  Control and `c` or `d` alone leave the console; any
other character typed with control asks for nothing.  A terminal in raw mode
sends most keys as characters, and `KeyPress.ofTyped` finds the key again.
-/

namespace PocketShell

inductive Key where
  | char (char : Char)
  | function (number : Nat)
  | enter
  | backspace
  | up
  | down
  | left
  | right
  | lineStart
  | lineEnd
  | pageUp
  | pageDown
  | tab
  | backTab
  | delete
  | insert
  | null
  | escape
deriving DecidableEq, Repr

/-- The modifiers held down with a key. -/
structure Modifiers where
  shift : Bool := false
  control : Bool := false
  alt : Bool := false
  super : Bool := false
  hyper : Bool := false
  metaKey : Bool := false
deriving DecidableEq, Repr

namespace Modifiers

def none : Modifiers :=
  {}

def onlyControl : Modifiers :=
  { control := true }

def onlyAlt : Modifiers :=
  { alt := true }

end Modifiers

inductive KeyMotion where
  | pressed
  | held
  | released
deriving DecidableEq, Repr

structure KeyPress where
  key : Key
  modifiers : Modifiers
  motion : KeyMotion
deriving DecidableEq, Repr

namespace KeyPress

/-- The key pressed with the modifiers. -/
def pressed (key : Key) (modifiers : Modifiers) : KeyPress :=
  ⟨key, modifiers, .pressed⟩

def plain (key : Key) : KeyPress :=
  .pressed key .none

/-- The action that a character asks for. -/
def charAction? (char : Char) (modifiers : Modifiers) : Option Action :=
  if modifiers = .onlyControl ∧ (char = 'c' ∨ char = 'd') then some .quit
  else if modifiers.control then none
  else some (.insert char)

def action? (press : KeyPress) : Option Action :=
  if press.motion = .released then none
  else
    match press.key with
    | .char char => charAction? char press.modifiers
    | .enter => some .submit
    | .backspace => some .backspace
    | .up => some .older
    | .down => some .newer
    | .tab => some .complete
    | _ => none

/-- The character whose code point lies so far above another one. -/
def charAbove (char : Char) (distance : Nat) : Char :=
  Char.ofNat (char.toNat + distance)

/-- The key that a terminal sends as the character. -/
def ofTyped (char : Char) : KeyPress :=
  let code := char.toNat
  if char = '\r' then .plain .enter
  else if char = '\t' then .plain .tab
  else if code = 0x7F then .plain .backspace
  else if code = 0x1B then .plain .escape
  else if code = 0 then .pressed (.char ' ') .onlyControl
  else if code < 0x1B then .pressed (.char (charAbove 'a' (code - 1))) .onlyControl
  else if code < 0x20 then .pressed (.char (charAbove '4' (code - 0x1C))) .onlyControl
  else .plain (.char char)

/-- The key that a terminal sends when a letter is typed with control. -/
def ofControlled (letter : Char) : KeyPress :=
  ofTyped (Char.ofNat (letter.toNat % 32))

/-- The key that a terminal sends when a character is typed with alt. -/
def ofAlternate (char : Char) : KeyPress :=
  let press := ofTyped char
  { press with modifiers := { press.modifiers with alt := true } }

end KeyPress

end PocketShell
