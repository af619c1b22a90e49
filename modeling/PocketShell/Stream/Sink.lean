/-!
# Sinks

A sink takes bytes, without bound or up to a limit.  A text that does not fit is
taken as far as there is room, and the cut may fall inside of a character.
-/

namespace PocketShell

/-- The bytes taken so far, and how many more are taken at most. -/
structure Sink where
  taken : ByteArray
  room? : Option Nat

namespace Sink

def unbounded : Sink :=
  ⟨.empty, none⟩

def limited (limit : Nat) : Sink :=
  ⟨.empty, some limit⟩

/-- The sink after the bytes were written, and whether it took all of them. -/
def writeBytes (sink : Sink) (bytes : ByteArray) : Sink × Bool :=
  match sink.room? with
  | none => (⟨sink.taken ++ bytes, none⟩, true)
  | some room =>
      if bytes.size ≤ room then (⟨sink.taken ++ bytes, some (room - bytes.size)⟩, true)
      else (⟨sink.taken ++ bytes.extract 0 room, some 0⟩, false)

/-- The sink after the text was written in UTF-8, and whether it took all of it. -/
def write (sink : Sink) (text : String) : Sink × Bool :=
  sink.writeBytes text.toUTF8

end Sink

end PocketShell
