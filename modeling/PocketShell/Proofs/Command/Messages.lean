import PocketShell.Command.Failure
import Mathlib.Data.List.Infix

/-!
# Messages of failures

The message of a failure is the text that it cites between two fixed ones, and the fixed
texts are those of its kind.  For any two kinds, the texts in front differ at a character
that both of them have, or the texts behind do, counted from the end.  So a message is of
one kind and cites one text, even if that text has the words of another message in it.
-/

namespace PocketShell
namespace Failure

/-- The texts that the message of a failure cites. -/
def cited : Failure → List String
  | .unknownCommand name => [name]
  | .directoryNotFound name? => name?.toList
  | .fileNotFound name => [name]
  | .nameTaken _ name => [name]
  | .missingOperand command _ => [command]

/-- What a failure is, apart from the text that it cites. -/
inductive Kind where
  | unknownCommand
  | directoryNotFound
  /-- There is no directory where the session stands. -/
  | standsNowhere
  | fileNotFound
  | nameTaken (kind : EntryKind)
  | missingOperand (file : Bool)
deriving DecidableEq

def kind : Failure → Kind
  | .unknownCommand _ => .unknownCommand
  | .directoryNotFound (some _) => .directoryNotFound
  | .directoryNotFound none => .standsNowhere
  | .fileNotFound _ => .fileNotFound
  | .nameTaken kind _ => .nameTaken kind
  | .missingOperand _ file => .missingOperand file

namespace Kind

/-- The text before the cited one. -/
def front : Kind → String
  | .unknownCommand => ""
  | .directoryNotFound => "cd: "
  | .standsNowhere => "Erro"
  | .fileNotFound => "cat: "
  | .nameTaken .directory => "mkdir: não foi possível criar diretório '"
  | .nameTaken .file => "touch: não foi possível criar arquivo '"
  | .missingOperand _ => ""

/-- The text behind the cited one. -/
def back : Kind → String
  | .unknownCommand => ": comando não encontrado. Digite 'help' para ver comandos disponíveis."
  | .directoryNotFound => ": Diretório não encontrado"
  | .standsNowhere => ": Diretório não encontrado"
  | .fileNotFound => ": Arquivo não encontrado"
  | .nameTaken _ => "'"
  | .missingOperand file => ": faltando operando" ++ if file then " arquivo" else ""

/-- The failure of the kind that cites the text, if failures of the kind cite any. -/
def about : Kind → String → Failure
  | .unknownCommand, name => .unknownCommand name
  | .directoryNotFound, name => .directoryNotFound (some name)
  | .standsNowhere, _ => .directoryNotFound none
  | .fileNotFound, name => .fileNotFound name
  | .nameTaken kind, name => .nameTaken kind name
  | .missingOperand file, command => .missingOperand command file

def all : List Kind :=
  [.unknownCommand, .directoryNotFound, .standsNowhere, .fileNotFound, .nameTaken .directory,
    .nameTaken .file, .missingOperand false, .missingOperand true]

theorem mem_all (kind : Kind) : kind ∈ all := by
  rcases kind with _ | _ | _ | _ | (_ | _) | (_ | _) <;> decide

/-- Whether some text may begin like messages of both kinds and end like messages of both. -/
def Alike (kind other : Kind) : Prop :=
  (kind.front.toList <+: other.front.toList ∨ other.front.toList <+: kind.front.toList) ∧
    (kind.back.toList <:+ other.back.toList ∨ other.back.toList <:+ kind.back.toList)

instance (kind other : Kind) : Decidable (kind.Alike other) :=
  inferInstanceAs (Decidable (_ ∧ _))

theorem eq_of_alike {kind other : Kind} (alike : kind.Alike other) : kind = other := by
  have checked : ∀ kind ∈ all, ∀ other ∈ all, kind.Alike other → kind = other := by
    decide +kernel
  exact checked kind kind.mem_all other other.mem_all alike

theorem around (kind : Kind) (text : String) :
    kind.front.toList <+: (kind.front ++ text ++ kind.back).toList ∧
      kind.back.toList <:+ (kind.front ++ text ++ kind.back).toList := by
  constructor
  · rw [String.append_assoc, String.toList_append]
    exact List.prefix_append _ _
  · rw [String.toList_append]
    exact List.suffix_append _ _

theorem alike_of_append_eq {kind other : Kind} {text otherText : String}
    (same : kind.front ++ text ++ kind.back = other.front ++ otherText ++ other.back) :
    kind.Alike other := by
  obtain ⟨begins, ends⟩ := kind.around text
  obtain ⟨otherBegins, otherEnds⟩ := other.around otherText
  rw [same] at begins ends
  exact ⟨List.prefix_or_prefix_of_prefix begins otherBegins,
    List.suffix_or_suffix_of_suffix ends otherEnds⟩

end Kind

theorem message_eq (failure : Failure) :
    failure.message = failure.kind.front ++ String.join failure.cited ++ failure.kind.back := by
  have between (front text back : String) :
      front ++ text ++ back = front ++ String.join [text] ++ back := by simp
  have before (text back : String) : text ++ back = "" ++ String.join [text] ++ back := by simp
  -- A rewrite of the message would compare its fixed texts byte by byte.
  cases failure with
  | unknownCommand name => exact before name _
  | directoryNotFound name? =>
      cases name? with
      | none => decide
      | some name => exact between _ name _
  | fileNotFound name => exact between _ name _
  | nameTaken kind name => cases kind <;> exact between _ name _
  | missingOperand command file => exact (String.append_assoc ..).trans (before command _)

theorem about_kind (failure : Failure) :
    failure.kind.about (String.join failure.cited) = failure := by
  rcases failure with name | (_ | name) | name | ⟨made, name⟩ | ⟨command, file⟩
  all_goals simp [kind, cited, Kind.about]

/-- No two failures have the same message, whatever texts they cite. -/
theorem message_injective : Function.Injective message := by
  intro failure other same
  rw [message_eq, message_eq] at same
  have sameKind := Kind.eq_of_alike (Kind.alike_of_append_eq same)
  rw [sameKind, String.append_left_inj, String.append_right_inj] at same
  rw [← about_kind failure, sameKind, same, about_kind]

end Failure
end PocketShell
