import PocketShell.Reply

/-!
# Failures of commands

A command that cannot do its work says why in a single line.
-/

namespace PocketShell

inductive Failure where
  | unknownCommand (name : String)
  /-- There is no directory of this name, or none where the session stands. -/
  | directoryNotFound (name? : Option String)
  | fileNotFound (name : String)
  /-- What was to be made has a name that is taken. -/
  | nameTaken (kind : EntryKind) (name : String)
  /-- The command was given nothing to work on, perhaps a file. -/
  | missingOperand (command : String) (file : Bool)
deriving DecidableEq, Repr

namespace Failure

def message : Failure → String
  | .unknownCommand name =>
      name ++ ": comando não encontrado. Digite 'help' para ver comandos disponíveis."
  | .directoryNotFound (some name) => "cd: " ++ name ++ ": Diretório não encontrado"
  | .directoryNotFound none => "Erro: Diretório não encontrado"
  | .fileNotFound name => "cat: " ++ name ++ ": Arquivo não encontrado"
  | .nameTaken .directory name => "mkdir: não foi possível criar diretório '" ++ name ++ "'"
  | .nameTaken .file name => "touch: não foi possível criar arquivo '" ++ name ++ "'"
  | .missingOperand command file =>
      command ++ ": faltando operando" ++ (if file then " arquivo" else "")

def reply (failure : Failure) : Reply :=
  .showing [.error failure.message]

end Failure

end PocketShell
