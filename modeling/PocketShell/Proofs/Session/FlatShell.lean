import PocketShell.Path
import PocketShell.Proofs.Text.Lines
import PocketShell.Proofs.Text.Spelling
import PocketShell.Proofs.Text.WhiteSpace
import PocketShell.Reply
import Mathlib.Data.List.Nodup

/-!
# A shell without a tree

A flat shell keeps no tree, only one list of records to which it appends.  A
record names the directory that an entry lies in, so a directory is entered,
listed and searched by going through all the records.  It serves as a reference
for a session, with which it shares nothing but paths, lines, replies and the
lower-case mapping: it takes a line apart into words and a content into lines in
its own way, and it has the entries it begins with, its names of commands and its
texts written out.
-/

namespace PocketShell

/-- An entry as it is written down once and for all; without content it is a directory. -/
structure FlatRecord where
  directory : Path
  name : String
  content? : Option String
deriving DecidableEq, Repr

namespace FlatRecord

def kind (record : FlatRecord) : EntryKind :=
  match record.content? with
  | none => .directory
  | some _ => .file

/-- Whether the record is the one of the name in the directory. -/
def isAt (record : FlatRecord) (directory : Path) (name : String) : Bool :=
  record.directory = directory && record.name = name

theorem isAt_iff {record : FlatRecord} {directory : Path} {name : String} :
    record.isAt directory name = true ↔ record = ⟨directory, name, record.content?⟩ := by
  cases record
  simp [isAt]

end FlatRecord

structure FlatShell where
  path : Path
  /-- All entries made so far, oldest first. -/
  records : List FlatRecord

namespace FlatShell

/-- A flat shell that stands at home and has four records. -/
def new : FlatShell where
  path := ⟨[]⟩
  records :=
    [⟨⟨[]⟩, "readme.txt",
        some "Bem-vindo ao Terminal Android!\nUse \"help\" para ver comandos disponíveis."⟩,
      ⟨⟨[]⟩, "projects", none⟩,
      ⟨⟨["projects"]⟩, "app.js", some "console.log(\"Hello from Android Terminal!\");"⟩,
      ⟨⟨[]⟩, "documents", none⟩]

def recordsHere (shell : FlatShell) : List FlatRecord :=
  shell.records.filter fun record => record.directory = shell.path

def hasEntry (shell : FlatShell) (name : String) : Bool :=
  shell.records.any fun record => record.isAt shell.path name

def hasDirectory (shell : FlatShell) (name : String) : Bool :=
  shell.records.any fun record => record.isAt shell.path name && record.kind = .directory

def fileContent? (shell : FlatShell) (name : String) : Option String :=
  shell.records.findSome? fun record =>
    if record.isAt shell.path name then record.content? else none

/-- Shows the lines and changes nothing. -/
def answer (shell : FlatShell) (lines : List Line) : FlatShell × Reply :=
  (shell, ⟨lines, false⟩)

def helpLines : List Line :=
  [.text "╔════════════════════════════════════════════╗",
    .text "║        COMANDOS DISPONÍVEIS                ║",
    .text "╚════════════════════════════════════════════╝",
    .empty,
    .text "  ls              - Lista arquivos e diretórios",
    .text "  cd <dir>        - Navega para diretório",
    .text "  pwd             - Mostra diretório atual",
    .text "  cat <arquivo>   - Mostra conteúdo do arquivo",
    .text "  clear           - Limpa a tela",
    .text "  echo <texto>    - Imprime texto",
    .text "  date            - Mostra data e hora",
    .text "  whoami          - Mostra usuário atual",
    .text "  uname           - Informações do sistema",
    .text "  mkdir <dir>     - Cria diretório",
    .text "  touch <arquivo> - Cria arquivo",
    .text "  help            - Mostra esta ajuda",
    .empty]

def ls (shell : FlatShell) : FlatShell × Reply :=
  let entries := shell.recordsHere.map fun record => .entry record.kind record.name
  shell.answer ([.empty] ++ entries ++ [.empty])

def pathText (shell : FlatShell) : String :=
  String.join (("home" :: shell.path.below).map ("/" ++ ·))

def moveTo (shell : FlatShell) (below : List String) : FlatShell × Reply :=
  ({ shell with path := ⟨below⟩ }, ⟨[.empty], false⟩)

/-- Goes home, up, or into the directory that the first word names. -/
def cd (shell : FlatShell) : List String → FlatShell × Reply
  | [] => shell.moveTo []
  | name :: _ =>
      if name = ".." then shell.moveTo shell.path.below.dropLast
      else if shell.hasDirectory name then shell.moveTo (shell.path.below ++ [name])
      else shell.answer [.error ("cd: " ++ name ++ ": Diretório não encontrado")]

/-- The lines of a file; one empty line if there is nothing in it. -/
def fileLines (content : String) : List Line :=
  if content = "" then [.empty]
  else (Text.readLines [] content.toList).map fun line => .text (String.ofList line)

def cat (shell : FlatShell) (name : String) : FlatShell × Reply :=
  match shell.fileContent? name with
  | some content => shell.answer ([.empty] ++ fileLines content ++ [.empty])
  | none => shell.answer [.error ("cat: " ++ name ++ ": Arquivo não encontrado")]

/-- Appends the record of a new entry, unless there is one of that name. -/
def create (shell : FlatShell) (name : String) (content? : Option String) (conflict : String) :
    FlatShell × Reply :=
  if shell.hasEntry name then shell.answer [.error conflict]
  else ({ shell with records := shell.records ++ [⟨shell.path, name, content?⟩] },
    ⟨[.empty], false⟩)

def mkdir (shell : FlatShell) (name : String) : FlatShell × Reply :=
  shell.create name none ("mkdir: não foi possível criar diretório '" ++ name ++ "'")

def touch (shell : FlatShell) (name : String) : FlatShell × Reply :=
  shell.create name (some "") ("touch: não foi possível criar arquivo '" ++ name ++ "'")

/-- Acts on the first word; the others are not used. -/
def onFirst (missing : String) (act : FlatShell → String → FlatShell × Reply)
    (shell : FlatShell) : List String → FlatShell × Reply
  | [] => shell.answer [.error missing]
  | name :: _ => act shell name

/-- What the shell does for each name with the words behind it, where `date` shows the given
text. -/
def actions (date : String) : List (String × (FlatShell → List String → FlatShell × Reply)) :=
  [("help", fun shell _ => shell.answer helpLines),
    ("clear", fun shell _ => (shell, ⟨[], true⟩)),
    ("ls", fun shell _ => shell.ls),
    ("pwd", fun shell _ => shell.answer [.text shell.pathText]),
    ("cd", cd),
    ("cat", onFirst "cat: faltando operando arquivo" cat),
    ("echo", fun shell words => shell.answer [.text (" ".intercalate words)]),
    ("date", fun shell _ => shell.answer [.text date]),
    ("whoami", fun shell _ => shell.answer [.text "root@android-terminal"]),
    ("uname", fun shell _ => shell.answer [.text "Android Terminal v1.0 - Rust Runtime"]),
    ("mkdir", onFirst "mkdir: faltando operando" mkdir),
    ("touch", onFirst "touch: faltando operando arquivo" touch)]

/-- Does what the first word asks for on the others; an error if it spells none of the names. -/
def act (date : String) (shell : FlatShell) (first : String) (words : List String) :
    FlatShell × Reply :=
  match (actions date).find? fun action => Text.Spells first action.1 with
  | some action => action.2 shell words
  | none => shell.answer [.error (Text.lowerCase first ++
      ": comando não encontrado. Digite 'help' para ver comandos disponíveis.")]

/-- Executes a line as it was typed.  A blank line is answered by an empty one. -/
def execute (date : String) (shell : FlatShell) (line : String) : FlatShell × Reply :=
  match Text.wordsBetween line with
  | [] => shell.answer [.empty]
  | first :: words => shell.act date first words

end FlatShell

/-- The replies to the lines, each with the path at which it leaves the shell. -/
def transcript {State : Type} (execute : State → String → State × Reply) (path : State → Path) :
    State → List String → List (Reply × Path)
  | _, [] => []
  | state, line :: rest =>
      let (next, reply) := execute state line
      (reply, path next) :: transcript execute path next rest

section Records

/-- The names in the directory at the path as the records tell them, those of files with their
content. -/
def FlatRecord.listedAt (records : List FlatRecord) (path : Path) :
    List (String × Option String) :=
  (records.filter fun record => record.directory = path).map
    fun record => (record.name, record.content?)

variable {records : List FlatRecord} {path : Path} {name : String} {content? : Option String}

theorem FlatRecord.mem_listedAt_iff :
    (name, content?) ∈ listedAt records path ↔ ⟨path, name, content?⟩ ∈ records := by
  unfold listedAt
  constructor
  · intro member
    obtain ⟨record, kept, same⟩ := List.mem_map.mp member
    obtain ⟨recordMem, inside⟩ := List.mem_filter.mp kept
    obtain ⟨rfl, rfl⟩ := Prod.mk.inj same
    have directoryEq : record.directory = path := by simpa using inside
    subst directoryEq
    exact recordMem
  · intro recordMem
    exact List.mem_map.mpr ⟨_, List.mem_filter.mpr ⟨recordMem, by simp⟩, rfl⟩

theorem FlatRecord.listedAt_append_singleton (record : FlatRecord) :
    listedAt (records ++ [record]) path =
      listedAt records path ++
        if record.directory = path then [(record.name, record.content?)] else [] := by
  unfold listedAt
  by_cases inside : record.directory = path
  · simp [inside]
  · simp [inside]

end Records

namespace FlatShell

variable {shell : FlatShell} {name content : String}

theorem hasEntry_iff :
    shell.hasEntry name = true ↔
      name ∈ (FlatRecord.listedAt shell.records shell.path).map Prod.fst := by
  rw [hasEntry, List.any_eq_true, List.mem_map]
  constructor
  · rintro ⟨record, recordMem, found⟩
    rw [FlatRecord.isAt_iff] at found
    exact ⟨(name, record.content?), FlatRecord.mem_listedAt_iff.mpr (found ▸ recordMem), rfl⟩
  · rintro ⟨⟨_, content?⟩, listed, rfl⟩
    exact ⟨_, FlatRecord.mem_listedAt_iff.mp listed, FlatRecord.isAt_iff.mpr rfl⟩

theorem hasDirectory_iff :
    shell.hasDirectory name = true ↔
      (name, none) ∈ FlatRecord.listedAt shell.records shell.path := by
  rw [hasDirectory, List.any_eq_true, FlatRecord.mem_listedAt_iff]
  constructor
  · rintro ⟨⟨directory, _, content?⟩, recordMem, found⟩
    cases content? with
    | some content => simp [FlatRecord.kind] at found
    | none =>
        rw [Bool.and_eq_true, FlatRecord.isAt_iff] at found
        exact found.1 ▸ recordMem
  · intro recordMem
    exact ⟨_, recordMem, by simp [FlatRecord.isAt, FlatRecord.kind]⟩

/-- Where no name is listed twice, the content found is that of the file of the name. -/
theorem fileContent?_eq_some_iff
    (distinct : ((FlatRecord.listedAt shell.records shell.path).map Prod.fst).Nodup) :
    shell.fileContent? name = some content ↔
      (name, some content) ∈ FlatRecord.listedAt shell.records shell.path := by
  have onlyListed {found : String} (search : shell.fileContent? name = some found) :
      (name, some found) ∈ FlatRecord.listedAt shell.records shell.path := by
    obtain ⟨record, recordMem, taken⟩ := List.exists_of_findSome?_eq_some search
    rw [Option.ite_none_right_eq_some, FlatRecord.isAt_iff] at taken
    obtain ⟨same, holds⟩ := taken
    rw [FlatRecord.mem_listedAt_iff, ← holds, ← same]
    exact recordMem
  constructor
  · exact onlyListed
  · intro listed
    -- The search finds some file of the name; only distinct names make it this one.
    have searchFinds : shell.fileContent? name ≠ none := by
      intro nothing
      have skipped := List.findSome?_eq_none_iff.mp nothing _
        (FlatRecord.mem_listedAt_iff.mp listed)
      simp [FlatRecord.isAt] at skipped
    obtain ⟨found, search⟩ := Option.ne_none_iff_exists'.mp searchFinds
    have samePair := List.inj_on_of_nodup_map distinct (onlyListed search) listed rfl
    rw [search, (Prod.mk.inj samePair).2]

end FlatShell

end PocketShell
