/-!
# Wording

The fixed texts that the shell shows.  A text of several lines is kept as the
list of its lines.
-/

namespace PocketShell
namespace Wording

/-- The text whose lines are the given ones, each with a line feed after it. -/
def text (lines : List String) : String :=
  String.join (lines.map (· ++ "\n"))

def welcome : List String :=
  ["╔════════════════════════════════════════════════════╗",
    "║       TERMINAL ANDROID - Rust Runtime              ║",
    "╚════════════════════════════════════════════════════╝",
    "",
    "  Bem-vindo ao Terminal Android!",
    "  Digite \"help\" para ver os comandos disponíveis.",
    ""]

def help : List String :=
  ["╔════════════════════════════════════════════╗",
    "║        COMANDOS DISPONÍVEIS                ║",
    "╚════════════════════════════════════════════╝",
    "",
    "  ls              - Lista arquivos e diretórios",
    "  cd <dir>        - Navega para diretório",
    "  pwd             - Mostra diretório atual",
    "  cat <arquivo>   - Mostra conteúdo do arquivo",
    "  clear           - Limpa a tela",
    "  echo <texto>    - Imprime texto",
    "  date            - Mostra data e hora",
    "  whoami          - Mostra usuário atual",
    "  uname           - Informações do sistema",
    "  mkdir <dir>     - Cria diretório",
    "  touch <arquivo> - Cria arquivo",
    "  help            - Mostra esta ajuda",
    ""]

def identity : String :=
  "root@android-terminal"

def system : String :=
  "Android Terminal v1.0 - Rust Runtime"

def promptUser : String :=
  "root"

def promptHost : String :=
  "android"

def statusLabel : String :=
  "Rust Runtime"

end Wording
end PocketShell
