import CallAssist.Command.Flag

/-!
The commands of the program: their names, their flags, what stands below them, and which arguments
they take.
-/

namespace CallAssist

/-- The shells that completion scripts exist for. -/
inductive Shell where
  | bash
  | zsh
  | fish
  | powershell
  deriving DecidableEq, Repr

namespace Shell

def all : List Shell := [.bash, .zsh, .fish, .powershell]

def name : Shell → Bytes
  | .bash => utf8 "bash"
  | .zsh => utf8 "zsh"
  | .fish => utf8 "fish"
  | .powershell => utf8 "powershell"

end Shell

/-- A command. The whole program has a command `completion` of its own; a part of it that runs
alone has `scripts` of that name in its place, with a command for each shell below it. -/
inductive Command where
  | root
  | version
  | lsp
  | catalog
  | list
  | validate
  | resolve
  | completion
  | scripts
  | scriptFor (s : Shell)
  | help
  | complete
  deriving DecidableEq, Repr

namespace Command

def name : Command → Bytes
  | .root => utf8 "nvgtls"
  | .version => utf8 "version"
  | .lsp => utf8 "lsp"
  | .catalog => utf8 "catalog"
  | .list => utf8 "list"
  | .validate => utf8 "validate"
  | .resolve => utf8 "resolve"
  | .completion => utf8 "completion"
  | .scripts => utf8 "completion"
  | .scriptFor s => s.name
  | .help => utf8 "help"
  | .complete => utf8 "__complete"

def summary : Command → Bytes
  | .root => utf8 "nvgtls - NVGT language server"
  | .version => utf8 "Show version information"
  | .lsp => utf8 "Start the Language Server Protocol server"
  | .catalog => utf8 "Inspect and validate NVGT function catalogs"
  | .list => utf8 "List the functions in a catalog"
  | .validate => utf8 "Check catalogs for decode and schema errors"
  | .resolve => utf8 "Show the signature help the server would give for a line"
  | .completion => utf8 "Generate shell completion scripts"
  | .scripts => utf8 "Generate the autocompletion script for the specified shell"
  | .scriptFor s => utf8 "Generate the autocompletion script for " ++ s.name
  | .help => utf8 "Help about any command"
  | .complete => utf8 "Request shell completion choices for the specified command-line"

def bareCompleteName : Bytes := utf8 "__completeNoDesc"

def answersTo (c : Command) (word : Bytes) : Bool :=
  c.name == word || (c == .complete && word == bareCompleteName)

def ownFlags : Command → List Flag
  | .list => [
    .make "prefix" none .text "Only list functions whose name starts with this prefix"]
  | .validate => [
    .make "watch" (some 'w') .bool "Re-validate when a catalog changes",
    .make "jobs" (some 'j') .int "Catalogs to validate in parallel"]
  | .resolve => [
    .make "line" (some 'l') .text "Line of code to resolve",
    .make "col" (some 'c') .int "Cursor byte offset in the line (default: end of line)",
    .make "interactive" (some 'i') .bool "Start an interactive prompt"]
  | .scriptFor _ => [
    .make "no-descriptions" none .bool "disable completion descriptions"]
  | _ => []

/-- Whether a command does something of its own; one that does not shows its help. -/
def isRunnable : Command → Bool
  | .root | .catalog | .scripts => false
  | _ => true

def choices : Command → List Bytes
  | .completion => Shell.all.map Shell.name
  | _ => []

end Command

end CallAssist
