import CallAssist.Command.Program
import CallAssist.Render.Basic

/-!
Help on commands, and scripts that let a shell complete command lines.
-/

namespace CallAssist

namespace Usage

open Command

def description : Command → Bytes
  | .root => utf8 ("nvgtls is a language server for NVGT game scripts.\n\n" ++
      "It serves completion, signature help and hover from a function catalog,\n" ++
      "and ships tools to inspect and validate that catalog.")
  | .version => utf8 "Display nvgtls version information."
  | .lsp => utf8 ("Start the LSP server for editor integration.\n\n" ++
      "The server communicates over stdin/stdout using JSON-RPC and offers\n" ++
      "completion, signature help and hover for NVGT scripts.\n\n" ++
      "The function catalog is chosen on initialize, in this order:\n" ++
      "  1. initializationOptions.catalogPath from the client\n" ++
      "  2. catalog_path in the workspace's nvgtls.yaml\n" ++
      "  3. catalog_path from this command's configuration (--catalog, NVGTLS_CATALOG_PATH)\n\n" ++
      "Logs go to stderr or log_file; stdout carries the protocol. A log_level in the\n" ++
      "workspace's nvgtls.yaml overrides this command's level once the client connects.")
  | .catalog => utf8 (
      "Work with the function catalog that drives completion and signature help.\n\n" ++
      "A catalog is a JSON or YAML array of \x7bname, params, description\x7d entries.")
  | .validate => utf8 (
      "Load each catalog the way the language server does and report problems.\n\n" ++
      "With no arguments the configured catalog_path is checked. With --watch the\n" ++
      "catalogs are re-checked whenever they change on disk, until interrupted.")
  | .resolve => utf8 ("Resolve the active call and parameter for a line of NVGT code.\n\n" ++
      "This runs the same lookup as textDocument/signatureHelp, without an editor.\n" ++
      "--col is a byte offset into --line and defaults to the end of the line.\n\n" ++
      "In interactive mode, type a line and put \"|\" where the cursor is.")
  | c => c.summary

def arguments : Command → Bytes
  | .list => utf8 " [catalog]"
  | .validate => utf8 " [catalog...]"
  | .completion => utf8 " [bash|zsh|fish|powershell]"
  | .help => utf8 " [command]"
  | _ => []

/-- Pairs in two columns under a heading; nothing if there are none. -/
def section_ (heading : String) (pairs : List (Bytes × Bytes)) : Bytes :=
  if pairs.isEmpty then []
  else
    let width := (pairs.map (·.1.length)).foldl max 0
    utf8 "\n" ++ utf8 heading ++ utf8 ":\n" ++
      pairs.flatMap fun (a, b) => utf8 "  " ++ a.padEnd width ++ utf8 "   " ++ b ++ utf8 "\n"

def flagColumn (f : Flag) : Bytes :=
  let front := match f.letter with
    | some c => utf8 "-" ++ [c] ++ utf8 ", "
    | none => utf8 "    "
  let value := match f.kind with
    | .text => utf8 " string"
    | .int => utf8 " int"
    | .bool => []
  front ++ utf8 "--" ++ f.name ++ value

def flagPairs (fs : List Flag) : List (Bytes × Bytes) :=
  (fs.mergeSort fun a b => Bytes.le a.name b.name).map fun f => (flagColumn f, f.purpose)

def usage (p : Program) (c : Command) : Bytes :=
  let below := ((p.children c).mergeSort fun a b => Bytes.le a.name b.name).map
    fun d => (d.name, d.summary)
  let own := if c == p.top then p.allFlags c else Program.localFlags c
  let line := if c.isRunnable then p.path c ++ arguments c ++ utf8 " [flags]"
    else p.path c ++ utf8 " [command]"
  utf8 "Usage:\n  " ++ line ++ utf8 "\n" ++
    section_ "Available Commands" below ++ section_ "Flags" (flagPairs own) ++
    section_ "Global Flags" (if c == p.top then [] else flagPairs p.flags)

def help (p : Program) (c : Command) : Bytes :=
  description c ++ utf8 "\n\n" ++ usage p c

def unknownTopic (words : List Bytes) : Bytes :=
  utf8 "Unknown help topic [" ++ Bytes.join (utf8 " ") (words.map Bytes.backQuoted) ++ utf8 "]\n"

/-- Help on the command that words call. Without one, the error stream tells how the program is
called. -/
def topic (p : Program) (words : List Bytes) : Printed :=
  match p.find words with
  | .ok called => .text (help p called.command)
  | .error _ => ⟨[], unknownTopic words ++ usage p p.top⟩

def script (shell : Bytes) : Bytes :=
  if shell == utf8 "bash" then
    utf8 ("_nvgtls() \x7b\n  local IFS=$'\\n'\n" ++
      "  COMPREPLY=($(nvgtls __completeNoDesc \"$\x7bCOMP_WORDS[@]:1:COMP_CWORD\x7d\"" ++
      " 2>/dev/null | sed '$d'))\n\x7d\ncomplete -o default -F _nvgtls nvgtls\n")
  else if shell == utf8 "zsh" then
    utf8 ("#compdef nvgtls\n_nvgtls() \x7b\n  local -a choices\n" ++
      "  choices=($\x7b(f)\"$(nvgtls __completeNoDesc $\x7bwords[2,CURRENT]\x7d 2>/dev/null |" ++
      " sed '$d')\"\x7d)\n  compadd -a choices\n\x7d\ncompdef _nvgtls nvgtls\n")
  else if shell == utf8 "fish" then
    utf8 ("complete -c nvgtls -a '(nvgtls __complete (commandline -opc)[2..] (commandline -ct)" ++
      " 2>/dev/null | sed \"\\$d\")'\n")
  else
    utf8 ("Register-ArgumentCompleter -Native -CommandName nvgtls -ScriptBlock \x7b\n" ++
      "  param($word, $line, $position)\n" ++
      "  $words = $line.CommandElements | Select-Object -Skip 1 |" ++
      " ForEach-Object \x7b \"$_\" \x7d\n" ++
      "  nvgtls __completeNoDesc @words 2>$null | Select-Object -SkipLast 1\n\x7d\n")

end Usage

end CallAssist
