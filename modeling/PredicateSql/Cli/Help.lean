import PredicateSql.Cli.Flags

/-! Help texts. A command's help is its description followed by its usage: how it is invoked,
its examples, its subcommands, its own flags and the flags it shares with every command. Flag
lists are sorted by long name, and their help lines start in one column. -/
namespace PredicateSql.Cli

namespace CommandId

/-- How a command is written on the command line, after its parent. -/
def use : CommandId → String
  | help => "help [command]"
  | c => c.name

/-- The one-line summary of a command. -/
def short : CommandId → String
  | root => "Compile predicate documents to parameterized SQL"
  | compile => "Compile a predicate document to SQL"
  | validate => "Check a mapping file for conflicting columns and keys"
  | help => "Help about any command"
  | completion => "Generate the autocompletion script for the specified shell"
  | shell s => "Generate the autocompletion script for " ++ s

/-- The longer description of a command, empty when the summary says it all. -/
def long : CommandId → String
  | root => "predql compiles YAML predicate documents into bracket-quoted SQL with\n" ++
      "named @Property_N parameters, using entity mappings loaded from YAML."
  | compile => "Compile a YAML predicate document against the entity mappings.\n\n" ++
      "Without --select or --count the output is the bare boolean expression for a\n" ++
      "WHERE clause. With --select or --count a full statement over that entity is\n" ++
      "rendered, and --predicate becomes optional."
  | help => "Help provides help for any command in the application.\n" ++
      "Simply type predql help [path to command] for full details."
  | completion => "Generate the autocompletion script for predql for the specified shell.\n" ++
      "See each sub-command's help for details on how to use the generated script.\n"
  | shell "bash" => "Generate the autocompletion script for the bash shell.\n\n" ++
      "This script depends on the 'bash-completion' package.\n" ++
      "If it is not installed already, you can install it via your OS's package manager.\n\n" ++
      "To load completions in your current shell session:\n\n" ++
      "\tsource <(predql completion bash)\n\n" ++
      "To load completions for every new session, execute once:\n\n" ++
      "#### Linux:\n\n" ++
      "\tpredql completion bash > /etc/bash_completion.d/predql\n\n" ++
      "#### macOS:\n\n" ++
      "\tpredql completion bash > $(brew --prefix)/etc/bash_completion.d/predql\n\n" ++
      "You will need to start a new shell for this setup to take effect.\n"
  | shell "zsh" => "Generate the autocompletion script for the zsh shell.\n\n" ++
      "If shell completion is not already enabled in your environment you will need\n" ++
      "to enable it.  You can execute the following once:\n\n" ++
      "\techo \"autoload -U compinit; compinit\" >> ~/.zshrc\n\n" ++
      "To load completions in your current shell session:\n\n" ++
      "\tsource <(predql completion zsh)\n\n" ++
      "To load completions for every new session, execute once:\n\n" ++
      "#### Linux:\n\n" ++
      "\tpredql completion zsh > \"$\x7bfpath[1]\x7d/_predql\"\n\n" ++
      "#### macOS:\n\n" ++
      "\tpredql completion zsh > $(brew --prefix)/share/zsh/site-functions/_predql\n\n" ++
      "You will need to start a new shell for this setup to take effect.\n"
  | shell "fish" => "Generate the autocompletion script for the fish shell.\n\n" ++
      "To load completions in your current shell session:\n\n" ++
      "\tpredql completion fish | source\n\n" ++
      "To load completions for every new session, execute once:\n\n" ++
      "\tpredql completion fish > ~/.config/fish/completions/predql.fish\n\n" ++
      "You will need to start a new shell for this setup to take effect.\n"
  | shell "powershell" => "Generate the autocompletion script for powershell.\n\n" ++
      "To load completions in your current shell session:\n\n" ++
      "\tpredql completion powershell | Out-String | Invoke-Expression\n\n" ++
      "To load completions for every new session, add the output of the above command\n" ++
      "to your powershell profile.\n"
  | _ => ""

/-- Example invocations of a command. -/
def examples : CommandId → String
  | compile => "  predql compile -m mappings.yaml -p predicate.yaml\n" ++
      "  predql compile -m mappings.yaml -p predicate.yaml --select Order --sort Order.Total:desc\n" ++
      "  predql compile -m mappings.yaml --count Order --format json"
  | _ => ""

/-- Whether a command does something itself; the others only show their help. -/
def runnable : CommandId → Bool
  | root | completion => false
  | _ => true

def localFlags (c : CommandId) : List FlagSpec := c.ownFlags ++ [c.helpFlag]

/-- The flags a command shows as shared with every command. -/
def sharedFlags : CommandId → List FlagSpec
  | root => []
  | _ => globalFlags

end CommandId

def blanks (n : Nat) : String := String.ofList (List.replicate n ' ')

def trimEnd (s : String) : String :=
  String.ofList (s.toList.reverse.dropWhile Char.isWhitespace).reverse

/-- The left column of a flag's help line and its description, with a default that is not
empty. -/
def flagColumns (f : FlagSpec) : String × String :=
  let names := match f.short with
    | some c => "  -" ++ c.toString ++ ", --" ++ f.name
    | none => "      --" ++ f.name
  let left := if f.valueWord == "" then names else names ++ " " ++ f.valueWord
  let text := if f.default == "" then f.usage
    else f.usage ++ " (default " ++ Text.quoted f.default ++ ")"
  (left, text)

/-- The help lines of flags, sorted by name, descriptions in one column. -/
def flagUsages (fs : List FlagSpec) : String :=
  let rows := (fs.mergeSort fun a b => a.name ≤ b.name).map flagColumns
  let width := rows.foldl (fun w r => max w (r.1.length + 1)) 0
  String.join (rows.map fun (left, text) =>
    left ++ " " ++ blanks (width - left.length) ++ " " ++ text ++ "\n")

def sortedChildren (c : CommandId) : List CommandId :=
  c.children.mergeSort fun a b => a.name ≤ b.name

/-- The usage of a command showing the given flags as its own: invocation, examples,
subcommands and flags. The script of bash is invoked without flags, so its usage line shows
none. -/
def usageWith (c : CommandId) (own : List FlagSpec) : String :=
  let hasChildren := !c.children.isEmpty
  let useLine := if c == .root then c.use
    else
      let parent := match c with
        | .shell _ => "predql completion"
        | _ => "predql"
      let line := parent ++ " " ++ c.use
      match c with
      | .shell "bash" => line
      | _ => line ++ " [flags]"
  "Usage:" ++
    (if c.runnable then "\n  " ++ useLine else "") ++
    (if hasChildren then "\n  " ++ c.path ++ " [command]" else "") ++
    (if c.examples == "" then "" else "\n\nExamples:\n" ++ c.examples) ++
    (if hasChildren then
      "\n\nAvailable Commands:" ++ String.join ((sortedChildren c).map fun s =>
        "\n  " ++ s.name ++ blanks (11 - s.name.length) ++ " " ++ s.short)
    else "") ++
    "\n\nFlags:\n" ++ trimEnd (flagUsages own) ++
    (if c.sharedFlags.isEmpty then ""
      else "\n\nGlobal Flags:\n" ++ trimEnd (flagUsages c.sharedFlags)) ++
    (if hasChildren then
      "\n\nUse \"" ++ c.path ++ " [command] --help\" for more information about a command."
    else "") ++ "\n"

def usageText (c : CommandId) : String := usageWith c c.localFlags

/-- The help of a command: its description, then its usage. -/
def helpText (c : CommandId) : String :=
  let about := if c.long == "" then c.short else c.long
  (if about == "" then "" else trimEnd about ++ "\n\n") ++ usageText c

def backquotable (s : String) : Bool :=
  s.all fun ch => ch != '\x60' && ch != '\uFEFF' && (ch == '\t' || !(ch.toNat < 0x20 || ch.toNat == 0x7F))

/-- A list of words as help names an unknown topic: each word in backquotes when it can be. -/
def topicList (words : List String) : String :=
  "[" ++ " ".intercalate (words.map fun w =>
    if backquotable w then "\x60" ++ w ++ "\x60" else Text.quoted w) ++ "]"

end PredicateSql.Cli
