import PredicateSql.Cli.Help
import PredicateSql.Text.Blank

/-! Completion requests: the candidates for the last, partly typed word of a command line, one a
line with its description unless left out, and a closing directive `:n` whose bits say that the
request failed (1), that no space follows (2) or that no file names are offered (4). -/
namespace PredicateSql.Cli

def requestWord : String := "__complete"

def requestWordPlain : String := "__completeNoDesc"

/-- The directive bit that keeps the shell from offering file names. -/
def noFileNames : Nat := 4

/-- The answer to a completion request: candidates with their descriptions, and the directive. -/
structure Candidates where
  items : List (String × String) := []
  directive : Nat := 0

/-- The completion request an argument list makes, if its command word is the hidden command:
whether descriptions are wanted, and the words for the request. -/
def requestOf (args : List String) : Option (Bool × List String) :=
  match commandWords CommandId.root.flags args with
  | w :: _ =>
    if w == requestWord then some (true, withoutWord CommandId.root.flags w args)
    else if w == requestWordPlain then some (false, withoutWord CommandId.root.flags w args)
    else none
  | [] => none

/-- Whether a word has the shape of a flag: `--` and a name, or `-` and a letter other than `-`. -/
def isFlagWord (s : String) : Bool :=
  match s.toList with
  | '-' :: '-' :: _ :: _ => true
  | '-' :: c :: _ => c != '-'
  | _ => false

/-- A flag of a command by name; a name of one byte is a short name. -/
def flagNamed (fs : List FlagSpec) (name : String) : Option FlagSpec :=
  match name.toList with
  | [c] => if c.toNat < 0x80 then findShort fs c else findLong fs name
  | _ => findLong fs name

/-- Whether a flag may be given more than once, so that it is offered again. -/
def FlagSpec.repeatable (f : FlagSpec) : Bool :=
  f.valueWord.endsWith "Array" || f.valueWord.endsWith "Slice"

/-- What the words say about a flag whose value is being completed: the flag, if any, the words
before, and the part of the last word to complete; `unknown` when the flag named is not one of
the command's. -/
structure PendingFlag where
  flag : Option FlagSpec
  words : List String
  word : String
  unknown : Bool

/-- Finds the flag whose value the last word completes: the flag in `--name=` or `-x=` of the
last word, or else the flag word just before it. A boolean flag before the last word takes no
value, so then no flag is pending. -/
def pendingFlag (fs : List FlagSpec) (words : List String) (last : String) : PendingFlag :=
  let (name, word, withEqual) : String × String × Bool :=
    match last.toList.span (· != '=') with
    | (before@('-' :: _), _ :: after) =>
      let name := match before with
        | '-' :: '-' :: rest => String.ofList rest
        | _ => (before.getLast?.map Char.toString).getD ""
      (name, String.ofList after, true)
    | _ => ("", last, false)
  let plain := last.startsWith "-" && !withEqual
  let (name, words') : String × List String :=
    if plain || name != "" then (name, words)
    else match words.getLast? with
      | some prev =>
        if isFlagWord prev && !prev.contains '=' then
          let n := if prev.startsWith "--" then (prev.drop 2).toString
            else (prev.toList.getLast?.map Char.toString).getD ""
          (n, words.dropLast)
        else ("", words)
      | none => ("", words)
  if plain || name == "" then ⟨none, words', if plain then last else word, false⟩
  else match flagNamed fs name with
    | none => ⟨none, words, last, true⟩
    | some f =>
      if !withEqual && !f.takesValue then ⟨none, words, word, false⟩
      else ⟨some f, words', word, false⟩

/-- The candidates for a flag's names that start with the word. -/
def flagNameCandidates (word : String) (f : FlagSpec) : List (String × String) :=
  let long := "--" ++ f.name
  (if long.startsWith word then [(long, f.usage)] else []) ++
    match f.short with
    | some c => if ("-" ++ c.toString).startsWith word then [("-" ++ c.toString, f.usage)] else []
    | none => []

/-- The flags of a command that are its own and not shared with its subcommands. -/
def CommandId.ownLocalFlags (c : CommandId) : List FlagSpec :=
  match c with
  | .root => [c.helpFlag]
  | _ => c.localFlags

/-- The subcommands offered for a word: those whose name starts with it, with their summaries. -/
def subcommandCandidates (c : CommandId) (word : String) : List (String × String) :=
  ((sortedChildren c).filter (·.name.startsWith word)).map fun s => (s.name, s.short)

/-- The candidates `help` offers: the subcommands of the command its words name. -/
def helpCandidates (words : List String) (word : String) : Candidates :=
  match findCommand words with
  | .ok (c, _) => ⟨subcommandCandidates c word, noFileNames⟩
  | .error _ => ⟨[], noFileNames⟩

def byName (fs : List FlagSpec) : List FlagSpec := fs.mergeSort fun a b => a.name ≤ b.name

/-- The candidates for the last word of a command line, given the words before it. -/
def candidates (words : List String) (last : String) : Candidates :=
  match findCommand words with
  | .error _ => {}
  | .ok (c, rest) =>
    let fs := c.flags ++ [c.helpFlag]
    let pending := pendingFlag fs rest last
    let bound := pending.words.length + 2
    let counted := match parseFlags fs bound (pending.words ++ ["--"]) {} with
      | .ok p => p.positional.length
      | .error _ => 0
    match parseFlags fs bound pending.words {} with
    | .error _ => {}
    | .ok p =>
      let flagsOn := counted ≤ p.positional.length
      let given := fun (f : FlagSpec) => p.values.any (·.1 == f.name)
      if pending.unknown && flagsOn then {}
      else if given c.helpFlag then ⟨[], noFileNames⟩
      else
        let word := pending.word
        if pending.flag.isNone && word.startsWith "-" && !word.contains '=' && flagsOn then
          let offered := (byName c.sharedFlags ++ byName c.localFlags).filter fun f =>
            !given f || f.repeatable
          ⟨offered.flatMap (flagNameCandidates word), noFileNames⟩
        else
          let listed : Candidates :=
            if pending.flag.isSome then {}
            else if p.positional.isEmpty && !c.ownLocalFlags.any given && !c.children.isEmpty then
              ⟨subcommandCandidates c word, noFileNames⟩
            else {}
          if pending.flag.isSome && flagsOn then listed
          else match c with
            | .completion | .shell _ => { listed with directive := noFileNames }
            | .help =>
              let h := helpCandidates p.positional word
              ⟨listed.items ++ h.items, h.directive⟩
            | _ => listed

/-- The answer to a completion request, one candidate a line and the directive last. A
candidate keeps only its first line, without blanks around it. -/
def Candidates.render (c : Candidates) (descriptions : Bool) : String :=
  String.join (c.items.map fun (w, d) =>
    let line := if descriptions then w ++ "\t" ++ d else w
    let first := (line.splitOn "\n").headD ""
    let trimmed := String.ofList ((first.toList.dropWhile Text.isBlank).reverse.dropWhile
      Text.isBlank).reverse
    trimmed ++ "\n") ++ ":" ++ toString c.directive ++ "\n"

/-- Answers a completion request for the words of a command line, the last one being completed. -/
def answerRequest (descriptions : Bool) (words : List String) : Except String String :=
  match words.getLast? with
  | none => .error "requires at least 1 arg(s), only received 0"
  | some last => .ok ((candidates words.dropLast last).render descriptions)

end PredicateSql.Cli
