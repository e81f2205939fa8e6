import PredicateSql.Cli.Help
import PredicateSql.Cli.Json
import PredicateSql.Cli.Complete
import PredicateSql.Cli.ShellScript
import PredicateSql.Load.Predicate
import PredicateSql.Value.Literal
import PredicateSql.Sql.Render

/-! Running the command line: `compile` turns a predicate document into SQL against a mapping
file, `validate` checks a mapping file, and `completion` prints or answers shell completion.
Failed commands exit with status 2 for bad input and 1 for mappings that do not validate; files are
read through a function the caller gives. -/
namespace PredicateSql.Cli

/-- What reading a file gives: its text, or why it could not be opened or read. -/
inductive FileRead where
  | text (content : String)
  | missing
  | directory
  | notDirectory
  | denied
  deriving Inhabited

/-- The message of a file that could not be opened. -/
def openFailure (path : String) : FileRead → String
  | .notDirectory => "open " ++ path ++ ": not a directory"
  | .denied => "open " ++ path ++ ": permission denied"
  | _ => "open " ++ path ++ ": no such file or directory"

/-- What a run leaves: standard output, exit status, the error it ended with, and whether the
error was already reported on standard output. -/
structure Outcome where
  stdout : String
  exit : Nat
  err : Option String
  reported : Bool
  deriving Inhabited

def Outcome.refused (e : String) : Outcome := ⟨"", 1, some e, false⟩

def Outcome.printed (out : String) : Outcome := ⟨out, 0, none, false⟩

/-- A failed command as reported: exit status, error code, message and details. -/
structure Failure where
  exit : Nat
  code : String
  message : String
  details : List String := []

/-- The error codes. -/
def mappingsCode : String := "E001"
/-- Unreadable or invalid predicate documents. -/
def predicateCode : String := "E002"
/-- Predicates that cannot be rendered. -/
def compileCode : String := "E003"
/-- Mappings that do not validate. -/
def validateCode : String := "E004"
def usageCode : String := "E005"

def Failure.input (code message : String) : Failure := ⟨2, code, message, []⟩

/-- Reports a failure in the output format; the error is the code and the message. -/
def Failure.report (f : Failure) (json : Bool) : Outcome :=
  let out := if json then
      let details := if f.details.isEmpty then [] else [("details", Json.arr (f.details.map .str))]
      Json.document (.obj [("error", .obj (details ++
        [("code", .str f.code), ("message", .str f.message)])), ("status", .str "error")])
    else
      "Error [" ++ f.code ++ "]: " ++ f.message ++ "\n" ++
        String.join (f.details.map fun d => "  - " ++ d ++ "\n")
  ⟨out, f.exit, some (f.code ++ ": " ++ f.message), true⟩

/-- Reports success: the data as JSON, or the text. -/
def success (json : Bool) (data : Except String Json) (text : String) : Outcome :=
  if json then
    match data with
    | .ok d => .printed (Json.document (.obj [("data", d), ("status", .str "ok")]))
    | .error e => .refused e
  else .printed text

/-- The registry of a mapping file, as read. -/
def registryOf (path : String) : FileRead → Except String Registry
  | .text content => (Registry.loadMappings (Registry.empty false) content).mapError (·.message)
  | .directory => .error ("read mappings: read " ++ path ++ ": is a directory")
  | r => .error (openFailure path r)

/-- The predicate of a predicate document, as read. -/
def predicateOf (path : String) : FileRead → Except String Predicate
  | .text content => (parsePredicate content).mapError (·.message)
  | .directory => .error ("read " ++ path ++ ": is a directory")
  | r => .error (openFailure path r)

/-- Splits a text at the first occurrence of a character; whether it occurs. -/
def cutAt (s : String) (c : Char) : String × String × Bool :=
  match s.toList.span (· != c) with
  | (before, _ :: after) => (String.ofList before, String.ofList after, true)
  | (before, []) => (String.ofList before, "", false)

/-- Reads a sorting term `Entity.Property[:asc|desc]` on the selected entity. -/
def parseSort (entity term : String) : Except String SortTerm :=
  let (path, dir, _) := cutAt term ':'
  let (owner, prop, found) := cutAt path '.'
  let named := "sort " ++ Text.quoted term ++ ": "
  if !found || owner == "" || prop == "" then .error (named ++ "expected Entity.Property[:asc|desc]")
  else if owner != entity then .error (named ++ "entity must be " ++ entity)
  else match Text.lower dir with
    | "" | "asc" => .ok ⟨prop, true⟩
    | "desc" => .ok ⟨prop, false⟩
    | _ => .error (named ++ "direction must be asc or desc")

/-- The options of `compile`. -/
structure CompileOptions where
  mappings : String
  predicate : String
  select : String
  count : String
  sorts : List String

/-- Refuses flags that do not fit together. -/
def CompileOptions.conflict (o : CompileOptions) : Option String :=
  if o.select != "" && o.count != "" then some "--select and --count are mutually exclusive"
  else if o.select == "" && o.count == "" && o.predicate == "" then
    some "--predicate is required without --select or --count"
  else if !o.sorts.isEmpty && o.select == "" then some "--sort requires --select"
  else none

/-- Renders the statement a compile asks for, with fresh parameters. -/
def CompileOptions.statement (o : CompileOptions) (reg : Registry) (pred : Predicate) :
    Except Failure (String × Params) := do
  let step ← if o.select != "" then
      match o.sorts.mapM (parseSort o.select) with
      | .ok sorts => pure (Render.select Registry.resolver (Entity.named o.select) pred sorts)
      | .error e => throw (Failure.input usageCode e)
    else if o.count != "" then pure (Render.count Registry.resolver (Entity.named o.count) pred)
    else pure (Render.predicate Registry.resolver pred)
  let out := Render.run step (some {}) reg
  match out.result with
  | .ok sql => pure (sql, out.params)
  | .error e => throw (Failure.input compileCode e.message)

/-- The output of a compiled statement: the SQL, then each parameter with its value. -/
def compiledText (sql : String) (params : Params) : String :=
  sql ++ "\n" ++ String.join (params.entries.map fun (n, v) => n ++ " = " ++ v.literal ++ "\n")

/-- The JSON data of a compiled statement. -/
def compiledJson (sql : String) (params : Params) : Except String Json := do
  let ps ← params.entries.mapM fun (n, v) => do
    let j ← Value.toJson v
    pure (Json.obj [("value", j), ("name", .str n)])
  pure (.obj [("sql", .str sql), ("params", .arr ps)])

/-- Runs `compile`. -/
def runCompile {m : Type → Type} [Monad m] (read : String → m FileRead) (json : Bool)
    (o : CompileOptions) : m Outcome := do
  if let some e := o.conflict then return (Failure.input usageCode e).report json
  if o.mappings == "" then return (Failure.input mappingsCode "--mappings is required").report json
  match registryOf o.mappings (← read o.mappings) with
  | .error e => return (Failure.input mappingsCode e).report json
  | .ok reg =>
    let pred ← if o.predicate == "" then pure (.ok Predicate.absent)
      else do pure (predicateOf o.predicate (← read o.predicate))
    match pred with
    | .error e => return (Failure.input predicateCode e).report json
    | .ok pred =>
      match o.statement reg pred with
      | .error f => return f.report json
      | .ok (sql, params) => return success json (compiledJson sql params) (compiledText sql params)

/-- Runs `validate`. -/
def runValidate {m : Type → Type} [Monad m] (read : String → m FileRead) (json : Bool)
    (mappings : String) : m Outcome := do
  if mappings == "" then return (Failure.input mappingsCode "--mappings is required").report json
  match registryOf mappings (← read mappings) with
  | .error e => return (Failure.input mappingsCode e).report json
  | .ok reg =>
    match reg.validate with
    | [] =>
      let names := reg.entities
      return success json (.ok (.obj [("entities", .arr (names.map .str))]))
        ("✓ " ++ toString names.length ++ " entity mapping(s) valid\n" ++
          String.join (names.map fun n => "  " ++ n ++ "\n"))
    | problems =>
      return Failure.report ⟨1, validateCode, toString problems.length ++ " mapping problem(s)",
        problems⟩ json

def formats : List String := ["text", "json"]

/-- Runs the help command for the words after it: the help of the command they name, or a
note on the unknown topic and the usage of the root command, whose help flag is not shown
since only the help command is run. -/
def runHelp (words : List String) : Outcome :=
  match findCommand words with
  | .ok (c, _) => .printed (helpText c)
  | .error _ => .printed ("Unknown help topic " ++ topicList words ++ "\n" ++
      usageWith .root CommandId.root.ownFlags)

/-- Runs the command line on its arguments, reading files through `read`. -/
def run {m : Type → Type} [Monad m] (read : String → m FileRead) (args : List String) :
    m Outcome :=
  match requestOf args with
  | some (descriptions, words) =>
    match answerRequest descriptions words with
    | .ok out => pure (.printed out)
    | .error e => pure (.refused e)
  | none =>
  match findCommand args with
  | .error e => pure (.refused e)
  | .ok (c, rest) =>
    match parseFlags (c.flags ++ [c.helpFlag]) (rest.length + 1) rest {} with
    | .error e => pure (.refused e)
    | .ok p =>
      if p.flag "help" || !c.runnable then pure (.printed (helpText c))
      else
        let noArgs : Option String := match c, p.positional with
          | .help, _ => none
          | _, w :: _ => some ("unknown command " ++ Text.quoted w ++ " for " ++ Text.quoted c.path)
          | _, [] => none
        match noArgs with
        | some e => pure (.refused e)
        | none =>
          let format := p.text "format" "text"
          if !formats.contains format then
            pure (.refused ("invalid format " ++ Text.quoted format ++
              ": must be one of [text json]"))
          else
            let json := format == "json"
            let mappings := p.text "mappings" ""
            match c with
            | .compile => runCompile read json ⟨mappings, p.text "predicate" "", p.text "select" "",
                p.text "count" "", p.texts "sort"⟩
            | .validate => runValidate read json mappings
            | .help => pure (runHelp p.positional)
            | .shell s => pure (.printed (shellScript s
                (if p.flag "no-descriptions" then requestWordPlain else requestWord)))
            | _ => pure (.printed "")

end PredicateSql.Cli
