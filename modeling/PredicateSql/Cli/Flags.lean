import PredicateSql.Text.Quoted
import PredicateSql.Text.Printable
import PredicateSql.Text.Case

/-! Command-line arguments. The command is found by skipping flags and their values by their
shape; its flags are then parsed in their long (`--name=value`, `--name value`) and short (`-x`,
`-xvalue`, `-vx`) forms, `--` ends the flags, and the other arguments are kept in order. -/
namespace PredicateSql.Cli

/-- A flag: its long name, its one-letter short name (or none), whether it takes a value (all
but booleans do), and its help line. -/
structure FlagSpec where
  name : String
  short : Option Char
  takesValue : Bool
  /-- The word for the value in help, empty for booleans. -/
  valueWord : String
  usage : String
  /-- The default, shown in help when it is not the empty value. -/
  default : String := ""
  deriving Inhabited

/-- The commands. -/
inductive CommandId where
  | root | compile | validate | help | completion
  | shell (name : String)
  deriving DecidableEq, Inhabited

/-- The flags of every command: verbosity, output format and mapping file. -/
def globalFlags : List FlagSpec := [
  { name := "verbose", short := some 'v', takesValue := false, valueWord := "",
    usage := "log mapping details to stderr" },
  { name := "format", short := none, takesValue := true, valueWord := "string",
    usage := "output format (json|text)", default := "text" },
  { name := "mappings", short := some 'm', takesValue := true, valueWord := "string",
    usage := "YAML mapping file" }]

/-- The flags of `compile` itself. -/
def compileFlags : List FlagSpec := [
  { name := "predicate", short := some 'p', takesValue := true, valueWord := "string",
    usage := "YAML predicate document" },
  { name := "select", short := none, takesValue := true, valueWord := "string",
    usage := "render a SELECT over this entity" },
  { name := "count", short := none, takesValue := true, valueWord := "string",
    usage := "render a COUNT over this entity" },
  { name := "sort", short := none, takesValue := true, valueWord := "stringArray",
    usage := "sort term Entity.Property[:asc|desc], repeatable" }]

def shells : List String := ["bash", "fish", "powershell", "zsh"]

/-- The flag of a completion script that leaves out descriptions. -/
def noDescriptions : FlagSpec :=
  { name := "no-descriptions", short := none, takesValue := false, valueWord := "",
    usage := "disable completion descriptions" }

namespace CommandId

/-- The name of a command. -/
def name : CommandId → String
  | root => "predql"
  | compile => "compile"
  | validate => "validate"
  | help => "help"
  | completion => "completion"
  | shell s => s

/-- The command path, from the root. -/
def path : CommandId → String
  | root => "predql"
  | shell s => "predql completion " ++ s
  | c => "predql " ++ c.name

/-- The flags a command defines itself. -/
def ownFlags : CommandId → List FlagSpec
  | root => globalFlags
  | compile => compileFlags
  | shell _ => [noDescriptions]
  | _ => []

/-- The flags a command accepts before the help flag is added. -/
def flags : CommandId → List FlagSpec
  | root => globalFlags
  | c => c.ownFlags ++ globalFlags

/-- The help flag of a command. -/
def helpFlag (c : CommandId) : FlagSpec :=
  { name := "help", short := some 'h', takesValue := false, valueWord := "",
    usage := "help for " ++ c.name }

/-- The subcommands of a command, in the order they were added. -/
def children : CommandId → List CommandId
  | root => [compile, validate, help, completion]
  | completion => shells.map shell
  | _ => []

end CommandId

def findLong (fs : List FlagSpec) (name : String) : Option FlagSpec := fs.find? (·.name == name)

def findShort (fs : List FlagSpec) (c : Char) : Option FlagSpec := fs.find? (·.short == some c)

/-- Whether a long flag of this name is a boolean. -/
def isBoolLong (fs : List FlagSpec) (name : String) : Bool :=
  match findLong fs name with
  | some f => !f.takesValue
  | none => false

/-- Whether a short flag of this name is a boolean. -/
def isBoolShort (fs : List FlagSpec) (name : String) : Bool :=
  match name.toList with
  | [c] => match findShort fs c with
    | some f => !f.takesValue
    | none => false
  | _ => false

/-- Whether an argument, while looking for commands, is a flag that takes the next argument. -/
def takesNext (fs : List FlagSpec) (s : String) : Bool :=
  (s.startsWith "--" && !s.contains '=' && !isBoolLong fs (s.drop 2).toString) ||
    (s.startsWith "-" && !s.contains '=' && s.utf8ByteSize == 2 && !isBoolShort fs (s.drop 1).toString)

/-- The arguments that may name commands: flags and flag values are skipped, and `--` ends
the search. A flag that takes a value and comes last or next to last ends it too. -/
def commandWords (fs : List FlagSpec) : List String → List String
  | [] => []
  | [s] => if s == "--" || takesNext fs s || s == "" || s.startsWith "-" then [] else [s]
  | s :: v :: rest =>
    if s == "--" then []
    else if takesNext fs s then
      match rest with
      | [] => []
      | _ :: _ => commandWords fs rest
    else if s != "" && !s.startsWith "-" then s :: commandWords fs (v :: rest)
    else commandWords fs (v :: rest)

/-- The arguments without the first command word equal to `x`. -/
def withoutWord (fs : List FlagSpec) (x : String) : List String → List String
  | [] => []
  | s :: rest =>
    if s == "--" then s :: rest
    else if takesNext fs s then
      match rest with
      | v :: r => s :: v :: withoutWord fs x r
      | [] => [s]
    else if !s.startsWith "-" && s == x then rest
    else s :: withoutWord fs x rest

/-- The edit distance of two texts in bytes, ignoring letter case. -/
def editDistance (a b : String) : Nat :=
  let xs := Text.bytes (Text.lower a)
  let ys := Text.bytes (Text.lower b)
  let first := List.range (ys.length + 1)
  let last := xs.foldl (fun (prev : List Nat) (x : UInt8) =>
    let start := prev.headD 0 + 1
    let (row, _) := (ys.zip (prev.zip (prev.drop 1))).foldl
      (fun (acc : List Nat × Nat) (p : UInt8 × Nat × Nat) =>
        let (y, diag, up) := p
        let left := acc.2
        let cost := if x == y then diag else min (min (diag + 1) (up + 1)) (left + 1)
        (acc.1 ++ [cost], cost)) ([start], start)
    row) first
  last.getLastD 0

/-- Commands whose names are within two edits of a mistyped name or start with it. -/
def suggestions (typed : String) : List String :=
  (["compile", "validate", "completion"]).filter fun n =>
    editDistance typed n ≤ 2 || (Text.lower n).startsWith (Text.lower typed)

/-- Finds the command an argument list names, and the arguments left for it. An unknown word
where the root expects a command is an error. -/
def findCommand (args : List String) : Except String (CommandId × List String) :=
  match commandWords CommandId.root.flags args with
  | [] => .ok (.root, args)
  | w :: _ =>
    match CommandId.root.children.find? (·.name == w) with
    | some .completion =>
      let rest := withoutWord CommandId.root.flags w args
      match commandWords CommandId.completion.flags rest with
      | v :: _ =>
        if shells.contains v then .ok (.shell v, withoutWord CommandId.completion.flags v rest)
        else .ok (.completion, rest)
      | [] => .ok (.completion, rest)
    | some c => .ok (c, withoutWord CommandId.root.flags w args)
    | none =>
      let hint := match suggestions w with
        | [] => ""
        | ss => "\n\nDid you mean this?\n" ++ String.join (ss.map fun s => "\t" ++ s ++ "\n")
      .error ("unknown command " ++ Text.quoted w ++ " for " ++ Text.quoted "predql" ++ hint)

/-- Flag values as given, in order, and the other arguments. -/
structure Parsed where
  values : List (String × String) := []
  positional : List String := []
  deriving Inhabited

/-- Reads a boolean the way flag values are read. -/
def parseBool (s : String) : Except String Bool :=
  if ["1", "t", "T", "TRUE", "true", "True"].contains s then .ok true
  else if ["0", "f", "F", "FALSE", "false", "False"].contains s then .ok false
  else .error ("strconv.ParseBool: parsing " ++ Text.quoted s ++ ": invalid syntax")

/-- Records a flag value; a boolean must read as one. -/
def Parsed.set (p : Parsed) (f : FlagSpec) (value : String) : Except String Parsed :=
  if f.takesValue then .ok { p with values := p.values ++ [(f.name, value)] }
  else
    let shown := match f.short with
      | some c => "-" ++ c.toString ++ ", --" ++ f.name
      | none => "--" ++ f.name
    match parseBool value with
    | .ok _ => .ok { p with values := p.values ++ [(f.name, value)] }
    | .error e =>
      .error ("invalid argument " ++ Text.quoted value ++ " for " ++ Text.quoted shown ++
        " flag: " ++ e)

/-- A short flag letter as it is quoted in errors: its first byte read as a character, in single
quotes, escaped when it does not print. -/
def quoteLetter (c : Char) : String :=
  let b := Char.ofNat (c.toString.toUTF8.toList.headD 0).toNat
  if b = '\'' then "'\\''"
  else if b = '\\' then "'\\\\'"
  else if Text.isPrintable b then "'" ++ b.toString ++ "'"
  else "'" ++ String.ofList (Text.escapeChar b) ++ "'"

/-- Parses a group of short flags, given without the leading `-`. -/
def parseShorts (fs : List FlagSpec) : Nat → List Char → List String → Parsed →
    Except String (List String × Parsed)
  | 0, _, args, p => .ok (args, p)
  | _, [], args, p => .ok (args, p)
  | fuel + 1, c :: rest, args, p =>
    let group := String.ofList (c :: rest)
    if group.startsWith "test." then .ok (args, p) else
    match findShort fs c with
    | none =>
      .error ("unknown shorthand flag: " ++ quoteLetter c ++ " in -" ++ group)
    | some f =>
      match rest with
      | '=' :: v@(_ :: _) => do
        let p ← p.set f (String.ofList v)
        .ok (args, p)
      | _ =>
        if !f.takesValue then do
          let p ← p.set f "true"
          parseShorts fs fuel rest args p
        else if !rest.isEmpty then do
          let p ← p.set f (String.ofList rest)
          .ok (args, p)
        else match args with
          | v :: more => do
            let p ← p.set f v
            .ok (more, p)
          | [] => .error ("flag needs an argument: " ++ quoteLetter c ++ " in -" ++ group)

/-- Parses the arguments of a command against its flags. -/
def parseFlags (fs : List FlagSpec) : Nat → List String → Parsed → Except String Parsed
  | 0, _, p => .ok p
  | _, [], p => .ok p
  | fuel + 1, s :: rest, p =>
    if s.length ≤ 1 || !s.startsWith "-" then
      parseFlags fs fuel rest { p with positional := p.positional ++ [s] }
    else if s == "--" then .ok { p with positional := p.positional ++ rest }
    else if s.startsWith "--" then
      let body := (s.drop 2).toString
      if body.startsWith "-" || body.startsWith "=" then .error ("bad flag syntax: " ++ s)
      else
        let name := (body.splitOn "=").headD ""
        let given : Option String :=
          if body.contains '=' then some (body.drop (name.length + 1)).toString else none
        match findLong fs name with
        | none => .error ("unknown flag: --" ++ name)
        | some f =>
          match given with
          | some v => do parseFlags fs fuel rest (← p.set f v)
          | none =>
            if !f.takesValue then do parseFlags fs fuel rest (← p.set f "true")
            else match rest with
              | v :: more => do parseFlags fs fuel more (← p.set f v)
              | [] => .error ("flag needs an argument: " ++ s)
    else do
      let (rest, p) ← parseShorts fs (s.length + 1) (s.drop 1).toString.toList rest p
      parseFlags fs fuel rest p

/-- The last value given for a flag, or its default. -/
def Parsed.text (p : Parsed) (name : String) (default : String) : String :=
  ((p.values.filter (·.1 == name)).getLast?.map (·.2)).getD default

def Parsed.texts (p : Parsed) (name : String) : List String :=
  (p.values.filter (·.1 == name)).map (·.2)

/-- Whether a boolean flag was last set to true. -/
def Parsed.flag (p : Parsed) (name : String) : Bool :=
  match parseBool (p.text name "false") with
  | .ok b => b
  | .error _ => false

end PredicateSql.Cli
