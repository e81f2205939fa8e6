/-! Bracket-delimited identifiers. A name is written between `[` and `]` with every `]` inside it
doubled; reading such an identifier back takes a doubled `]` for one `]` and stops at the first
single one. Plain identifiers, the names that may also stand in a parameter name, are ASCII
letters, digits and underscores that do not start with a digit. -/
namespace PredicateSql.Identifier

/-- The body of a bracketed identifier: each `]` doubled, everything else kept. -/
def escape : List Char → List Char
  | [] => []
  | c :: r => if c = ']' then ']' :: ']' :: escape r else c :: escape r

/-- A name between brackets, with its closing brackets doubled. -/
def quote (s : String) : String :=
  String.ofList ('[' :: escape s.toList ++ [']'])

/-- Reads a bracketed body up to its single closing bracket: the name read and what follows. -/
def scanBody : List Char → Option (List Char × List Char)
  | [] => none
  | ']' :: ']' :: r => (scanBody r).map fun (n, rest) => (']' :: n, rest)
  | ']' :: r => some ([], r)
  | c :: r => (scanBody r).map fun (n, rest) => (c :: n, rest)

/-- Reads one bracket-delimited identifier off the front of a text. -/
def scan : List Char → Option (List Char × List Char)
  | '[' :: r => scanBody r
  | _ => none

def isStart (c : Char) : Bool := c.isAlpha || c = '_'

def isPart (c : Char) : Bool := c.isAlphanum || c = '_'

/-- A plain identifier: non-empty, ASCII only, a letter or underscore first and then letters,
digits and underscores. -/
def isPlain (s : String) : Bool :=
  match s.toList with
  | [] => false
  | c :: r => isStart c && r.all isPart

@[simp] theorem escape_nil : escape [] = [] := rfl

example : quote "a]b" = "[a]]b]" := by decide
example : isPlain "_9" ∧ ¬ isPlain "9a" ∧ ¬ isPlain "" ∧ ¬ isPlain "a-b" := by decide

end PredicateSql.Identifier
