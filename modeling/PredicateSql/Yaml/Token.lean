import PredicateSql.Yaml.Error

/-! The tokens a YAML character stream splits into, the positions they carry, and the failures
of reading. Positions count characters, lines and columns from zero; a failure is reported on
the line of the construct it interrupts, counted from one when the failure came from splitting
into tokens and from zero otherwise, and with no line at all when that count is zero. -/
namespace PredicateSql.Yaml

/-- A position in the input: characters read so far, line and column, all from zero. -/
structure Mark where
  index : Nat := 0
  line : Nat := 0
  column : Nat := 0
  deriving Inhabited, Repr, DecidableEq

/-- How a scalar is written. -/
inductive ScalarStyle where
  | plain | singleQuoted | doubleQuoted | literal | folded
  deriving Inhabited, Repr, DecidableEq

/-- The kinds of tokens. Block starts and ends, and keys before simple keys, take no characters
of their own. -/
inductive TokenKind where
  | streamStart | streamEnd | documentStart | documentEnd
  /-- A `%YAML` directive with its version. -/
  | versionDirective (major minor : Nat)
  /-- A `%TAG` directive: a handle and the prefix it stands for. -/
  | tagDirective (handle pre : String)
  | blockSequenceStart | blockMappingStart | blockEnd
  | flowSequenceStart | flowSequenceEnd | flowMappingStart | flowMappingEnd
  | blockEntry | flowEntry | key | value
  | reference (name : String)
  | anchor (name : String)
  | tag (handle suffix : String)
  | scalar (text : String) (style : ScalarStyle)
  deriving Inhabited, Repr, DecidableEq

/-- A token and the positions where it starts and stops. -/
structure Token where
  kind : TokenKind
  start : Mark
  stop : Mark
  deriving Inhabited, Repr

/-- A failure of reading: the construct it interrupts and where that began, and the problem and
where it was found. -/
structure Fault where
  context : String := ""
  contextMark : Mark := {}
  problem : String
  problemMark : Mark := {}
  /-- Whether the failure came from splitting into tokens. -/
  scanning : Bool
  deriving Inhabited, Repr

/-- The line a failure is reported on; zero means none. -/
def Fault.line (f : Fault) : Nat :=
  let bump := if f.scanning then 1 else 0
  if f.contextMark.line != 0 then f.contextMark.line + bump
  else if f.problemMark.line != 0 then f.problemMark.line + bump
  else 0

def Fault.toError (f : Fault) : Error := .malformed f.line f.problem

example : ({ problem := "p", problemMark := { line := 2 }, scanning := true } : Fault).line = 3 :=
  rfl

end PredicateSql.Yaml
