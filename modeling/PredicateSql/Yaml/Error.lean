/-! Why a YAML document could not be read: either its text is malformed, or its nodes do not fit
the shape they are read into, or a collection stood where a key had to be hashed. -/
namespace PredicateSql.Yaml

/-- A failure to read a document. -/
inductive Error where
  /-- Malformed text; the line is one-based, and `0` means no line is reported. -/
  | malformed (line : Nat) (problem : String)
  /-- Nodes of the wrong shape, each with its one-based line, in document order. -/
  | mismatched (problems : List (Nat × String))
  /-- A collection met where a key must be hashed. This stops the whole program rather than the
  reading, and the message is the one the program stops with. -/
  | unhashable (typeName : String)
  deriving Repr, DecidableEq

/-- The message of a reading failure. -/
def Error.message : Error → String
  | .malformed 0 p => "yaml: " ++ p
  | .malformed n p => "yaml: line " ++ toString n ++ ": " ++ p
  | .mismatched ps =>
    "yaml: unmarshal errors:" ++ String.join (ps.map fun (l, p) => "\n  line " ++ toString l ++ ": " ++ p)
  | .unhashable t => "runtime error: hash of unhashable type " ++ t

example : (Error.malformed 3 "did not find expected key").message = "yaml: line 3: did not find expected key" := by
  decide

end PredicateSql.Yaml
