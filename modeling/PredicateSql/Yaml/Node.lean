import PredicateSql.Yaml.Resolve

/-! The node tree of a YAML document. Every node carries its tag in short form and the line it
starts on, counted from one. Scalars keep their text; an alias keeps the node its anchor named,
or nothing when the alias stands inside that very node. -/
namespace PredicateSql.Yaml

/-- A node of a YAML document. -/
inductive Node where
  | scalar (tag text : String) (line : Nat)
  | sequence (tag : String) (items : List Node) (line : Nat)
  | mapping (tag : String) (entries : List (Node × Node)) (line : Nat)
  | reference (name : String) (target : Option Node) (line : Nat)
  deriving Inhabited

namespace Node

def line : Node → Nat
  | scalar _ _ l | sequence _ _ l | mapping _ _ l | reference _ _ l => l

/-- The tag of a node; an alias has the tag of its target. -/
def tag : Node → String
  | scalar t _ _ | sequence t _ _ | mapping t _ _ => t
  | reference _ (some n) _ => n.tag
  | reference _ none _ => ""

/-- The text a node holds: a scalar's text, an alias's name, nothing for collections. -/
def text : Node → String
  | scalar _ s _ => s
  | reference n _ _ => n
  | _ => ""

/-- The kind of a node, as a number: scalar, sequence, mapping, alias. -/
def kindCode : Node → Nat
  | scalar .. => 0
  | sequence .. => 1
  | mapping .. => 2
  | reference .. => 3

/-- Two mapping keys are the same when they are of one kind and hold the same text. -/
def sameKey (a b : Node) : Bool := a.kindCode == b.kindCode && a.text == b.text

end Node

end PredicateSql.Yaml
