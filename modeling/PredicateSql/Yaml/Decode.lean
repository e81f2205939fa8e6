import PredicateSql.Yaml.Parser
import PredicateSql.Text.Bytes
import PredicateSql.Value.Literal

/-! Decoding YAML nodes into typed targets. A node of the wrong shape is a mismatch noted with its
line, and decoding goes on; other failures end it at once. `<<` keys merge mappings without
overriding keys already set, and a document whose aliases expand too far is refused. -/
namespace PredicateSql.Yaml

/-- What decoding keeps track of: the mismatches noted so far, the steps taken, how many of them
were taken inside an alias, and how many aliases are being expanded now. -/
structure DecodeState where
  problems : Array (Nat × String) := #[]
  steps : Nat := 0
  aliased : Nat := 0
  depth : Nat := 0

/-- Decoding steps: the state so far, or a failure. -/
abbrev DecodeM := StateT DecodeState (Except Error)

namespace Decode

def fatal {α : Type} (problem : String) : DecodeM α := throw (Error.malformed 0 problem)

def report (line : Nat) (problem : String) : DecodeM Unit :=
  modify fun s => { s with problems := s.problems.push (line, problem) }

/-- Whether too large a share of the steps went through aliases. With at most 100 aliased steps
or at most 1000 steps any share is allowed; else the share may be 99% up to 400000 steps, 10%
from 4000000 steps on, and falls evenly in between. -/
def tooAliased (aliased steps : Nat) : Bool :=
  aliased > 100 && steps > 1000 &&
    (if steps ≤ 400000 then 100 * aliased > 99 * steps
    else if steps ≥ 4000000 then 10 * aliased > steps
    else 360000000 * aliased + 89 * (steps - 400000) * steps > 356400000 * steps)

/-- Counts one step; inside an alias it is an aliased step. -/
def visit : DecodeM Unit := do
  let s ← get
  let aliased := if s.depth > 0 then s.aliased + 1 else s.aliased
  let s := { s with steps := s.steps + 1, aliased := aliased }
  set s
  if tooAliased s.aliased s.steps then fatal "document contains excessive aliasing"

/-- Decodes a node by `k`, as one step. An alias is decoded as the node it names, in one more
step and one alias deeper; an alias inside its own anchor ends decoding. -/
def expand {α : Type} (n : Node) (k : Node → DecodeM α) : DecodeM α := do
  visit
  match n with
  | .reference name none _ => fatal ("anchor '" ++ name ++ "' value contains itself")
  | .reference _ (some t) _ =>
    modify fun s => { s with depth := s.depth + 1 }
    visit
    let r ← k t
    modify fun s => { s with depth := s.depth - 1 }
    return r
  | n => k n

/-- Notes that a node cannot go into a target type. The node's text follows its tag: right after
a collection tag, else in backquotes and cut to seven bytes when longer than ten. -/
def mismatch (n : Node) (target : String) : DecodeM Unit :=
  let tag := n.tag
  let shown :=
    if tag == "!!seq" || tag == "!!map" then n.text
    else if n.text.utf8ByteSize > 10 then " \x60" ++ Text.byteExcerpt n.text 7 ++ "...\x60"
    else " \x60" ++ n.text ++ "\x60"
  report n.line ("cannot unmarshal " ++ tag ++ shown ++ " into " ++ target)

/-- Whether a node is a collection tagged null. Such a node neither fills nor empties an optional
target: it is a mismatch there. -/
def nullCollection (n : Node) : Bool :=
  match n with
  | .sequence "!!null" _ _ | .mapping "!!null" _ _ => true
  | _ => false

/-- The reading of a scalar node and its tag: text for `!!str`, decoded bytes for `!!binary`,
else as resolved. -/
def scalar (tag text : String) : DecodeM (String × Scalar) := do
  if tag == "!!str" then return ("!!str", .str text)
  match resolve tag text with
  | .error problem => fatal problem
  | .ok (t, v) =>
    if t == "!!binary" then
      match Text.decodeBase64 text with
      | some bs => return (t, .str (Text.ofBytes bs))
      | none => fatal "!!binary value contains invalid base64 data"
    else return (t, v)

/-- Whether a key merges another mapping in. -/
def isMergeKey (n : Node) : Bool :=
  match n with
  | .scalar tag "<<" _ => tag == "!!merge"
  | _ => false

/-- Notes, for each pair of keys of one kind with the same text, the later one; true when there is
no such pair. -/
def distinctKeys (entries : List (Node × Node)) : DecodeM Bool := do
  let keys := entries.map (·.1)
  let mut ok := true
  let mut rest := keys
  for k in keys do
    rest := rest.drop 1
    for later in rest do
      if Node.sameKey k later then
        report later.line ("mapping key " ++ Text.quoted later.text ++ " already defined at line " ++
          toString k.line)
        ok := false
  return ok

/-- Notes that a collection cannot go into a scalar target. A mapping with repeated keys has
those noted instead. -/
def refuse (n : Node) (target : String) : DecodeM Unit := do
  match n with
  | .mapping _ entries _ =>
    if ← distinctKeys entries then mismatch n target
  | _ => mismatch n target

/-- Decodes into a text: a scalar gives its text (a binary one its bytes), null keeps the
current text. -/
def text (n : Node) (current : String) : DecodeM String := do
  match n with
  | .scalar tag raw _ =>
    match ← scalar tag raw with
    | (_, .null) => pure current
    | ("!!binary", .str s) => pure s
    | _ => pure raw
  | _ =>
    refuse n "string"
    pure current

def yesWords : List String := ["y", "Y", "yes", "Yes", "YES", "on", "On", "ON"]

def noWords : List String := ["n", "N", "no", "No", "NO", "off", "Off", "OFF"]

/-- Decodes into a boolean: booleans, and the yes/no/on/off words; null keeps the current value. -/
def bool (n : Node) (current : Bool) : DecodeM Bool := do
  match n with
  | .scalar tag raw _ =>
    match ← scalar tag raw with
    | (_, .null) => pure current
    | (_, .bool b) => pure b
    | (_, .str s) =>
      if yesWords.contains s then pure true
      else if noWords.contains s then pure false
      else do
        mismatch n "bool"
        pure current
    | _ => do
      mismatch n "bool"
      pure current
  | _ => do
    refuse n "bool"
    pure current

/-- A map key decoded into a text: none for null and for collections, which are noted. -/
def textKey (n : Node) : DecodeM (Option String) := do
  match n with
  | .scalar tag raw _ =>
    match ← scalar tag raw with
    | (_, .null) => pure none
    | ("!!binary", .str s) => pure (some s)
    | _ => pure (some raw)
  | _ =>
    refuse n "string"
    pure none

/-- A scalar reading as a value. -/
def scalarValue : Scalar → Value
  | .null => .null
  | .bool b => .bool b
  | .int i => .int .int i
  | .uint n => .int .uint64 n
  | .float x => .float x
  | .timestamp t => .time t
  | .str s => .text s

/-- Whether two map keys are one key: of one type and equal; not-a-number equals nothing. -/
def sameKey : Value → Value → Bool
  | .null, .null => true
  | .bool a, .bool b => a == b
  | .text a, .text b => a == b
  | .int k a, .int l b => k == l && a == b
  | .float a, .float b => a == b
  | .time a, .time b => decide (a = b)
  | _, _ => false

/-- Keys already set while mappings are merged into one target: a merged mapping sets no key
that is among them. Outside a merge there are none. -/
abbrev MergedKeys := Option (List Value)

/-- Whether a key is already set in a merge; if not, it is set from now on. -/
def claim (merged : MergedKeys) (key : Value) : Bool × MergedKeys :=
  match merged with
  | none => (true, none)
  | some ks => if ks.any (sameKey key) then (false, merged) else (true, some (ks ++ [key]))

/-- The value of the last merge key of a mapping. -/
def mergeSource (entries : List (Node × Node)) : Option Node :=
  ((entries.filter fun (k, _) => isMergeKey k).getLast?).map (·.2)

/-- The refusal of a merge whose value is not a mapping or a list of mappings. -/
def wantMap {α : Type} : DecodeM α := fatal "map merge requires map or sequence of maps as the value"

/-- Checks one mapping to merge in: a mapping, or an alias of one. -/
def mergePart (n : Node) : DecodeM Unit :=
  match n with
  | .mapping .. | .reference _ none _ | .reference _ (some (.mapping ..)) _ => pure ()
  | _ => wantMap

/-- Sets a key of a map being built: an equal key keeps its place and takes the new key and
value. -/
def setKey (es : List (Value × Value)) (k v : Value) : List (Value × Value) :=
  if es.any fun (k', _) => sameKey k k' then es.map fun (k', v') => if sameKey k k' then (k, v) else (k', v')
  else es ++ [(k, v)]

/-- The type of a value that cannot be hashed as a key: lists and maps. -/
def unhashableType : Value → Option String
  | .list .. => some "[]interface {}"
  | .map .. => some "map[string]interface {}"
  | .anyMap .. => some "map[interface {}]interface {}"
  | _ => none

/-- Stops on a key that cannot be hashed. -/
def hashable (key : Value) : DecodeM Unit :=
  match unhashableType key with
  | some t => throw (Error.unhashable t)
  | none => pure ()

/-- Whether the keys of a mapping all differ, as `distinctKeys` checks without noting anything. -/
def keysDiffer : List (Node × Node) → Bool
  | [] => true
  | (k, _) :: rest => !(rest.any fun (k', _) => Node.sameKey k k') && keysDiffer rest

mutual

/-- Decodes into a value of any type: scalars as read, sequences as lists, mappings as maps with
text keys when every key is tagged as a text or as a merge, else as maps with keys of any type. -/
def value : Nat → Node → DecodeM Value
  | 0, _ => fatal "document nesting exceeds the input"
  | fuel + 1, n => do
    match n with
    | .scalar tag raw _ => return scalarValue (← scalar tag raw).2
    | .sequence _ items _ => return .list .dynamic (← values fuel items)
    | .mapping _ entries _ =>
      let textKeys := entries.all fun (k, _) => k.tag == "!!str" || k.tag == "!!merge"
      let (es, _) ← mapInto fuel textKeys n [] none
      if textKeys then
        return .map (es.map fun (k, v) => (match k with | .text s => s | _ => "", v))
      else return .anyMap es
    | .reference .. => return .null

/-- Decodes the items of a list. -/
def values : Nat → List Node → DecodeM (List Value)
  | _, [] => pure []
  | fuel, n :: ns => do
    let v ← expand n (value fuel)
    let vs ← values fuel ns
    pure (v :: vs)

/-- Decodes a mapping into a map being built, text keys or keys of any type, then merges in
the mappings its merge key names; keys the mapping sets itself are not overridden. Returns the
map and the merged keys. -/
def mapInto : Nat → Bool → Node → List (Value × Value) → MergedKeys →
    DecodeM (List (Value × Value) × MergedKeys)
  | 0, _, _, _, _ => fatal "document nesting exceeds the input"
  | fuel + 1, textKeys, n, acc, merged => do
    let .mapping _ entries _ := n | return (acc, merged)
    if !(← distinctKeys entries) then return (acc, merged)
    let (acc, merged) ← mapEntries fuel textKeys entries acc merged
    match mergeSource entries with
    | none => return (acc, merged)
    | some m =>
      let keys ← match merged with
        | some ks => pure ks
        | none => keysOf fuel entries
      let (acc, keys) ← mergeInto fuel textKeys (match m with
        | .sequence _ items _ => items
        | _ => [m]) (match m with | .sequence .. => true | _ => false) acc keys
      return (acc, merged.map fun _ => keys)

/-- Decodes the entries of a mapping into a map being built, merge keys aside. -/
def mapEntries : Nat → Bool → List (Node × Node) → List (Value × Value) → MergedKeys →
    DecodeM (List (Value × Value) × MergedKeys)
  | _, _, [], acc, merged => pure (acc, merged)
  | fuel, textKeys, (k, v) :: rest, acc, merged => do
    if isMergeKey k then return ← mapEntries fuel textKeys rest acc merged
    let key ← expand k fun k => if textKeys then do
        let t ← textKey k
        pure (t.map Value.text)
      else do
        let key ← value fuel k
        pure (some key)
    match key with
    | none => mapEntries fuel textKeys rest acc merged
    | some key =>
      if merged.isSome then hashable key
      let (fresh, merged) := claim merged key
      if !fresh then return ← mapEntries fuel textKeys rest acc merged
      match key with
      | .list .. | .map .. | .anyMap .. => fatal ("invalid map key: " ++ key.literal)
      | _ => pure ()
      let e ← expand v (value fuel)
      mapEntries fuel textKeys rest (setKey acc key e) merged

/-- The keys of a mapping as a merge into it sees them, in order: each decoded as a value, but a
mapping with repeated keys left out. A key that cannot be hashed stops the program. -/
def keysOf : Nat → List (Node × Node) → DecodeM (List Value)
  | _, [] => pure []
  | fuel, (k, _) :: rest => do
    let key ← expand k fun k => do
      let key ← value fuel k
      match k with
      | .mapping _ entries _ => pure (if keysDiffer entries then some key else none)
      | _ => pure (some key)
    if let some key := key then hashable key
    let keys ← keysOf fuel rest
    pure (match key with
      | some key => key :: keys
      | none => keys)

/-- Merges mappings into a map being built, in order, each checked before it is decoded. -/
def mergeInto : Nat → Bool → List Node → Bool → List (Value × Value) → List Value →
    DecodeM (List (Value × Value) × List Value)
  | _, _, [], _, acc, keys => pure (acc, keys)
  | fuel, textKeys, m :: ms, listed, acc, keys => do
    if listed then mergePart m else
      match m with
      | .mapping .. | .reference .. => mergePart m
      | _ => wantMap
    let (acc, merged) ← expand m fun m => mapInto fuel textKeys m acc (some keys)
    mergeInto fuel textKeys ms listed acc (merged.getD keys)

end

/-- Decodes a mapping into a record type with the given fields, then merges in the mappings its
merge key names: keys are read as texts, each known field is decoded by `field` as it comes,
a field set twice is noted, unknown keys are noted when `strict`, and a key the mapping sets
itself is not overridden by a merged one. Anything but a mapping is a mismatch, except null,
which leaves the record as it is. -/
def recordInto {σ : Type} (typeName : String) (fields : List String) (strict : Bool)
    (field : σ → String → Node → DecodeM σ) : Nat → Node → σ → MergedKeys →
    DecodeM (σ × MergedKeys)
  | 0, _, _, _ => fatal "document nesting exceeds the input"
  | fuel + 1, n, acc, merged => do
    match n with
    | .mapping _ entries _ =>
      if !(← distinctKeys entries) then return (acc, merged)
      let mut acc := acc
      let mut merged := merged
      let mut done : List String := []
      for (k, v) in entries do
        if isMergeKey k then continue
        let some name ← expand k textKey | continue
        let (fresh, m) := claim merged (.text name)
        merged := m
        if !fresh then continue
        if fields.contains name then
          if done.contains name then
            report k.line ("field " ++ name ++ " already set in type " ++ typeName)
          else
            done := name :: done
            acc ← expand v (field acc name)
        else if strict then
          report k.line ("field " ++ name ++ " not found in type " ++ typeName)
      match mergeSource entries with
      | none => return (acc, merged)
      | some m =>
        let mut keys ← match merged with
          | some ks => pure ks
          | none => keysOf fuel entries
        let (parts, listed) := match m with
          | .sequence _ items _ => (items, true)
          | _ => ([m], false)
        for part in parts do
          if listed then mergePart part else
            match part with
            | .mapping .. | .reference .. => mergePart part
            | _ => wantMap
          let (a, ks) ← expand part fun p => recordInto typeName fields strict field fuel p acc (some keys)
          acc := a
          keys := ks.getD keys
        return (acc, merged.map fun _ => keys)
    | .scalar tag _ _ =>
      if tag != "!!null" then mismatch n typeName
      return (acc, merged)
    | _ =>
      mismatch n typeName
      return (acc, merged)

/-- Decodes a mapping into a record type; see `recordInto`. The node has been counted as a
step by its parent. -/
def record {σ : Type} (fuel : Nat) (n : Node) (typeName : String) (fields : List String)
    (strict : Bool) (init : σ) (field : σ → String → Node → DecodeM σ) : DecodeM σ := do
  let (r, _) ← recordInto typeName fields strict field fuel n init none
  return r

/-- The items of a sequence decoded into a list type; null gives no items, and anything else is a
mismatch. -/
def items (n : Node) (typeName : String) : DecodeM (List Node) := do
  match n with
  | .sequence _ xs _ => return xs
  | .scalar tag _ _ =>
    if tag != "!!null" then mismatch n typeName
    return []
  | _ =>
    mismatch n typeName
    return []

/-- Decodes the root node of a document by `k`: the document and its root are the first steps. -/
def document {α : Type} (root : Node) (k : Node → DecodeM α) : DecodeM α := do
  visit
  expand root k

/-- Runs decoding: the result, or all mismatches noted, in order. -/
def run {α : Type} (m : DecodeM α) : Except Error α :=
  match m.run {} with
  | .ok (a, s) => if s.problems.isEmpty then .ok a else .error (.mismatched s.problems.toList)
  | .error e => .error e

end Decode

end PredicateSql.Yaml
