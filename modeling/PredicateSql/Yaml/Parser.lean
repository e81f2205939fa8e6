import PredicateSql.Yaml.Scanner
import PredicateSql.Yaml.Node

/-! Assembling the first document of a YAML stream from its tokens: block and flow collections,
scalars, aliases and anchors, with a missing node read as the empty plain scalar. Tokens are
asked for only as the grammar needs them, so a fault further on is not met. -/
namespace PredicateSql.Yaml

/-- The parser's state: the scanner and the anchors seen, newest first; an anchor whose node is
still being read names nothing yet. -/
structure Composer where
  scanner : Scanner
  anchors : List (String × Option Node) := []
  /-- The tag handles of the document and the prefixes they stand for. -/
  handles : List (String × String) := []

/-- Parsing steps. -/
abbrev ParseM := StateT Composer (Except Fault)

namespace Parse

/-- Runs a scanning step. -/
def scan {α : Type} (m : ScanM α) : ParseM α := fun c =>
  match m c.scanner with
  | .ok (a, s) => .ok (a, { c with scanner := s })
  | .error f => .error f

def peek : ParseM Token := scan Scan.peek

def next : ParseM Unit := scan Scan.next

/-- Fails while assembling a construct that began at one place, at another. -/
def fault {α : Type} (context : String) (contextMark : Mark) (problem : String)
    (problemMark : Mark) : ParseM α :=
  throw { context, contextMark, problem, problemMark, scanning := false }

def lineOf (m : Mark) : Nat := m.line + 1

def empty (m : Mark) : Node := .scalar "!!null" "" (lineOf m)

def isOneOf (t : Token) (ks : List TokenKind) : Bool := ks.contains t.kind

/-- Marks an anchor as naming a node still being read. -/
def openAnchor (a : Option String) : ParseM Unit :=
  match a with
  | some name => modify fun c => { c with anchors := (name, none) :: c.anchors }
  | none => pure ()

/-- Lets an anchor name its node, unless a node inside it took the name over. -/
def closeAnchor (a : Option String) (n : Node) : ParseM Unit :=
  match a with
  | some name => modify fun c =>
    match c.anchors.lookup name with
    | some none => { c with anchors := (name, some n) :: c.anchors }
    | _ => c
  | none => pure ()

/-- The full tag of a tag token: a verbatim tag as written, else the prefix of its handle and
the suffix; a handle the document does not define is refused. -/
def fullTag (handle suffix : String) (start tagMark : Mark) : ParseM String := do
  if handle == "" then return suffix
  match (← get).handles.lookup handle with
  | some pre =>
    if (pre ++ suffix).isEmpty then fault "while parsing a node" start "found undefined tag handle" tagMark
    return pre ++ suffix
  | none => fault "while parsing a node" start "found undefined tag handle" tagMark

/-- The handles every document has: `!` for local tags and `!!` for standard ones. -/
def defaultHandles : List (String × String) := [("!", "!"), ("!!", standardPrefix)]

/-- Reads the directives before a document: at most one `%YAML`, of version 1.1, and `%TAG`
handles defined once each; then the default handles where the document did not define them. -/
def directives (fuel : Nat) : ParseM Unit := do
  let mut version := false
  for _ in [0:fuel] do
    let t ← peek
    match t.kind with
    | .versionDirective major minor =>
      if version then fault "" {} "found duplicate %YAML directive" t.start
      if major != 1 || minor != 1 then fault "" {} "found incompatible YAML document" t.start
      version := true
      next
    | .tagDirective handle pre =>
      if ((← get).handles.lookup handle).isSome then
        fault "" {} "found duplicate %TAG directive" t.start
      modify fun c => { c with handles := c.handles ++ [(handle, pre)] }
      next
    | _ => break
  modify fun c =>
    let missing := defaultHandles.filter fun (h, _) => (c.handles.lookup h).isNone
    { c with handles := c.handles ++ missing }

/-- A node. `block` allows block collections; `indentless` allows a sequence of `-` entries at
the current indentation. The fuel bounds the nesting and the entries of each collection. -/
def node : Nat → Bool → Bool → ParseM Node
  | 0, _, _ => do fault "" {} "document nesting exceeds the input" (← peek).start
  | fuel + 1, block, indentless => do
    let first ← peek
    if let .reference name := first.kind then
      next
      match (← get).anchors.lookup name with
      | some target => return .reference name target (lineOf first.start)
      | none => throw { problem := "unknown anchor '" ++ name ++ "' referenced", scanning := false }
    let start := first.start
    let mut tok := first
    let mut anchor : Option String := none
    let mut tagged : Option (String × String × Mark) := none
    match tok.kind with
    | .anchor a =>
      anchor := some a
      next
      tok ← peek
      if let .tag h s := tok.kind then
        tagged := some (h, s, tok.start)
        next
        tok ← peek
    | .tag h s =>
      tagged := some (h, s, tok.start)
      next
      tok ← peek
      if let .anchor a := tok.kind then
        anchor := some a
        next
        tok ← peek
    | _ => pure ()
    let explicit ← match tagged with
      | some (h, s, m) => fullTag h s start m
      | none => pure ""
    let given : Option String :=
      if explicit == "" || explicit == "!" then none else some (shortTag explicit)
    let line := lineOf start
    if indentless && tok.kind == .blockEntry then
      openAnchor anchor
      let mut items : Array Node := #[]
      for _ in [0:fuel] do
        let t ← peek
        if t.kind != .blockEntry then break
        next
        if (← peek).kind ∈ [.blockEntry, .key, .value, .blockEnd] then items := items.push (empty t.stop)
        else items := items.push (← node fuel true false)
      let n := Node.sequence (given.getD "!!seq") items.toList line
      closeAnchor anchor n
      return n
    match tok.kind with
    | .scalar text style =>
      next
      let tag := given.getD (if style != .plain then "!!str"
        else if text == "<<" then "!!merge" else plainTag text)
      let n := Node.scalar tag text line
      if let some a := anchor then modify fun c => { c with anchors := (a, some n) :: c.anchors }
      return n
    | .flowSequenceStart =>
      openAnchor anchor
      next
      let mut items : Array Node := #[]
      let mut firstEntry := true
      for _ in [0:fuel] do
        let mut t ← peek
        if t.kind == .flowSequenceEnd then break
        if !firstEntry then
          if t.kind == .flowEntry then
            next
            t ← peek
          else
            fault "while parsing a flow sequence" tok.start "did not find expected ',' or ']'" t.start
        firstEntry := false
        if t.kind == .key then
          next
          let t2 ← peek
          let k ← if t2.kind ∈ [.value, .flowEntry, .flowSequenceEnd] then do
              next
              pure (empty t2.stop)
            else node fuel false false
          let t3 ← peek
          let v ← if t3.kind == .value then do
              next
              if (← peek).kind ∈ [.flowEntry, .flowSequenceEnd] then pure (empty t3.start)
              else node fuel false false
            else pure (empty t3.start)
          items := items.push (.mapping "!!map" [(k, v)] (lineOf t.start))
        else if t.kind != .flowSequenceEnd then items := items.push (← node fuel false false)
      next
      let n := Node.sequence (given.getD "!!seq") items.toList line
      closeAnchor anchor n
      return n
    | .flowMappingStart =>
      openAnchor anchor
      next
      let mut entries : Array (Node × Node) := #[]
      let mut firstEntry := true
      for _ in [0:fuel] do
        let mut t ← peek
        if t.kind == .flowMappingEnd then break
        if !firstEntry then
          if t.kind == .flowEntry then
            next
            t ← peek
          else
            fault "while parsing a flow mapping" tok.start "did not find expected ',' or '\x7d'" t.start
        firstEntry := false
        if t.kind == .key then
          next
          let t2 ← peek
          let k ← if t2.kind ∈ [.value, .flowEntry, .flowMappingEnd] then pure (empty t2.start)
            else node fuel false false
          let t3 ← peek
          let v ← if t3.kind == .value then do
              next
              let t4 ← peek
              if t4.kind ∈ [.flowEntry, .flowMappingEnd] then pure (empty t4.start)
              else node fuel false false
            else pure (empty t3.start)
          entries := entries.push (k, v)
        else if t.kind != .flowMappingEnd then
          let k ← node fuel false false
          entries := entries.push (k, empty (← peek).start)
      next
      let n := Node.mapping (given.getD "!!map") entries.toList line
      closeAnchor anchor n
      return n
    | .blockSequenceStart =>
      if !block then
        fault "while parsing a flow node" start "did not find expected node content" tok.start
      openAnchor anchor
      next
      let mut items : Array Node := #[]
      for _ in [0:fuel] do
        let t ← peek
        if t.kind == .blockEnd then break
        if t.kind != .blockEntry then
          fault "while parsing a block collection" tok.start "did not find expected '-' indicator" t.start
        next
        if (← peek).kind ∈ [.blockEntry, .blockEnd] then items := items.push (empty t.stop)
        else items := items.push (← node fuel true false)
      next
      let n := Node.sequence (given.getD "!!seq") items.toList line
      closeAnchor anchor n
      return n
    | .blockMappingStart =>
      if !block then
        fault "while parsing a flow node" start "did not find expected node content" tok.start
      openAnchor anchor
      next
      let mut entries : Array (Node × Node) := #[]
      for _ in [0:fuel] do
        let t ← peek
        if t.kind == .blockEnd then break
        if t.kind != .key then
          fault "while parsing a block mapping" tok.start "did not find expected key" t.start
        next
        let k ← if (← peek).kind ∈ [.key, .value, .blockEnd] then pure (empty t.stop)
          else node fuel true true
        let t3 ← peek
        let v ← if t3.kind == .value then do
            next
            if (← peek).kind ∈ [.key, .value, .blockEnd] then pure (empty t3.stop)
            else node fuel true true
          else pure (empty t3.start)
        entries := entries.push (k, v)
      next
      let n := Node.mapping (given.getD "!!map") entries.toList line
      closeAnchor anchor n
      return n
    | _ =>
      if anchor.isSome || tagged.isSome then
        let n := Node.scalar (given.getD "!!null") "" line
        if let some a := anchor then modify fun c => { c with anchors := (a, some n) :: c.anchors }
        return n
      fault (if block then "while parsing a block node" else "while parsing a flow node") start
        "did not find expected node content" tok.start

/-- The root node of the first document, or nothing for an empty stream. -/
def document (fuel : Nat) : ParseM (Option Node) := do
  let _ ← peek
  next
  let t ← peek
  if t.kind == .streamEnd then return none
  let directive := match t.kind with
    | .versionDirective .. | .tagDirective .. => true
    | _ => false
  let root ← if directive || t.kind == .documentStart then do
      directives fuel
      let t ← peek
      if t.kind != .documentStart then
        fault "" {} "did not find expected <document start>" t.start
      next
      let t ← peek
      let ends := match t.kind with
        | .versionDirective .. | .tagDirective .. | .documentStart | .documentEnd | .streamEnd => true
        | _ => false
      if ends then pure (empty t.start) else node fuel true false
    else do
      directives fuel
      node fuel true false
  if (← peek).kind == .documentEnd then next
  return some root

end Parse

/-- Reads the first document of a YAML text. -/
def parseDocument (text : String) : Except Fault (Option Node) := do
  let s := Scanner.start text
  let fuel := 4 * (s.input.size + 4)
  let (root, _) ← (Parse.document fuel).run { scanner := s }
  return root

end PredicateSql.Yaml
