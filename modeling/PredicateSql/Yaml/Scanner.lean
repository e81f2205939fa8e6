import PredicateSql.Yaml.Token
import PredicateSql.Yaml.Reader
import PredicateSql.Text.Bytes

/-! Splitting YAML text into tokens. The scanner keeps a queue and fills it only while the first
token might still be a simple key; indentation opens and closes blocks, nesting is bounded, and
every loop is bounded by the characters still unread. -/
namespace PredicateSql.Yaml

/-- Line breaks: carriage return, line feed, next line, and the line and paragraph separators. -/
def isBreak (c : Char) : Bool :=
  c = '\r' || c = '\n' || c = '\x85' || c = '\u2028' || c = '\u2029'

def isBlank (c : Char) : Bool := c = ' ' || c = '\t'

def isEnd (c : Char) : Bool := c = '\x00'

def isBlankOrEnd (c : Char) : Bool := isBlank c || isBreak c || isEnd c

def isBreakOrEnd (c : Char) : Bool := isBreak c || isEnd c

/-- Characters of anchor names and tag handles: ASCII letters and digits, `_` and `-`. -/
def isWordChar (c : Char) : Bool :=
  ('0' ≤ c && c ≤ '9') || ('a' ≤ c && c ≤ 'z') || ('A' ≤ c && c ≤ 'Z') || c = '_' || c = '-'

/-- The value of a hex digit. -/
def hexDigitValue (c : Char) : Option Nat :=
  if '0' ≤ c && c ≤ '9' then some (c.toNat - 48)
  else if 'a' ≤ c && c ≤ 'f' then some (c.toNat - 87)
  else if 'A' ≤ c && c ≤ 'F' then some (c.toNat - 55)
  else none

/-- A place where a key may start, remembered until a `:` decides. -/
structure SimpleKey where
  possible : Bool := false
  /-- A key at the indentation of its block must be completed by a `:`. -/
  required : Bool := false
  /-- The number of the token the key starts at, counting all tokens ever queued. -/
  tokenNumber : Nat := 0
  mark : Mark := {}
  deriving Inhabited

/-- The scanner: the input and position, the token queue, the indentation stack, the flow
nesting and the simple keys, one per flow level. -/
structure Scanner where
  input : Array Char
  reader : Reader
  pos : Nat := 0
  mark : Mark := {}
  /-- Line breaks passed since the last character other than a blank. -/
  newlines : Nat := 0
  /-- Whether a look ahead met a refused character; the next token asked for fails. -/
  poisoned : Bool := false
  started : Bool := false
  queue : List Token := []
  /-- Tokens taken off the queue so far. -/
  taken : Nat := 0
  /-- Whether the queue is known to hold enough tokens. -/
  available : Bool := false
  indent : Int := -1
  indents : List Int := []
  flowLevel : Nat := 0
  keyAllowed : Bool := false
  keys : Array SimpleKey := #[]
  /-- Token numbers of remembered keys, with the flow level they belong to. -/
  keyOf : List (Nat × Nat) := []
  deriving Inhabited

/-- Scanning steps: they change the scanner or fail. -/
abbrev ScanM := StateT Scanner (Except Fault)

namespace Scanner

/-- The character `k` places ahead; past the end it is NUL. -/
def char (s : Scanner) (k : Nat) : Char := s.input.getD (s.pos + k) '\x00'

/-- Whether a document marker `---` or `...` followed by a blank stands at the position. -/
def atDocumentMarker (s : Scanner) : Bool :=
  ((s.char 0 = '-' && s.char 1 = '-' && s.char 2 = '-') ||
    (s.char 0 = '.' && s.char 1 = '.' && s.char 2 = '.')) && isBlankOrEnd (s.char 3)

/-- A scanner over a text; an empty text reads as one line break, and a leading byte-order mark
is dropped. -/
def start (text : String) : Scanner :=
  let cs := if text.isEmpty then ['\n'] else text.toList
  let (marked, cs) := match cs with
    | '\uFEFF' :: r => (true, r)
    | r => (false, r)
  { input := cs.toArray, reader := Reader.ofChars marked cs }

/-- The failure of a reader that met a character a document may not hold. -/
def refusal : Fault := { problem := "control characters are not allowed", scanning := false }

end Scanner

namespace Scan

/-- An upper bound on the characters still unread. -/
def budget : ScanM Nat := do
  let s ← get
  return s.input.size - s.pos + 2

def look (k : Nat) : ScanM Char := return (← get).char k

def mark : ScanM Mark := return (← get).mark

/-- Makes sure that `n` characters from the position are read; a block holding a refused
character fails the scanning. -/
def need (n : Nat) : ScanM Unit := do
  let s ← get
  let (r, ok) := s.reader.request s.pos n
  set { s with reader := r }
  if !ok then throw Scanner.refusal

/-- Like `need` for a look ahead that may stop short: a refused character only marks the
scanner, and the answer tells whether the characters are read. -/
def needAhead (n : Nat) : ScanM Bool := do
  let s ← get
  let (r, ok) := s.reader.request s.pos n
  set { s with reader := r, poisoned := s.poisoned || !ok }
  return ok

def fault {α : Type} (context : String) (contextMark : Mark) (problem : String) : ScanM α := do
  throw { context, contextMark, problem, problemMark := (← get).mark, scanning := true }

/-- Moves past one character as part of a line. -/
def skip : ScanM Unit := modify fun s =>
  { s with pos := s.pos + 1,
           mark := { s.mark with index := s.mark.index + 1, column := s.mark.column + 1 },
           newlines := if isBlank (s.char 0) then s.newlines else 0 }

/-- Moves past a line break; a carriage return and line feed count as one. -/
def skipLine : ScanM Unit := modify fun s =>
  if s.char 0 = '\r' && s.char 1 = '\n' then
    { s with pos := s.pos + 2, mark := { index := s.mark.index + 2, line := s.mark.line + 1 },
             newlines := s.newlines + 1 }
  else if isBreak (s.char 0) then
    { s with pos := s.pos + 1, mark := { index := s.mark.index + 1, line := s.mark.line + 1 },
             newlines := s.newlines + 1 }
  else s

/-- Moves past a line break and returns it as read into a scalar: the line and paragraph
separators stay, every other break is a line feed. -/
def readLine : ScanM String := do
  let c ← look 0
  if c = '\u2028' || c = '\u2029' then
    skipLine
    return c.toString
  else if isBreak c then
    skipLine
    return "\n"
  else return ""

def enqueue (t : Token) : ScanM Unit := modify fun s => { s with queue := s.queue ++ [t] }

/-- Puts a token at a place in the queue. -/
def insertToken (k : Nat) (t : Token) : ScanM Unit := modify fun s =>
  { s with queue := s.queue.take k ++ t :: s.queue.drop k }

/-- The simple key of the current flow level and its place. -/
def topKey : ScanM (Nat × SimpleKey) := do
  let s ← get
  return (s.keys.size - 1, s.keys.getD (s.keys.size - 1) {})

def setKey (i : Nat) (k : SimpleKey) : ScanM Unit := modify fun s =>
  { s with keys := s.keys.modify i fun _ => k }

def forget (n : Nat) : ScanM Unit := modify fun s =>
  { s with keyOf := s.keyOf.filter (·.1 != n) }

/-- Drops the simple key of the current level; a required one cannot be dropped. -/
def removeSimpleKey : ScanM Unit := do
  let (i, k) ← topKey
  if k.possible then
    if k.required then fault "while scanning a simple key" k.mark "could not find expected ':'"
    setKey i { k with possible := false }
    forget k.tokenNumber

/-- Remembers that a simple key may start at the current position. -/
def saveSimpleKey : ScanM Unit := do
  let s ← get
  if s.keyAllowed then
    let k : SimpleKey :=
      { possible := true, required := s.flowLevel == 0 && s.indent == (s.mark.column : Int),
        tokenNumber := s.taken + s.queue.length, mark := s.mark }
    removeSimpleKey
    let (i, _) ← topKey
    setKey i k
    modify fun s => { s with keyOf := (k.tokenNumber, i) :: s.keyOf.filter (·.1 != k.tokenNumber) }

/-- Whether a remembered key can still be completed: it must be on the current line and less
than 1024 characters back. A required key that can no longer be completed is an error. -/
def keyStillPossible (i : Nat) : ScanM Bool := do
  let s ← get
  let k := s.keys.getD i {}
  if !k.possible then return false
  if k.mark.line < s.mark.line || k.mark.index + 1024 < s.mark.index then
    if k.required then fault "while scanning a simple key" k.mark "could not find expected ':'"
    setKey i { k with possible := false }
    return false
  return true

def maxDepth : Nat := 10000

/-- Enters a flow collection; nesting deeper than `maxDepth` is refused. -/
def increaseFlowLevel : ScanM Unit := do
  modify fun s => { s with keys := s.keys.push { mark := s.mark }, flowLevel := s.flowLevel + 1 }
  let s ← get
  if s.flowLevel > maxDepth then
    fault "while increasing flow level" s.mark ("exceeded max depth of " ++ toString maxDepth)

/-- Leaves a flow collection. -/
def decreaseFlowLevel : ScanM Unit := modify fun s =>
  if s.flowLevel > 0 then
    let n := (s.keys.getD (s.keys.size - 1) {}).tokenNumber
    { s with flowLevel := s.flowLevel - 1, keys := s.keys.pop,
             keyOf := s.keyOf.filter (·.1 != n) }
  else s

/-- Closes every block indented deeper than a column. -/
def unrollIndent (column : Int) (scanMark : Mark) : ScanM Unit := do
  let s ← get
  if s.flowLevel == 0 then
    let blockMark := { scanMark with index := scanMark.index - 1 }
    for _ in [0:s.indents.length + 1] do
      let s ← get
      if s.indent > column then
        match s.indents with
        | i :: rest =>
          set { s with indent := i, indents := rest,
                       queue := s.queue ++ [({ kind := .blockEnd, start := blockMark, stop := blockMark } : Token)] }
        | [] => break
      else break

/-- Opens a block at a column deeper than the current indentation; its start token goes at the
end of the queue, or before the token with the given number. Nesting deeper than `maxDepth` is
refused, at the place of the latest simple key. -/
def rollIndent (column : Nat) (number : Option Nat) (kind : TokenKind) (m : Mark) :
    ScanM Unit := do
  let s ← get
  if s.flowLevel == 0 && s.indent < column then
    set { s with indents := s.indent :: s.indents, indent := column }
    if s.indents.length + 1 > maxDepth then
      fault "while increasing indent level" (s.keys.getD (s.keys.size - 1) {}).mark
        ("exceeded max depth of " ++ toString maxDepth)
    let t : Token := ⟨kind, m, m⟩
    match number with
    | none => enqueue t
    | some n => insertToken (n - s.taken) t

def commentReach : Nat := 512

/-- Moves to the `#` at position `seen`, past the blanks and line breaks before it, and on past
the comment to the end of its line. -/
def skipComment (seen : Nat) : ScanM Unit := do
  let n ← budget
  for _ in [0:n] do
    need 1
    let s ← get
    if isBreakOrEnd (s.char 0) then
      if s.pos ≥ seen then break
      need 2
      skipLine
    else skip

/-- The place of the `#` that the next line holding only a comment starts with, if it is within
reach: blanks and line breaks may stand before it. -/
def nextCommentLine : ScanM (Option Nat) := do
  for k in [0:commentReach] do
    if !(← needAhead (k + 1)) then break
    let s ← get
    let c := s.char k
    if isBlank c || isBreak c then continue
    if c = '#' then return some (s.pos + k)
    break
  return none

/-- A comment from its `#`, and with it each following line that holds only a comment, blanks
before it (tabs too) and empty lines between included. -/
def scanComments : ScanM Unit := do
  let n ← budget
  for _ in [0:n] do
    match ← nextCommentLine with
    | some seen => skipComment seen
    | none => break

/-- After a token, a comment behind blanks on the rest of its line goes with the token. Nothing
is read when a line break came since the token's last character. -/
def lineComment : ScanM Unit := do
  if (← get).newlines > 0 then return
  for k in [0:commentReach] do
    if !(← needAhead (k + 1)) then break
    let s ← get
    let c := s.char k
    if isBlank c then continue
    if c = '#' then skipComment (s.pos + k)
    break

/-- Skips blanks, comments and line breaks up to the next token. A line break in block context
allows a simple key again; tabs are skipped only where they cannot be indentation. At the start
of a line, one character is skipped when the buffer starts with a byte-order mark. -/
def toNextToken : ScanM Unit := do
  let n ← budget
  for _ in [0:n] do
    need 1
    let s ← get
    if s.mark.column == 0 && s.reader.markAtStart s.input then skip
    need 1
    for _ in [0:n] do
      let s ← get
      if s.char 0 = ' ' || ((s.flowLevel > 0 || !s.keyAllowed) && s.char 0 = '\t') then
        skip
        need 1
      else break
    if (← look 0) = '#' then scanComments
    if isBreak (← look 0) then
      need 2
      skipLine
      if (← get).flowLevel == 0 then modify fun s => { s with keyAllowed := true }
    else break

/-- The first token. -/
def fetchStreamStart : ScanM Unit := modify fun s =>
  { s with indent := -1, keys := #[{}], keyAllowed := true, started := true,
           queue := s.queue ++ [⟨.streamStart, s.mark, s.mark⟩] }

/-- The last token, on a line of its own: closes all blocks. -/
def fetchStreamEnd : ScanM Unit := do
  let s ← get
  if s.mark.column != 0 then
    set { s with mark := { s.mark with column := 0, line := s.mark.line + 1 } }
  let m ← mark
  unrollIndent (-1) m
  removeSimpleKey
  modify fun s => { s with keyAllowed := false }
  enqueue ⟨.streamEnd, m, m⟩

/-- A document start or end marker: closes all blocks. -/
def fetchDocumentIndicator (kind : TokenKind) : ScanM Unit := do
  let m ← mark
  unrollIndent (-1) m
  removeSimpleKey
  modify fun s => { s with keyAllowed := false }
  skip; skip; skip
  enqueue ⟨kind, m, (← mark)⟩

/-- A one-character token. -/
def single (kind : TokenKind) : ScanM Unit := do
  let m ← mark
  skip
  enqueue ⟨kind, m, (← mark)⟩

/-- `[` or `{`: may start a simple key, and opens a flow level. -/
def fetchFlowStart (kind : TokenKind) : ScanM Unit := do
  saveSimpleKey
  increaseFlowLevel
  modify fun s => { s with keyAllowed := true }
  single kind

/-- `]` or `}`: closes a flow level. -/
def fetchFlowEnd (kind : TokenKind) : ScanM Unit := do
  removeSimpleKey
  decreaseFlowLevel
  modify fun s => { s with keyAllowed := false }
  single kind

/-- `,` in a flow collection. -/
def fetchFlowEntry : ScanM Unit := do
  removeSimpleKey
  modify fun s => { s with keyAllowed := true }
  single .flowEntry

/-- `-` before a sequence entry; in block context it may open a block sequence. -/
def fetchBlockEntry : ScanM Unit := do
  let s ← get
  if s.flowLevel == 0 then
    if !s.keyAllowed then
      fault "" s.mark "block sequence entries are not allowed in this context"
    rollIndent s.mark.column none .blockSequenceStart s.mark
  removeSimpleKey
  modify fun s => { s with keyAllowed := true }
  single .blockEntry

/-- `?` before an explicit key; in block context it may open a block mapping. -/
def fetchKey : ScanM Unit := do
  let s ← get
  if s.flowLevel == 0 then
    if !s.keyAllowed then fault "" s.mark "mapping keys are not allowed in this context"
    rollIndent s.mark.column none .blockMappingStart s.mark
  removeSimpleKey
  modify fun s => { s with keyAllowed := s.flowLevel == 0 }
  single .key

/-- `:` before a value. After a simple key, the key token (and, in block context, a mapping
start) goes in front of the key. -/
def fetchValue : ScanM Unit := do
  let (i, k) ← topKey
  if ← keyStillPossible i then
    insertToken (k.tokenNumber - (← get).taken) ⟨.key, k.mark, k.mark⟩
    rollIndent k.mark.column (some k.tokenNumber) .blockMappingStart k.mark
    setKey i { k with possible := false }
    forget k.tokenNumber
    modify fun s => { s with keyAllowed := false }
  else
    let s ← get
    if s.flowLevel == 0 then
      if !s.keyAllowed then fault "" s.mark "mapping values are not allowed in this context"
      rollIndent s.mark.column none .blockMappingStart s.mark
    modify fun s => { s with keyAllowed := s.flowLevel == 0 }
  single .value

/-- An anchor `&name` or an alias `*name`. -/
def scanAnchor (isAlias : Bool) : ScanM Unit := do
  let start ← mark
  skip
  let n ← budget
  let mut name := ""
  need 1
  for _ in [0:n] do
    let c ← look 0
    if isWordChar c then
      name := name.push c
      skip
      need 1
    else break
  let stop ← mark
  let c ← look 0
  let ends := isBlankOrEnd c || c = '?' || c = ':' || c = ',' || c = ']' || c = '}' ||
    c = '%' || c = '@' || c = '\x60'
  if name.isEmpty || !ends then
    fault (if isAlias then "while scanning an alias" else "while scanning an anchor") start
      "did not find expected alphabetic or numeric character"
  enqueue ⟨if isAlias then .reference name else .anchor name, start, stop⟩

/-- Characters of a tag: those of URIs, with `,`, `[` and `]`. -/
def isUriChar (c : Char) : Bool :=
  isWordChar c || ";/?:@&=+$,.%!~*'()[]".contains c

/-- The number of bytes of a UTF-8 sequence, read off its first byte; zero when the byte cannot
start one. -/
def sequenceWidth (b : Nat) : Nat :=
  if b < 0x80 then 1
  else if b / 0x20 == 0x6 then 2
  else if b / 0x10 == 0xE then 3
  else if b / 0x8 == 0x1E then 4
  else 0

/-- The byte a `%` escape at the position stands for, if one stands there. -/
def escapedByte (s : Scanner) : Option Nat :=
  if s.char 0 = '%' then
    match hexDigitValue (s.char 1), hexDigitValue (s.char 2) with
    | some a, some b => some (16 * a + b)
    | _, _ => none
  else none

/-- A character of a tag written as `%` escapes of its UTF-8 bytes: the first byte tells how
many follow, and each of those must continue the sequence. The bytes are kept as read. -/
def uriEscapes (context : String) (start : Mark) : ScanM String := do
  let mut bytes : Array UInt8 := #[]
  let mut width := 0
  for _ in [0:4] do
    need 3
    match escapedByte (← get) with
    | none => fault context start "did not find URI escaped octet"
    | some b =>
      if bytes.isEmpty then
        width := sequenceWidth b
        if width == 0 then fault context start "found an incorrect leading UTF-8 octet"
      else if b / 0x40 != 0x2 then fault context start "found an incorrect trailing UTF-8 octet"
      bytes := bytes.push b.toUInt8
      skip; skip; skip
      if bytes.size ≥ width then break
  return Text.ofBytes bytes.toList

/-- The URI part of a tag, after what was read as a handle. Faults name the construct being
read. -/
def scanUri (head : String) (context : String) (start : Mark) : ScanM String := do
  let n ← budget
  let mut text := if head.length > 1 then head.drop 1 |>.toString else ""
  let mut found := decide (head.length > 0)
  need 1
  for _ in [0:n] do
    let c ← look 0
    if !isUriChar c then break
    if c = '%' then text := text ++ (← uriEscapes context start)
    else
      text := text.push c
      skip
    need 1
    found := true
  if !found then fault context start "did not find expected tag URI"
  return text

/-- A tag handle: `!`, letters and an optional closing `!`; in a `%TAG` directive the closing
`!` is required unless the handle is the lone `!`. -/
def scanTagHandle (directive : Bool) (context : String) (start : Mark) : ScanM String := do
  need 1
  if (← look 0) != '!' then fault context start "did not find expected '!'"
  skip
  let n ← budget
  let mut h := "!"
  need 1
  for _ in [0:n] do
    let c ← look 0
    if isWordChar c then
      h := h.push c
      skip
      need 1
    else break
  if (← look 0) = '!' then
    h := h.push '!'
    skip
  else if directive && h != "!" then fault context start "did not find expected '!'"
  return h

/-- A tag: `!<uri>`, `!handle!suffix`, `!suffix` or the lone `!`. -/
def scanTag : ScanM Unit := do
  let start ← mark
  let mut handle := ""
  let mut suffix := ""
  need 2
  if (← look 1) = '<' then
    skip; skip
    suffix ← scanUri "" "while parsing a tag" start
    if (← look 0) != '>' then fault "while scanning a tag" start "did not find the expected '>'"
    skip
  else
    let h ← scanTagHandle false "while parsing a tag" start
    if h.length > 1 && h.back = '!' then
      handle := h
      suffix ← scanUri "" "while parsing a tag" start
    else
      suffix ← scanUri h "while parsing a tag" start
      handle := "!"
      if suffix.isEmpty then
        handle := ""
        suffix := "!"
  need 1
  let c ← look 0
  if !isBlankOrEnd c && ((← get).flowLevel == 0 || c != ',') then
    fault "while scanning a tag" start "did not find expected whitespace or line break"
  enqueue ⟨.tag handle suffix, start, (← mark)⟩

/-- Moves past blanks. -/
def skipBlanks : ScanM Unit := do
  let n ← budget
  need 1
  for _ in [0:n] do
    if isBlank (← look 0) then
      skip
      need 1
    else break

/-- A number of a `%YAML` version: one or two digits. -/
def versionNumber (start : Mark) : ScanM Nat := do
  let mut value := 0
  let mut length := 0
  need 1
  for _ in [0:3] do
    let c ← look 0
    if !c.isDigit then break
    length := length + 1
    if length > 2 then fault "while scanning a %YAML directive" start "found extremely long version number"
    value := 10 * value + (c.toNat - 48)
    skip
    need 1
  if length == 0 then fault "while scanning a %YAML directive" start "did not find expected version number"
  return value

/-- A directive: `%YAML major.minor` or `%TAG handle prefix`, then blanks, an optional comment
and the end of the line. Other directive names are refused. -/
def scanDirective : ScanM Unit := do
  let start ← mark
  skip
  let n ← budget
  let mut name := ""
  need 1
  for _ in [0:n] do
    let c ← look 0
    if isWordChar c then
      name := name.push c
      skip
      need 1
    else break
  if name.isEmpty then fault "while scanning a directive" start "could not find expected directive name"
  if !isBlankOrEnd (← look 0) then
    fault "while scanning a directive" start "found unexpected non-alphabetical character"
  let kind ← if name == "YAML" then do
      skipBlanks
      let major ← versionNumber start
      if (← look 0) != '.' then
        fault "while scanning a %YAML directive" start "did not find expected digit or '.' character"
      skip
      let minor ← versionNumber start
      pure (TokenKind.versionDirective major minor)
    else if name == "TAG" then do
      skipBlanks
      let handle ← scanTagHandle true "while parsing a %TAG directive" start
      need 1
      if !isBlank (← look 0) then
        fault "while scanning a %TAG directive" start "did not find expected whitespace"
      skipBlanks
      let pre ← scanUri "" "while parsing a %TAG directive" start
      need 1
      if !isBlankOrEnd (← look 0) then
        fault "while scanning a %TAG directive" start "did not find expected whitespace or line break"
      pure (TokenKind.tagDirective handle pre)
    else fault "while scanning a directive" start "found unknown directive name"
  let stop ← mark
  skipBlanks
  if (← look 0) = '#' then
    for _ in [0:n] do
      if isBreakOrEnd (← look 0) then break
      skip
      need 1
  if !isBreakOrEnd (← look 0) then
    fault "while scanning a directive" start "did not find expected comment or line break"
  if isBreak (← look 0) then
    need 2
    skipLine
  enqueue ⟨kind, start, stop⟩

/-- A directive at the start of a line: closes all blocks. -/
def fetchDirective : ScanM Unit := do
  let m ← mark
  unrollIndent (-1) m
  removeSimpleKey
  modify fun s => { s with keyAllowed := false }
  scanDirective

/-- Indentation and empty lines inside a block scalar. Without an indentation yet, it becomes
the deepest column seen, at least one past the enclosing block. Returns the indentation, the
line breaks read and the position after the last of them. -/
def blockBreaks (indent : Nat) (start : Mark) : ScanM (Nat × String × Mark) := do
  let n ← budget
  let mut breaks := ""
  let mut stop ← mark
  let mut deepest := 0
  for _ in [0:n] do
    need 1
    for _ in [0:n] do
      let s ← get
      if (indent == 0 || s.mark.column < indent) && s.char 0 = ' ' then
        skip
        need 1
      else break
    let s ← get
    if s.mark.column > deepest then deepest := s.mark.column
    if (indent == 0 || s.mark.column < indent) && s.char 0 = '\t' then
      fault "while scanning a block scalar" start
        "found a tab character where an indentation space is expected"
    if !isBreak (s.char 0) then break
    need 2
    breaks := breaks ++ (← readLine)
    stop ← mark
  if indent == 0 then
    let s ← get
    return (max deepest (max (s.indent + 1) 1).toNat, breaks, stop)
  return (indent, breaks, stop)

/-- A literal (`|`) or folded (`>`) block scalar with its header: an optional chomping sign and
indentation digit, in either order. -/
def scanBlockScalar (literal : Bool) : ScanM Unit := do
  let start ← mark
  skip
  let n ← budget
  let mut chomping : Int := 0
  let mut increment := 0
  need 1
  let c ← look 0
  if c = '+' || c = '-' then
    chomping := if c = '+' then 1 else -1
    skip
    need 1
    let d ← look 0
    if d.isDigit then
      if d = '0' then
        fault "while scanning a block scalar" start "found an indentation indicator equal to 0"
      increment := d.toNat - 48
      skip
  else if c.isDigit then
    if c = '0' then
      fault "while scanning a block scalar" start "found an indentation indicator equal to 0"
    increment := c.toNat - 48
    skip
    need 1
    let d ← look 0
    if d = '+' || d = '-' then
      chomping := if d = '+' then 1 else -1
      skip
  skipBlanks
  if (← look 0) = '#' then
    lineComment
    for _ in [0:n] do
      if isBreakOrEnd (← look 0) then break
      skip
      need 1
  if !isBreakOrEnd (← look 0) then
    fault "while scanning a block scalar" start "did not find expected comment or line break"
  if isBreak (← look 0) then
    need 2
    skipLine
  let outer := (← get).indent
  let given : Nat :=
    if increment > 0 then (if outer >= 0 then (outer + increment).toNat else increment) else 0
  let (indent, firstBreaks, firstStop) ← blockBreaks given start
  let mut trailing := firstBreaks
  let mut stop := firstStop
  let mut text := ""
  let mut leadingBreak := ""
  let mut leadingBlank := false
  need 1
  for _ in [0:n] do
    let s ← get
    if s.mark.column != indent || isEnd (s.char 0) then break
    let trailingBlank := isBlank (s.char 0)
    if !literal && !leadingBlank && !trailingBlank && leadingBreak.startsWith "\n" then
      if trailing.isEmpty then text := text.push ' '
    else text := text ++ leadingBreak
    leadingBreak := ""
    text := text ++ trailing
    trailing := ""
    leadingBlank := isBlank (s.char 0)
    for _ in [0:n] do
      let c ← look 0
      if isBreakOrEnd c then break
      text := text.push c
      skip
      need 1
    need 2
    leadingBreak ← readLine
    let (_, more, st) ← blockBreaks indent start
    trailing := more
    stop := st
  if chomping != -1 then text := text ++ leadingBreak
  if chomping == 1 then text := text ++ trailing
  enqueue ⟨.scalar text (if literal then .literal else .folded), start, stop⟩

/-- The character a double-quoted escape stands for, when it is one character. -/
def escapeValue : Char → Option Char
  | '0' => some '\x00'
  | 'a' => some '\x07'
  | 'b' => some '\x08'
  | 't' => some '\t'
  | '\t' => some '\t'
  | 'n' => some '\n'
  | 'v' => some '\x0b'
  | 'f' => some '\x0c'
  | 'r' => some '\r'
  | 'e' => some '\x1b'
  | ' ' => some ' '
  | '"' => some '"'
  | '\'' => some '\''
  | '\\' => some '\\'
  | 'N' => some '\x85'
  | '_' => some '\xa0'
  | 'L' => some '\u2028'
  | 'P' => some '\u2029'
  | _ => none

/-- The number of hex digits after `x`, `u` and `U` escapes. -/
def escapeWidth : Char → Nat
  | 'x' => 2
  | 'u' => 4
  | 'U' => 8
  | _ => 0

/-- A single- or double-quoted scalar. Line breaks fold: one break is a space, more breaks are
kept less one; blanks around breaks are dropped. -/
def scanFlowScalar (single : Bool) : ScanM Unit := do
  let start ← mark
  skip
  let n ← budget
  let mut text := ""
  let mut leadingBreak := ""
  let mut trailing := ""
  let mut spaces := ""
  for _ in [0:n] do
    need 4
    let s ← get
    if s.mark.column == 0 && s.atDocumentMarker then
      fault "while scanning a quoted scalar" start "found unexpected document indicator"
    if isEnd (s.char 0) then
      fault "while scanning a quoted scalar" start "found unexpected end of stream"
    let mut leadingBlanks := false
    for _ in [0:n] do
      let s ← get
      let c := s.char 0
      if isBlankOrEnd c then break
      if single && c = '\'' && s.char 1 = '\'' then
        text := text.push '\''
        skip; skip
      else if single && c = '\'' then break
      else if !single && c = '"' then break
      else if !single && c = '\\' && isBreak (s.char 1) then
        need 3
        skip
        skipLine
        leadingBlanks := true
        break
      else if !single && c = '\\' then
        let e := s.char 1
        let width := escapeWidth e
        match escapeValue e with
        | some ch => text := text.push ch
        | none =>
          if width == 0 then
            fault "while parsing a quoted scalar" start "found unknown escape character"
        skip; skip
        if width > 0 then
          need width
          let mut code := 0
          for k in [0:width] do
            match hexDigitValue (← look k) with
            | some h => code := 16 * code + h
            | none =>
              fault "while parsing a quoted scalar" start "did not find expected hexdecimal number"
          if (0xD800 ≤ code && code ≤ 0xDFFF) || code > 0x10FFFF then
            fault "while parsing a quoted scalar" start "found invalid Unicode character escape code"
          text := text.push (Char.ofNat code)
          for _ in [0:width] do skip
      else
        text := text.push c
        skip
      need 2
    need 1
    let c ← look 0
    if (single && c = '\'') || (!single && c = '"') then break
    for _ in [0:n] do
      let c ← look 0
      if isBlank c then
        if !leadingBlanks then spaces := spaces.push c
        skip
      else if isBreak c then
        need 2
        if !leadingBlanks then
          spaces := ""
          leadingBreak ← readLine
          leadingBlanks := true
        else trailing := trailing ++ (← readLine)
      else break
      need 1
    if leadingBlanks then
      if leadingBreak.startsWith "\n" then
        if trailing.isEmpty then text := text.push ' ' else text := text ++ trailing
      else text := text ++ leadingBreak ++ trailing
      trailing := ""
      leadingBreak := ""
    else
      text := text ++ spaces
      spaces := ""
  skip
  enqueue ⟨.scalar text (if single then .singleQuoted else .doubleQuoted), start, (← mark)⟩

/-- A plain scalar. It ends before `: ` or a blank, at a comment, at a document marker, at a
line indented no deeper than the enclosing block, and in flow context at `,`, `?` and
brackets. Line breaks fold as in quoted scalars. -/
def scanPlainScalar : ScanM Unit := do
  let s ← get
  let indent := s.indent + 1
  let start := s.mark
  let mut stop := s.mark
  let n ← budget
  let mut text := ""
  let mut leadingBreak := ""
  let mut trailing := ""
  let mut spaces := ""
  let mut leadingBlanks := false
  for _ in [0:n] do
    need 4
    let s ← get
    if s.mark.column == 0 && s.atDocumentMarker then break
    if s.char 0 = '#' then break
    for _ in [0:n] do
      let s ← get
      let c := s.char 0
      if isBlankOrEnd c then break
      if (c = ':' && isBlankOrEnd (s.char 1)) ||
          (s.flowLevel > 0 && (c = ',' || c = '?' || c = '[' || c = ']' || c = '{' || c = '}')) then
        break
      if leadingBlanks || !spaces.isEmpty then
        if leadingBlanks then
          if leadingBreak.startsWith "\n" then
            if trailing.isEmpty then text := text.push ' ' else text := text ++ trailing
          else text := text ++ leadingBreak ++ trailing
          trailing := ""
          leadingBreak := ""
          leadingBlanks := false
        else
          text := text ++ spaces
          spaces := ""
      text := text.push c
      skip
      stop ← mark
      need 2
    let c ← look 0
    if !(isBlank c || isBreak c) then break
    need 1
    for _ in [0:n] do
      let s ← get
      let c := s.char 0
      if isBlank c then
        if leadingBlanks && (s.mark.column : Int) < indent && c = '\t' then
          fault "while scanning a plain scalar" start "found a tab character that violates indentation"
        if !leadingBlanks then spaces := spaces.push c
        skip
      else if isBreak c then
        need 2
        if !leadingBlanks then
          spaces := ""
          leadingBreak ← readLine
          leadingBlanks := true
        else trailing := trailing ++ (← readLine)
      else break
      need 1
    let s ← get
    if s.flowLevel == 0 && (s.mark.column : Int) < indent then break
  enqueue ⟨.scalar text .plain, start, stop⟩
  if leadingBlanks then modify fun s => { s with keyAllowed := true }

/-- Whether a plain scalar may start here: not at a blank or an indicator, except `-` before a
non-blank, and in block context `?` and `:` before a non-blank. -/
def startsPlain (s : Scanner) : Bool :=
  let c := s.char 0
  let indicator := "-?:,[]\x7b\x7d#&*!|>'\"%@".contains c || c = '\x60'
  !(isBlankOrEnd c || indicator) || (c = '-' && !isBlank (s.char 1)) ||
    (s.flowLevel == 0 && (c = '?' || c = ':') && !isBlankOrEnd (s.char 1))

/-- Produces a token of a document's content: an indicator, an anchor or alias, a tag or a
scalar. -/
def fetchContent : ScanM Unit := do
  let s ← get
  let c := s.char 0
  if c = '[' then fetchFlowStart .flowSequenceStart
  else if c = '{' then fetchFlowStart .flowMappingStart
  else if c = ']' then fetchFlowEnd .flowSequenceEnd
  else if c = '}' then fetchFlowEnd .flowMappingEnd
  else if c = ',' then fetchFlowEntry
  else if c = '-' && isBlankOrEnd (s.char 1) then fetchBlockEntry
  else if c = '?' && (s.flowLevel > 0 || isBlankOrEnd (s.char 1)) then fetchKey
  else if c = ':' && (s.flowLevel > 0 || isBlankOrEnd (s.char 1)) then fetchValue
  else if c = '*' || c = '&' then
    saveSimpleKey
    modify fun s => { s with keyAllowed := false }
    scanAnchor (c = '*')
  else if c = '!' then
    saveSimpleKey
    modify fun s => { s with keyAllowed := false }
    scanTag
  else if (c = '|' || c = '>') && s.flowLevel == 0 then
    removeSimpleKey
    modify fun s => { s with keyAllowed := true }
    scanBlockScalar (c = '|')
  else if c = '\'' || c = '"' then
    saveSimpleKey
    modify fun s => { s with keyAllowed := false }
    scanFlowScalar (c = '\'')
  else if startsPlain s then
    saveSimpleKey
    modify fun s => { s with keyAllowed := false }
    scanPlainScalar
  else fault "while scanning for the next token" s.mark "found character that cannot start any token"

/-- Produces the next token or tokens. The end of the stream, directives and document markers
take no comment with them; other tokens take the comment on the rest of their line, unless the
last token is a sequence entry. -/
def fetchNextToken : ScanM Unit := do
  need 1
  if !(← get).started then
    fetchStreamStart
    return
  let scanMark ← mark
  toNextToken
  unrollIndent ((← mark).column : Int) scanMark
  need 4
  let s ← get
  let c := s.char 0
  let atLineStart := s.mark.column == 0
  if isEnd c then fetchStreamEnd
  else if atLineStart && c = '%' then fetchDirective
  else if atLineStart && s.atDocumentMarker && c = '-' then fetchDocumentIndicator .documentStart
  else if atLineStart && s.atDocumentMarker && c = '.' then fetchDocumentIndicator .documentEnd
  else
    fetchContent
    if ((← get).queue.getLast?.map (·.kind)) != some .blockEntry then lineComment

/-- Fills the queue: at least three tokens, and more while the first may start a simple key. -/
def fetchMoreTokens : ScanM Unit := do
  let n ← budget
  for _ in [0:n + 8] do
    let s ← get
    if s.queue.length > 2 then
      match s.keyOf.lookup s.taken with
      | none => break
      | some i => if !(← keyStillPossible i) then break
    fetchNextToken

/-- The first token of the queue. A look ahead that met a refused character fails here. -/
def peek : ScanM Token := do
  if !(← get).available then
    fetchMoreTokens
    modify fun s => { s with available := true }
  let s ← get
  if s.poisoned then throw Scanner.refusal
  return s.queue.headD ⟨.streamEnd, s.mark, s.mark⟩

def next : ScanM Unit := modify fun s =>
  { s with queue := s.queue.drop 1, taken := s.taken + 1, available := false }

end Scan

end PredicateSql.Yaml
