/-! Reading a YAML text 512 bytes at a time. A block is checked as it is read, so a character a
document may not hold fails the reading only when its block is needed; a byte-order mark at the
start is dropped, and each request past the end adds one end mark. -/
namespace PredicateSql.Yaml

/-- Characters a document may hold: tab, line breaks, printable ASCII, next line, and the
printable planes above, surrogates and the two non-characters at the end of the basic plane
excluded. -/
def isReadable (c : Char) : Bool :=
  let n := c.toNat
  n = 0x09 || n = 0x0A || n = 0x0D || (0x20 ≤ n && n ≤ 0x7E) || n = 0x85 ||
    (0xA0 ≤ n && n ≤ 0xD7FF) || (0xE000 ≤ n && n ≤ 0xFFFD) || (0x10000 ≤ n && n ≤ 0x10FFFF)

def blockBytes : Nat := 512

def utf8Width (c : Char) : Nat := c.toString.utf8ByteSize

/-- Splits characters, given by their widths, into blocks: a block ends before the character
that would take it past its room, and every block after the first has `blockBytes` of room.
Returns the end of each block as a count of characters. -/
def blockEnds : List Nat → Nat → Nat → Nat → List Nat
  | [], index, used, _ => if used > 0 then [index] else []
  | w :: ws, index, used, room =>
    if used + w ≤ room then blockEnds ws (index + 1) (used + w) room
    else index :: blockEnds ws (index + 1) w blockBytes

/-- The reader of a text: where its blocks end, the first character it refuses, and how far it
has read. -/
structure Reader where
  /-- The end of each block, as a count of characters, in reading order. -/
  ends : Array Nat
  /-- The first character that may not stand in a document, if any. -/
  refused : Option Nat
  /-- Characters read so far. -/
  read : Nat := 0
  /-- Blocks read so far. -/
  blocks : Nat := 0
  /-- Whether the end of the text was met. -/
  ended : Bool := false
  /-- End marks added after the text. -/
  marks : Nat := 0
  /-- The position of the latest request that had to read on. -/
  start : Nat := 0
  deriving Inhabited

namespace Reader

/-- The reader of the characters of a text, after a byte-order mark when `marked`. -/
def ofChars (marked : Bool) (cs : List Char) : Reader :=
  let widths := cs.map utf8Width
  { ends := (blockEnds widths 0 0 (if marked then blockBytes - 3 else blockBytes)).toArray,
    refused := cs.findIdx? (!isReadable ·),
    ended := !marked && widths.foldl Nat.add 0 < 3 }

/-- Characters read and not yet passed at a position, end marks included. -/
def unread (r : Reader) (pos : Nat) : Nat := r.read + r.marks - pos

/-- Reads on until `want` characters from `pos` are read or the text ends. Reading a block that
holds a refused character fails, having read the characters before it; the flag tells whether
the reading succeeded. -/
def fill : Nat → Reader → Nat → Nat → Reader × Bool
  | 0, r, _, _ => (r, true)
  | fuel + 1, r, pos, want =>
    match r.ends[r.blocks]? with
    | none => ({ r with ended := true, marks := r.marks + 1 }, true)
    | some e =>
      if r.refused.any (· < e) then ({ r with read := r.refused.getD e }, false)
      else
        let r := { r with read := e, blocks := r.blocks + 1 }
        if r.ended then ({ r with marks := r.marks + 1 }, true)
        else if want ≤ r.unread pos then (r, true)
        else fill fuel r pos want

/-- Asks for `want` characters from `pos`: nothing happens when they are read already; else the
buffer starts at `pos` and the reader reads on. -/
def request (r : Reader) (pos want : Nat) : Reader × Bool :=
  if want ≤ r.unread pos then (r, true)
  else fill (r.ends.size - r.blocks + 1) { r with start := pos } pos want

def markAtStart (r : Reader) (input : Array Char) : Bool :=
  r.start < r.read && input[r.start]? == some '\uFEFF'

example : blockEnds [1, 1, 1] 0 0 2 = [2, 3] := by decide

example : (ofChars false "ab".toList).ended = true := by decide

end Reader

end PredicateSql.Yaml
