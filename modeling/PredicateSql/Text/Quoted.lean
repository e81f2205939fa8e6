import PredicateSql.Text.Printable
import PredicateSql.Text.Bytes

/-! Double-quoted text as messages show names: a quote and a backslash are escaped by a
backslash, printable characters stand for themselves, the seven control characters with a
letter name use it, other ASCII controls and stray bytes are written as two hex digits, and the
rest as four or eight. -/
namespace PredicateSql.Text

/-- The lower-case hex digit of `n % 16`. -/
def hexDigit (n : Nat) : Char :=
  let d := n % 16
  if d < 10 then Char.ofNat (48 + d) else Char.ofNat (87 + d)

/-- The last `width` hex digits of `n`, most significant first. -/
def hexDigits (n : Nat) : Nat → List Char
  | 0 => []
  | w + 1 => hexDigits (n / 16) w ++ [hexDigit n]

/-- The escape for one character that does not print as itself. -/
def escapeChar (c : Char) : List Char :=
  match c with
  | '\x07' => ['\\', 'a']
  | '\x08' => ['\\', 'b']
  | '\x0c' => ['\\', 'f']
  | '\n' => ['\\', 'n']
  | '\r' => ['\\', 'r']
  | '\t' => ['\\', 't']
  | '\x0b' => ['\\', 'v']
  | _ =>
    let n := c.toNat
    if n < 0x20 || n == 0x7F then '\\' :: 'x' :: hexDigits n 2
    else if n < 0x10000 then '\\' :: 'u' :: hexDigits n 4
    else '\\' :: 'U' :: hexDigits n 8

/-- The written form of one character inside double quotes. -/
def quoteChar (c : Char) : List Char :=
  if c = '"' || c = '\\' then ['\\', c]
  else match strayByte? c with
    | some b => '\\' :: 'x' :: hexDigits b.toNat 2
    | none => if isPrintable c then [c] else escapeChar c

def quoted (s : String) : String :=
  String.ofList ('"' :: s.toList.flatMap quoteChar ++ ['"'])

@[simp] theorem quoteChar_quote : quoteChar '"' = ['\\', '"'] := by decide

example : quoted "a\"b" = "\"a\\\"b\"" := by decide
example : quoted "x\ny" = "\"x\\ny\"" := by decide
example : hexDigits 0x1f 2 = ['1', 'f'] := by decide

end PredicateSql.Text
