/-! White space: the characters with the Unicode White_Space property. -/
namespace PredicateSql.Text

/-- A white-space character: tab, line feed, vertical tab, form feed, carriage return, blank,
next line, no-break space, and the Unicode space separators and line and paragraph separators. -/
def isBlank (c : Char) : Bool :=
  match c.toNat with
  | 0x09 | 0x0A | 0x0B | 0x0C | 0x0D | 0x20 | 0x85 | 0xA0 | 0x1680
  | 0x2028 | 0x2029 | 0x202F | 0x205F | 0x3000 => true
  | n => 0x2000 ≤ n && n ≤ 0x200A

/-- A text of white space only; the empty text is one. -/
def isBlankText (s : String) : Bool := s.toList.all isBlank

example : isBlankText "  \t" ∧ isBlankText "" ∧ ¬ isBlankText " a " := by decide

end PredicateSql.Text
