import ScalarExpr.Text.CaseMapping
import ScalarExpr.Text.UnprintableTable
/-!
Text between double quotes with escapes for all that would not be seen.
-/
namespace ScalarExpr.Text

/-- Lowercase hexadecimal without leading zeros. -/
def hex (n : Nat) : String := String.ofList (Nat.toDigits 16 n)

def isUnprintable (c : Char) : Bool := inRanges UnprintableTable.ranges c

def escapeChar (c : Char) : String :=
  match c with
  | '"' => "\\\""
  | '\\' => "\\\\"
  | '\n' => "\\n"
  | '\r' => "\\r"
  | '\t' => "\\t"
  | '\x00' => "\\0"
  | c => if isUnprintable c then "\\u\x7b" ++ hex c.toNat ++ "\x7d" else c.toString

/-- The text in double quotes; a character that cannot be seen is written by its code point. -/
def quoted (s : String) : String :=
  "\"" ++ String.join (s.toList.map escapeChar) ++ "\""

end ScalarExpr.Text
