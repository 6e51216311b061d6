import ScalarExpr.Json.Basic
import ScalarExpr.Text.Quoted
import ScalarExpr.Value.Basic
import ScalarExpr.Settings
/-!
Domain values as JSON documents, and their text without spaces.
-/
namespace ScalarExpr

namespace Json

/-- A character of a quoted text: quote, backslash and control characters are escaped. -/
def escapeChar (c : Char) : String :=
  match c with
  | '\x22' => "\\\""
  | '\\' => "\\\\"
  | '\x08' => "\\b"
  | '\x0c' => "\\f"
  | '\n' => "\\n"
  | '\r' => "\\r"
  | '\t' => "\\t"
  | c =>
    if c < ' ' then "\\u00" ++ Bytes.hex [UInt8.ofNat c.toNat] else String.singleton c

def quoted (s : String) : String := "\"" ++ String.join (s.toList.map escapeChar) ++ "\""

mutual

def render : Json → String
  | null => "null"
  | bool b => if b then "true" else "false"
  | number n => n.text
  | text s => quoted (s.getD "")
  | list xs => "[" ++ ",".intercalate (renderItems xs) ++ "]"
  | object fs => "\x7b" ++ ",".intercalate (renderFields fs) ++ "\x7d"

def renderItems : List Json → List String
  | [] => []
  | x :: xs => x.render :: renderItems xs

def renderFields : List (Option String × Json) → List String
  | [] => []
  | (k, x) :: fs => (quoted (k.getD "") ++ ":" ++ x.render) :: renderFields fs

end

end Json

/-- The document of a value; none is defined for a real. -/
def Value.json? : Value → Option Json
  | null => some (.string "Null")
  | int n => some (.record [("Int64", .int n.toInt)])
  | uint n => some (.record [("Uint64", .int n.toNat)])
  | real _ => none
  | text s => some (.record [("String", .string s)])
  | decimal n scale =>
    some (.record [("Decimal", .record [("value", .int n.toInt), ("scale", .int scale.toInt)])])
  | datetime n => some (.record [("Time", .int n.toInt)])
  | duration n => some (.record [("Duration", .int n.toInt)])

def SqlType.json (t : SqlType) : Json :=
  .record [("tp", .string t.code.tag), ("flag", .int t.flags.toNat), ("flen", .int t.length.toInt),
    ("decimal", .int t.decimals.toInt)]

def StatementSettings.json (s : StatementSettings) : Json :=
  .record [("time_zone_offset_secs", .int s.offsetSeconds.toInt),
    ("ignore_truncate", .bool s.ignoreTruncate)]

def Settings.json (s : Settings) : Json :=
  .record [("time_zone", .string s.timeZone), ("sql_mode", .int s.sqlMode.toNat),
    ("div_precision_increment", .int s.divPrecisionIncrement.toNat),
    ("batch_size", .int s.batchSize.toNat), ("stmt", s.statement.json)]

end ScalarExpr
