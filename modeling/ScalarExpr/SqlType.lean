/-!
The types of expressions: a type code with flags and a declared length, and the category of values
that a code stands for.
-/
namespace ScalarExpr

inductive TypeCode
  | unspecified
  | tiny
  | short
  | long
  | bigint
  | float
  | double
  | decimal
  | varchar
  | char
  | date
  | datetime
  | timestamp
  | time
  deriving DecidableEq, Inhabited

namespace TypeCode

def all : List TypeCode :=
  [unspecified, tiny, short, long, bigint, float, double, decimal, varchar, char, date, datetime,
    timestamp, time]

def name : TypeCode → String
  | unspecified => "UNSPECIFIED"
  | tiny => "TINYINT"
  | short => "SMALLINT"
  | long => "INT"
  | bigint => "BIGINT"
  | float => "FLOAT"
  | double => "DOUBLE"
  | decimal => "DECIMAL"
  | varchar => "VARCHAR"
  | char => "CHAR"
  | date => "DATE"
  | datetime => "DATETIME"
  | timestamp => "TIMESTAMP"
  | time => "TIME"

/-- The name in stored documents. -/
def tag : TypeCode → String
  | unspecified => "Unspecified"
  | tiny => "Tiny"
  | short => "Short"
  | long => "Long"
  | bigint => "LongLong"
  | float => "Float"
  | double => "Double"
  | decimal => "NewDecimal"
  | varchar => "VarString"
  | char => "String"
  | date => "Date"
  | datetime => "Datetime"
  | timestamp => "Timestamp"
  | time => "Duration"

def ofTag? (s : String) : Option TypeCode := all.find? (·.tag = s)

end TypeCode

/-- The kinds of values an expression is evaluated to. -/
inductive Category
  | int
  | real
  | decimal
  | text
  | datetime
  | duration
  deriving DecidableEq, Inhabited

namespace Category

def all : List Category := [int, real, decimal, text, datetime, duration]

def name : Category → String
  | int => "int"
  | real => "real"
  | decimal => "decimal"
  | text => "string"
  | datetime => "datetime"
  | duration => "duration"

/-- The name in stored documents. -/
def tag : Category → String
  | int => "Int"
  | real => "Real"
  | decimal => "Decimal"
  | text => "String"
  | datetime => "Datetime"
  | duration => "Duration"

def ofTag? (s : String) : Option Category := all.find? (·.tag = s)

end Category

def TypeCode.category : TypeCode → Category
  | tiny | short | long | bigint => .int
  | float | double => .real
  | decimal => .decimal
  | date | datetime | timestamp => .datetime
  | time => .duration
  | unspecified | varchar | char => .text

/-- A type as declared: `-1` stands for no declared length or number of decimals. -/
structure SqlType where
  code : TypeCode
  flags : UInt32
  length : Int32
  decimals : Int32
  deriving DecidableEq, Inhabited

namespace SqlType

def notNullFlag : UInt32 := 1
def unsignedFlag : UInt32 := 32
def binaryFlag : UInt32 := 128

def ofCode (code : TypeCode) : SqlType := ⟨code, 0, -1, -1⟩

def withFlags (t : SqlType) (flags : UInt32) : SqlType := { t with flags := t.flags ||| flags }

def unspecified : SqlType := ofCode .unspecified
def bigint : SqlType := { ofCode .bigint with length := 20, decimals := 0 }
def unsignedBigint : SqlType := bigint.withFlags unsignedFlag
def double : SqlType := { ofCode .double with length := 22 }
def varchar : SqlType := ofCode .varchar
def decimal (length decimals : Int32) : SqlType := ⟨.decimal, 0, length, decimals⟩
def datetime : SqlType := { ofCode .datetime with length := 26, decimals := 6 }
def duration : SqlType := { ofCode .time with length := 17, decimals := 6 }

def isUnspecified (t : SqlType) : Bool := t.code = .unspecified

def hasFlag (t : SqlType) (flag : UInt32) : Bool := t.flags &&& flag ≠ 0

def isUnsigned (t : SqlType) : Bool := t.hasFlag unsignedFlag

def isNotNull (t : SqlType) : Bool := t.hasFlag notNullFlag

def category (t : SqlType) : Category := t.code.category

/-- The type as a statement declares it; only a decimal with a length shows length and decimals. -/
def text (t : SqlType) : String :=
  t.code.name
    ++ (if t.code = .decimal && 0 < t.length then
        "(" ++ toString t.length.toInt ++ "," ++ toString (max t.decimals.toInt 0) ++ ")"
      else "")
    ++ (if t.isUnsigned then " UNSIGNED" else "")

end SqlType
end ScalarExpr
