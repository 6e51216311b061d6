import ScalarExpr.Json.Basic
import ScalarExpr.Expr.Basic
import ScalarExpr.Settings
/-!
Domain values from JSON documents. A structure is an object, or the list of its fields in order;
fields of other names are skipped. A value of one of several forms is an object with the name of the
form, or the name alone where the form holds nothing.
-/
namespace ScalarExpr

namespace Json

/-- An integer from `least` to below `bound`. -/
def int? (least bound : Int) : Json → Option Int
  | number n => n.int?.filter fun i => least ≤ i && i < bound
  | _ => none

/-- An integer of 128 bits; `-0` is one. -/
def int128? : Json → Option Int128
  | number n =>
    let fits (i : Int) : Bool := -Int.pow 2 127 ≤ i && i < Int.pow 2 127
    (n.signedZeroInt?.filter fits).map (BitVec.ofInt 128)
  | _ => none

def int8? (j : Json) : Option Int8 := (j.int? (-Int.pow 2 7) (Int.pow 2 7)).map Int8.ofInt
def int32? (j : Json) : Option Int32 := (j.int? (-Int.pow 2 31) (Int.pow 2 31)).map Int32.ofInt
def int64? (j : Json) : Option Int64 := (j.int? (-Int.pow 2 63) (Int.pow 2 63)).map Int64.ofInt
def uint8? (j : Json) : Option UInt8 := (j.int? 0 (Int.pow 2 8)).map (UInt8.ofNat ·.toNat)
def uint32? (j : Json) : Option UInt32 := (j.int? 0 (Int.pow 2 32)).map (UInt32.ofNat ·.toNat)
def uint64? (j : Json) : Option UInt64 := (j.int? 0 (Int.pow 2 64)).map (UInt64.ofNat ·.toNat)

def real? : Json → Option Binary64
  | number n => n.real?
  | _ => none

def string? : Json → Option String
  | text s => s
  | _ => none

def bool? : Json → Option Bool
  | bool b => some b
  | _ => none

/-- What is there of the fields with the given names. A name must not be given twice, and no list
may be longer than the names. -/
def members? (names : List String) : Json → Option (List (Option Json))
  | list xs =>
    if xs.length ≤ names.length then
      some (xs.map some ++ List.replicate (names.length - xs.length) none)
    else none
  | object fs => do
    let fs ← fs.mapM fun (k, v) => k.map (·, v)
    names.mapM fun name =>
      match fs.filter (·.1 = name) with
      | [] => some none
      | [(_, v)] => some (some v)
      | _ => none
  | _ => none

/-- A field that may be missing. -/
def orDefault {α : Type} (field : Option Json) (read : Json → Option α) (default : α) : Option α :=
  match field with
  | some j => read j
  | none => some default

/-- The name of the form, and what it holds. -/
def form? : Json → Option (String × Option Json)
  | text s => s.map (·, none)
  | object [(k, v)] => k.map (·, some v)
  | _ => none

/-- The name of a form that holds nothing; beside the name there may be a null. -/
def bareForm? (j : Json) : Option String :=
  match j.form? with
  | some (name, none) | some (name, some null) => some name
  | _ => none

end Json

def TypeCode.ofJson? (j : Json) : Option TypeCode := j.bareForm?.bind TypeCode.ofTag?

def Category.ofJson? (j : Json) : Option Category := j.bareForm?.bind Category.ofTag?

def SqlType.ofJson? (j : Json) : Option SqlType :=
  match j.members? ["tp", "flag", "flen", "decimal"] with
  | some [some code, some flags, some length, some decimals] => do
    return ⟨← TypeCode.ofJson? code, ← flags.uint32?, ← length.int32?, ← decimals.int32?⟩
  | _ => none

/-- Both spellings are taken as given. -/
def CaseName.ofJson? (j : Json) : Option CaseName :=
  match j.members? ["o", "l"] with
  | some [some spelling, some lower] => do return ⟨← spelling.string?, ← lower.string?⟩
  | _ => none

/-- The value of a form that holds something. -/
def Value.ofForm? (name : String) (j : Json) : Option Value :=
  match name with
  | "Int64" => j.int64?.map .int
  | "Uint64" => j.uint64?.map .uint
  | "Float64" => j.real?.map .real
  | "String" => j.string?.map .text
  | "Decimal" =>
    match j.members? ["value", "scale"] with
    | some [some unscaled, some scale] => do return .decimal (← unscaled.int128?) (← scale.int8?)
    | _ => none
  | "Time" => j.int64?.map .datetime
  | "Duration" => j.int64?.map .duration
  | _ => none

def Value.ofJson? (j : Json) : Option Value :=
  if j.bareForm? = some "Null" then some .null
  else
    match j.form? with
    | some (name, some j) => ofForm? name j
    | _ => none

def StatementSettings.ofJson? (j : Json) : Option StatementSettings :=
  let d : StatementSettings := {}
  match j.members? ["time_zone_offset_secs", "ignore_truncate"] with
  | some [offset, truncate] => do
    return ⟨← Json.orDefault offset Json.int32? d.offsetSeconds,
      ← Json.orDefault truncate Json.bool? d.ignoreTruncate⟩
  | _ => none

def Settings.ofJson? (j : Json) : Option Settings :=
  let d : Settings := {}
  match j.members? ["time_zone", "sql_mode", "div_precision_increment", "batch_size", "stmt"] with
  | some [zone, mode, increment, batch, statement] => do
    return ⟨← Json.orDefault zone Json.string? d.timeZone,
      ← Json.orDefault mode Json.uint32? d.sqlMode,
      ← Json.orDefault increment Json.uint8? d.divPrecisionIncrement,
      ← Json.orDefault batch Json.uint64? d.batchSize,
      ← Json.orDefault statement StatementSettings.ofJson? d.statement⟩
  | _ => none

end ScalarExpr
