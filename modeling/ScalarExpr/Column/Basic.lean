import ScalarExpr.Value.Conversion
/-!
Stored columns: a type and a list of slots, each NULL or an item of that type. A slot is read as a
value, and a value is spread over a column.
-/
namespace ScalarExpr

structure Column where
  type : ColumnType
  items : List (Option type.Item)

namespace Column

def size (c : Column) : Nat := c.items.length

/-- Whether slot `i` is NULL, if there is such a slot. -/
def isNull? (c : Column) (i : Nat) : Option Bool := c.items[i]?.map Option.isNone

def hasNull (c : Column) : Bool := c.items.any Option.isNone

def nulls (type : ColumnType) (n : Nat) : Column := ⟨type, List.replicate n none⟩

def filled (type : ColumnType) (n : Nat) (item : type.Item) : Column :=
  ⟨type, List.replicate n (some item)⟩

def microsPerDay : Int := 86400000000

def checkedInt64 (n : Int) : Except Fault Int64 :=
  if -Int.pow 2 63 ≤ n && n < Int.pow 2 63 then .ok (Int64.ofInt n) else .error .integerOverflow

/-- The value of slot `i` of a list of slots: NULL, or what its item is read as. -/
def readSlot {α : Type} (xs : List (Option α)) (i : Nat) (value : α → Except Failure Value) :
    Except Failure Value :=
  match xs[i]? with
  | none => .error (.fault .outOfBounds)
  | some none => .ok .null
  | some (some a) => value a

def unreadable (type : ColumnType) : Error :=
  .unsupported ("reading " ++ type.text ++ " column into a datum")

/-- The value of slot `i` for an expression of type `t`. Only integers of 64 bits look at `t`: with
its unsigned flag their bits are an unsigned number. A date is its midnight. Of a type that is not
read, a column without NULLs is refused before the slot is looked for, and so is one of the type
that holds nothing else, which tabulates none. -/
def read (c : Column) (i : Nat) (t : SqlType) : Except Failure Value :=
  match c with
  | ⟨.int64, xs⟩ => readSlot xs i fun n => .ok (if t.isUnsigned then .uint n.toUInt64 else .int n)
  | ⟨.int32, xs⟩ => readSlot xs i fun n => .ok (.int n.toInt64)
  | ⟨.int16, xs⟩ => readSlot xs i fun n => .ok (.int n.toInt64)
  | ⟨.int8, xs⟩ => readSlot xs i fun n => .ok (.int n.toInt64)
  | ⟨.uint64, xs⟩ => readSlot xs i fun n => .ok (.uint n)
  | ⟨.boolean, xs⟩ => readSlot xs i fun b => .ok (.int (if b then 1 else 0))
  | ⟨.float64, xs⟩ => readSlot xs i fun x => .ok (.real x)
  | ⟨.float32, xs⟩ => readSlot xs i fun x => .ok (.real x.widen)
  | ⟨.utf8, xs⟩ => readSlot xs i fun s => .ok (.text s)
  | ⟨.largeUtf8, xs⟩ => readSlot xs i fun s => .ok (.text s)
  | ⟨.decimal _ scale, xs⟩ => readSlot xs i fun n => .ok (.decimal n scale)
  | ⟨.timestamp .microsecond _, xs⟩ => readSlot xs i fun n => .ok (.datetime n)
  | ⟨.date32, xs⟩ => readSlot xs i fun n =>
      Failure.ofFault ((checkedInt64 (n.toInt * microsPerDay)).map .datetime)
  | ⟨.duration .nanosecond, xs⟩ => readSlot xs i fun n => .ok (.duration n)
  | ⟨.null, _⟩ => .error (.error (unreadable .null))
  | ⟨type, xs⟩ =>
    if xs.any Option.isNone then readSlot xs i fun _ => .error (.error (unreadable type))
    else .error (.error (unreadable type))

end Column

/-- The precision and scale that a decimal column may have. -/
def checkDecimalType (precision : UInt8) (scale : Int8) : Except ColumnError Unit :=
  if 38 < scale then .error (.scaleAboveLimit scale)
  else if (precision.toNat : Int) < scale.toInt then .error (.scaleAbovePrecision scale precision)
  else .ok ()

namespace Value

def mismatch (expected : String) (v : Value) : Failure :=
  .error (.typeMismatch expected v.kindName)

/-- A column of `n` slots of declared type `t` that all hold the value. NULL goes into every type;
another value is converted where the category of `t` is integer, real or text, and has to be of that
kind elsewhere. A decimal keeps its own scale. -/
def broadcast (v : Value) (t : SqlType) (n : Nat) : Except Failure Column :=
  if v.isNull then .ok (.nulls t.columnType n)
  else
    match t.category with
    | .int => do
      let i := (← v.as .int).getD 0
      return if t.isUnsigned then .filled .uint64 n i.toUInt64 else .filled .int64 n i
    | .real => do return .filled .float64 n ((← v.as .real).getD .zero)
    | .text => do return .filled .utf8 n ((← v.as .text).getD "")
    | .decimal =>
      match v, t.columnType with
      | .decimal unscaled scale, .decimal precision _ => do
        (checkDecimalType precision scale).mapError (.error ∘ .column)
        return .filled (.decimal precision scale) n unscaled
      | v, _ => .error (v.mismatch "DECIMAL")
    | .datetime =>
      match v with
      | .datetime micros => .ok (.filled (.timestamp .microsecond none) n micros)
      | v => .error (v.mismatch "DATETIME")
    | .duration =>
      match v with
      | .duration nanos => .ok (.filled (.duration .nanosecond) n nanos)
      | v => .error (v.mismatch "DURATION")

end Value
end ScalarExpr
