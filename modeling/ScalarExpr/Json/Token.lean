import ScalarExpr.Json.Basic
/-!
The tokens of a JSON document.
-/
namespace ScalarExpr

inductive JsonToken
  | openList
  | closeList
  | openObject
  | closeObject
  | comma
  | colon
  | null
  | bool (b : Bool)
  | number (n : JsonNumber)
  | text (s : Option String)

namespace JsonToken

def hexDigit? (c : Char) : Option Nat :=
  if c.isDigit then some (c.toNat - '0'.toNat)
  else if 'a' ≤ c && c ≤ 'f' then some (c.toNat - 'a'.toNat + 10)
  else if 'A' ≤ c && c ≤ 'F' then some (c.toNat - 'A'.toNat + 10)
  else none

/-- Four hexadecimal digits. -/
def unit? (a b c d : Char) : Option Nat := do
  return (((← hexDigit? a) * 16 + (← hexDigit? b)) * 16 + (← hexDigit? c)) * 16 + (← hexDigit? d)

/-- What an escape of one character stands for. -/
def escaped? : Char → Option Char
  | '\x22' => some '\x22'
  | '\\' => some '\\'
  | '/' => some '/'
  | 'b' => some '\x08'
  | 'f' => some '\x0c'
  | 'n' => some '\n'
  | 'r' => some '\r'
  | 't' => some '\t'
  | _ => none

/-- A part of a text: a character, or half of a surrogate pair. -/
inductive Piece
  | char (c : Char)
  | half (unit : Nat)

def Piece.ofUnit (n : Nat) : Piece :=
  if 0xd800 ≤ n && n < 0xe000 then half n else char (Char.ofNat n)

/-- The pieces of a text up to its closing quote, and what follows it. -/
def pieces : List Char → Option (List Piece × List Char)
  | '\x22' :: rest => some ([], rest)
  | '\\' :: 'u' :: a :: b :: c :: d :: rest => do
    let n ← unit? a b c d
    let (ps, rest) ← pieces rest
    return (.ofUnit n :: ps, rest)
  | '\\' :: e :: rest => do
    let c ← escaped? e
    let (ps, rest) ← pieces rest
    return (.char c :: ps, rest)
  | c :: rest =>
    if c < ' ' then none
    else do
      let (ps, rest) ← pieces rest
      return (.char c :: ps, rest)
  | [] => none

/-- The characters of pieces whose halves are paired, high before low. -/
def joinHalves : List Piece → Option (List Char)
  | [] => some []
  | .char c :: rest => (joinHalves rest).map (c :: ·)
  | .half high :: .half low :: rest =>
    if high < 0xdc00 && 0xdc00 ≤ low then
      (joinHalves rest).map (Char.ofNat (0x10000 + (high - 0xd800) * 1024 + (low - 0xdc00)) :: ·)
    else none
  | .half _ :: _ => none

/-- One digit or more. -/
def digits? (cs : List Char) : Option (List Char × List Char) :=
  match cs.takeWhile Char.isDigit with
  | [] => none
  | ds => some (ds, cs.dropWhile Char.isDigit)

/-- The whole part of a number: a zero before other digits is refused. -/
def whole? (cs : List Char) : Option (List Char × List Char) :=
  match digits? cs with
  | some ('0' :: _ :: _, _) => none
  | r => r

def fraction? : List Char → Option (Option (List Char) × List Char)
  | '.' :: cs => do
    let (ds, cs) ← digits? cs
    return (some ds, cs)
  | cs => some (none, cs)

def signedDigits? (negative : Bool) (cs : List Char) : Option (Option Int × List Char) := do
  let (ds, cs) ← digits? cs
  return (some (Numeral.signed negative (Numeral.value ds)), cs)

def exponentMark (c : Char) : Bool := c = 'e' || c = 'E'

def exponent? : List Char → Option (Option Int × List Char)
  | [] => some (none, [])
  | c :: cs =>
    if exponentMark c then
      match cs with
      | '+' :: cs => signedDigits? false cs
      | '-' :: cs => signedDigits? true cs
      | cs => signedDigits? false cs
    else some (none, c :: cs)

def unsigned? (negative : Bool) (cs : List Char) : Option (JsonNumber × List Char) := do
  let (whole, cs) ← whole? cs
  let (fraction, cs) ← fraction? cs
  let (exponent, cs) ← exponent? cs
  return (⟨negative, whole, fraction, exponent⟩, cs)

def number? : List Char → Option (JsonNumber × List Char)
  | '-' :: cs => unsigned? true cs
  | cs => unsigned? false cs

def isBlank (c : Char) : Bool := c = ' ' || c = '\n' || c = '\t' || c = '\r'

/-- The first token of a list of characters that starts with none that is blank. -/
def first? : List Char → Option (JsonToken × List Char)
  | '[' :: cs => some (openList, cs)
  | ']' :: cs => some (closeList, cs)
  | '\x7b' :: cs => some (openObject, cs)
  | '\x7d' :: cs => some (closeObject, cs)
  | ',' :: cs => some (comma, cs)
  | ':' :: cs => some (colon, cs)
  | 'n' :: 'u' :: 'l' :: 'l' :: cs => some (null, cs)
  | 't' :: 'r' :: 'u' :: 'e' :: cs => some (bool true, cs)
  | 'f' :: 'a' :: 'l' :: 's' :: 'e' :: cs => some (bool false, cs)
  | '\x22' :: cs => do
    let (ps, cs) ← pieces cs
    return (text ((joinHalves ps).map String.ofList), cs)
  | cs => do
    let (n, cs) ← number? cs
    return (number n, cs)

/-- Tokens of a list of at most `room` characters, each of them at least one. -/
def scan : (room : Nat) → List Char → Option (List JsonToken)
  | _, [] => some []
  | 0, _ => none
  | room + 1, c :: cs =>
    if isBlank c then scan room cs
    else do
      let (t, cs) ← first? (c :: cs)
      let ts ← scan room cs
      return t :: ts

def ofString? (s : String) : Option (List JsonToken) := scan s.length s.toList

end JsonToken
end ScalarExpr
