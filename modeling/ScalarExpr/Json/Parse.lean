import ScalarExpr.Json.Token
/-!
JSON documents from text. No comma may follow the last item, and nothing the document.
-/
namespace ScalarExpr.Json

mutual

/-- A value at the head of tokens that are fewer than `room`, and the tokens behind it. -/
def value? : (room : Nat) → List JsonToken → Option (Json × List JsonToken)
  | 0, _ => none
  | _ + 1, .null :: ts => some (null, ts)
  | _ + 1, .bool b :: ts => some (bool b, ts)
  | _ + 1, .number n :: ts => some (number n, ts)
  | _ + 1, .text s :: ts => some (text s, ts)
  | _ + 1, .openList :: .closeList :: ts => some (list [], ts)
  | room + 1, .openList :: ts => do
    let (xs, ts) ← items? room ts
    return (list xs, ts)
  | _ + 1, .openObject :: .closeObject :: ts => some (object [], ts)
  | room + 1, .openObject :: ts => do
    let (fs, ts) ← fields? room ts
    return (object fs, ts)
  | _ + 1, _ => none

/-- Items with commas between them up to the end of the list. -/
def items? : (room : Nat) → List JsonToken → Option (List Json × List JsonToken)
  | 0, _ => none
  | room + 1, ts => do
    let (x, ts) ← value? room ts
    match ts with
    | .comma :: ts => do
      let (xs, ts) ← items? room ts
      return (x :: xs, ts)
    | .closeList :: ts => return ([x], ts)
    | _ => none

/-- Names and values with commas between them up to the end of the object. -/
def fields? : (room : Nat) → List JsonToken →
    Option (List (Option String × Json) × List JsonToken)
  | 0, _ => none
  | room + 1, .text k :: .colon :: ts => do
    let (x, ts) ← value? room ts
    match ts with
    | .comma :: ts => do
      let (fs, ts) ← fields? room ts
      return ((k, x) :: fs, ts)
    | .closeObject :: ts => return ([(k, x)], ts)
    | _ => none
  | _ + 1, _ => none

end

/-- Every step down takes a token or is followed by one that does. -/
def parse? (s : String) : Option Json := do
  let ts ← JsonToken.ofString? s
  match ← value? (2 * ts.length + 1) ts with
  | (x, []) => some x
  | _ => none

end ScalarExpr.Json
