import ScalarExpr.Text.CaseTable
/-!
Lowercase and uppercase of text by the default Unicode mappings, without a locale. One character may
become several, and a capital sigma that ends a word becomes a final sigma.
-/
namespace ScalarExpr.Text

open CaseTable

def inRanges (ranges : List (Nat × Nat)) (c : Char) : Bool :=
  ranges.any fun (first, last) => first ≤ c.toNat && c.toNat ≤ last

/-- The image of a character under the first range that has it. -/
def shifted? (ranges : List CaseRange) (c : Char) : Option Char :=
  (ranges.find? fun r =>
    r.first ≤ c.toNat && c.toNat ≤ r.last && (c.toNat - r.first) % r.step = 0).map fun r =>
      Char.ofNat ((c.toNat : Int) + r.shift).toNat

def isAscii (c : Char) : Bool := c.toNat < 128

def upperChar (c : Char) : List Char :=
  if isAscii c then [c.toUpper]
  else
    match upperWords.lookup c.toNat with
    | some word => word.map Char.ofNat
    | none => [(shifted? upperRanges c).getD c]

def lowerChar (c : Char) : List Char :=
  if isAscii c then [c.toLower]
  else if c = 'İ' then ['i', '\u0307']
  else [(shifted? lowerRanges c).getD c]

/-- The nearest character that is not passed over has case. -/
def startsCased (cs : List Char) : Bool :=
  match cs.dropWhile (inRanges caseIgnorableRanges) with
  | [] => false
  | c :: _ => inRanges casedRanges c

/-- A sigma ends a word if a cased character stands before it and none after it. -/
def lowerSigma (before after : List Char) : Char :=
  if startsCased before && !startsCased after then 'ς' else 'σ'

/-- The lowercase form of `cs`, where `before` holds the characters to its left, nearest first. -/
def lowerFrom (before : List Char) : List Char → List Char
  | [] => []
  | c :: cs =>
    (if c = 'Σ' then [lowerSigma before cs] else lowerChar c) ++ lowerFrom (c :: before) cs

def lower (s : String) : String := String.ofList (lowerFrom [] s.toList)

def upper (s : String) : String := String.ofList (s.toList.flatMap upperChar)

end ScalarExpr.Text
