import CardExpr.Text.Category
import CardExpr.Text.CaseTable

/-! Text in lower and in upper case. -/

namespace CardExpr.Text

def lowerChar (c : Char) : List Char :=
  if c = 'İ' then ['i', '\u0307']
  else [Char.ofNat (CaseTable.apply (CaseTable.lower ++ CaseTable.latestLower) c.toNat)]

def upperChar (c : Char) : List Char :=
  match CaseTable.longUpper.find? (fun entry => entry.1 == c.toNat) with
  | some entry => entry.2.map Char.ofNat
  | none => [Char.ofNat (CaseTable.apply (CaseTable.upper ++ CaseTable.latestUpper) c.toNat)]

/-- Whether the first character that case does not ignore is cased. -/
def meetsCased (cs : List Char) : Bool :=
  match cs.dropWhile isCaseIgnorable with
  | c :: _ => isCased c
  | [] => false

/-- Lower case behind the reversed text `before`: a capital sigma at the end of a word becomes a final
sigma. -/
def lowerAfter (before : List Char) : List Char → List Char
  | [] => []
  | c :: cs =>
    let image := if c = 'Σ' ∧ meetsCased before ∧ !meetsCased cs then ['ς'] else lowerChar c
    image ++ lowerAfter (c :: before) cs

def toLower (text : String) : String := String.ofList (lowerAfter [] text.toList)

def toUpper (text : String) : String := String.ofList (text.toList.flatMap upperChar)

end CardExpr.Text
