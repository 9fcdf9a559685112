/-! Finding and replacing text. -/

namespace CardExpr.Text

def startsWith : (part text : List Char) → Bool
  | [], _ => true
  | _ :: _, [] => false
  | p :: ps, c :: cs => p == c && startsWith ps cs

def find? (part : List Char) : List Char → Option Nat
  | [] => if part.isEmpty then some 0 else none
  | c :: cs => if startsWith part (c :: cs) then some 0 else (find? part cs).map (· + 1)

def findLast? (part : List Char) : List Char → Option Nat
  | [] => if part.isEmpty then some 0 else none
  | c :: cs =>
    match findLast? part cs with
    | some n => some (n + 1)
    | none => if startsWith part (c :: cs) then some 0 else none

/-- Replaces every occurrence that begins behind the one before it; `skip` characters of the last one
are still to be passed over. -/
def replaceFrom (old new : List Char) : (skip : Nat) → List Char → List Char
  | _, [] => []
  | skip + 1, _ :: cs => replaceFrom old new skip cs
  | 0, c :: cs =>
    if startsWith old (c :: cs) then new ++ replaceFrom old new (old.length - 1) cs
    else c :: replaceFrom old new 0 cs

/-- Replaces the occurrences of a text that is not empty. -/
def replace (old new text : List Char) : List Char := replaceFrom old new 0 text

theorem startsWith_iff (part text : List Char) :
    startsWith part text = true ↔ ∃ rest, text = part ++ rest := by
  induction part generalizing text with
  | nil => simp [startsWith]
  | cons p ps ih =>
    cases text with
    | nil => simp [startsWith]
    | cons c cs =>
      simp only [startsWith, Bool.and_eq_true, beq_iff_eq, ih, List.cons_append, List.cons.injEq]
      constructor
      · rintro ⟨rfl, rest, rfl⟩; exact ⟨rest, rfl, rfl⟩
      · rintro ⟨rest, rfl, rfl⟩; exact ⟨rfl, rest, rfl⟩

end CardExpr.Text
