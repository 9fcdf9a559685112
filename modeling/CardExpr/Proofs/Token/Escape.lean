import CardExpr.Proofs.Token.Spelling

/-! Reading escaped text gives the text back. -/

namespace CardExpr.Spelling

open Lexer

/-- The characters behind a text end it: there are none, or a span begins, or the quotes close. -/
inductive EndsText (quoted : Bool) : List Char → Prop where
  | done : EndsText quoted []
  | span (rest : List Char) : EndsText quoted ('@' :: '\x7b' :: rest)
  | quote (inQuotes : quoted = true) (rest : List Char) : EndsText quoted ('\'' :: rest)

theorem EndsText.head_ne {quoted : Bool} {tail : List Char} (ends : EndsText quoted tail) :
    tail.head? ≠ some '\x7b' := by
  cases ends <;> simp

/-- No brace comes to stand first where there was none. -/
theorem head_escape_ne (quoted : Bool) (cs tail : List Char) (ends : EndsText quoted tail)
    (other : cs.head? ≠ some '\x7b') : (escape quoted cs ++ tail).head? ≠ some '\x7b' := by
  cases cs with
  | nil => exact ends.head_ne
  | cons c cs =>
      unfold escape
      split
      · simp
      · exact other

theorem readText_end (quote : Option Nat) (offset : Nat) (tail : List Char)
    (ends : EndsText quote.isSome tail) : readText quote offset tail = .ok ([], offset, tail) := by
  cases ends with
  | done => rw [readText]
  | span rest =>
      rw [readText.eq_def]
      simp
  | quote inQuotes rest =>
      rw [readText.eq_def]
      simp [inQuotes]

theorem readText_char (quote : Option Nat) (offset : Nat) (c : Char) (cs : List Char)
    (plain : c ≠ '\\') (noSpan : ¬ (c = '@' ∧ cs.head? = some '\x7b'))
    (noQuote : ¬ (c = '\'' ∧ quote.isSome = true)) :
    readText quote offset (c :: cs) =
      (readText quote (offset + 1) cs).map fun (text, rest) => (c :: text, rest) := by
  rw [readText.eq_def]
  simp only [if_neg noSpan, if_neg noQuote, if_pos plain]

theorem readText_escaped (quote : Option Nat) (offset : Nat) (c : Char) (cs : List Char)
    (special : c = '\\' ∨ c = '@' ∨ (quote.isSome = true ∧ c = '\'')) :
    readText quote offset ('\\' :: c :: cs) =
      (readText quote (offset + 2) cs).map fun (text, rest) => (c :: text, rest) := by
  rw [readText.eq_def]
  rcases special with rfl | rfl | ⟨inQuotes, rfl⟩
  · simp
  · simp
  · cases quote with
    | none => cases inQuotes
    | some start => simp

theorem readText_escape (quote : Option Nat) (cs tail : List Char) (ends : EndsText quote.isSome tail)
    (offset : Nat) :
    ∃ next, readText quote offset (escape quote.isSome cs ++ tail) = .ok (cs, next, tail) := by
  induction cs generalizing offset with
  | nil => exact ⟨offset, readText_end quote offset tail ends⟩
  | cons c cs ih =>
      unfold escape
      split
      next special =>
        obtain ⟨next, read⟩ := ih (offset + 2)
        have marked : c = '\\' ∨ c = '@' ∨ (quote.isSome = true ∧ c = '\'') :=
          special.imp_right (.imp_left And.left)
        refine ⟨next, ?_⟩
        rw [List.cons_append, List.cons_append, readText_escaped quote offset c _ marked, read]
        rfl
      next plain =>
        obtain ⟨next, read⟩ := ih (offset + 1)
        rw [not_or, not_or] at plain
        obtain ⟨noBackslash, noSpan, noQuote⟩ := plain
        have apart : ¬ (c = '@' ∧ (escape quote.isSome cs ++ tail).head? = some '\x7b') := by
          rintro ⟨at_, brace⟩
          exact head_escape_ne _ cs tail ends (fun first => noSpan ⟨at_, first⟩) brace
        refine ⟨next, ?_⟩
        rw [List.cons_append, readText_char quote offset c _ noBackslash apart (noQuote ∘ And.symm), read]
        rfl

/-- Escaped text looks neither like a span nor like the end of quotes. -/
theorem escape_first (quoted : Bool) (c : Char) (cs tail : List Char) (ends : EndsText quoted tail) :
    ∃ d rest, escape quoted (c :: cs) ++ tail = d :: rest ∧ ¬ (d = '@' ∧ rest.head? = some '\x7b') ∧
      ¬ (quoted = true ∧ d = '\'') := by
  unfold escape
  split
  next => exact ⟨'\\', c :: (escape quoted cs ++ tail), rfl, by simp, by simp⟩
  next plain =>
    rw [not_or, not_or] at plain
    obtain ⟨-, noSpan, noQuote⟩ := plain
    refine ⟨c, escape quoted cs ++ tail, rfl, ?_, noQuote⟩
    rintro ⟨at_, brace⟩
    exact head_escape_ne _ cs tail ends (fun first => noSpan ⟨at_, first⟩) brace

end CardExpr.Spelling
