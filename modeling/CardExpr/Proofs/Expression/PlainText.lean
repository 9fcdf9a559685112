import Mathlib.Data.List.Basic
import CardExpr.Expression
import CardExpr.Proofs.Token.Escape

/-!
Sources without spans. Such a source is a constant text, in which the escapes are resolved and every other
backslash is kept, but for one before an at sign that begins no span.
-/

namespace CardExpr.PlainText

open Lexer

/-- A piece of a source, as far as escapes outside of spans go. -/
inductive Chunk where
  /-- Two backslashes. -/
  | backslash
  /-- A backslash before an at sign and a brace. -/
  | escapedSpan
  /-- A backslash before an at sign that no brace follows. -/
  | escapedAt
  /-- An at sign and a brace that no backslash escapes. -/
  | spanStart
  /-- Any other character, a backslash before none of these included. -/
  | char (c : Char)
  deriving DecidableEq, Repr

def chunks : List Char → List Chunk
  | '\\' :: '\\' :: cs => .backslash :: chunks cs
  | '\\' :: '@' :: '\x7b' :: cs => .escapedSpan :: chunks cs
  | '\\' :: '@' :: cs => .escapedAt :: chunks cs
  | '@' :: '\x7b' :: cs => .spanStart :: chunks cs
  | c :: cs => .char c :: chunks cs
  | [] => []

def Chunk.spelling : Chunk → List Char
  | .backslash => ['\\', '\\']
  | .escapedSpan => ['\\', '@', '\x7b']
  | .escapedAt => ['\\', '@']
  | .spanStart => ['@', '\x7b']
  | .char c => [c]

/-- What the piece stands for: an escape for what is escaped, and all else for itself. -/
def Chunk.meaning : Chunk → List Char
  | .backslash => ['\\']
  | .escapedSpan => ['@', '\x7b']
  | other => other.spelling

def Chunk.reading : Chunk → List Char
  | .escapedAt => ['@']
  | other => other.meaning

theorem flatMap_spelling_chunks (cs : List Char) : (chunks cs).flatMap Chunk.spelling = cs := by
  fun_induction chunks cs <;> simp_all [Chunk.spelling]

theorem length_flatMap_meaning (ps : List Chunk) :
    (ps.flatMap Chunk.meaning).length = (ps.flatMap Chunk.reading).length + ps.count .escapedAt := by
  induction ps with
  | nil => rfl
  | cons p ps ih =>
      rw [List.flatMap_cons, List.flatMap_cons, List.length_append, List.length_append, ih]
      cases p <;> simp [Chunk.meaning, Chunk.reading, Chunk.spelling] <;> omega

theorem flatMap_reading_eq_iff (ps : List Chunk) :
    ps.flatMap Chunk.reading = ps.flatMap Chunk.meaning ↔ .escapedAt ∉ ps := by
  constructor
  · intro same
    have lengths := length_flatMap_meaning ps
    rw [same] at lengths
    have none : ps.count .escapedAt = 0 := by omega
    exact List.count_eq_zero.mp none
  · intro absent
    apply List.flatMap_congr
    intro p member
    cases p with
    | escapedAt => exact absurd member absent
    | _ => rfl

theorem readText_backslash (offset : Nat) (cs : List Char) (noBackslash : ∀ rest, cs ≠ '\\' :: rest)
    (noAt : ∀ rest, cs ≠ '@' :: rest) :
    readText none offset ('\\' :: cs) =
      (readText none (offset + 1) cs).map fun (text, rest) => ('\\' :: text, rest) := by
  rw [readText.eq_def]
  cases cs with
  | nil => simp
  | cons d cs =>
      simp

theorem readText_chunks (cs : List Char) (noSpan : .spanStart ∉ chunks cs) (offset : Nat) :
    readText none offset cs = .ok ((chunks cs).flatMap Chunk.reading, offset + cs.length, []) := by
  fun_induction chunks cs generalizing offset
  case case1 cs ih =>
    rw [Spelling.readText_escaped none offset '\\' cs (.inl rfl), ih (by simpa using noSpan)]
    simp [Except.map, Chunk.reading, Chunk.meaning]
    omega
  case case2 cs ih =>
    rw [Spelling.readText_escaped none offset '@' _ (.inr (.inl rfl)),
      Spelling.readText_char none _ '\x7b' cs (by decide) (by simp) (by simp), ih (by simpa using noSpan)]
    simp [Except.map, Chunk.reading, Chunk.meaning]
    omega
  case case3 cs noBrace ih =>
    rw [Spelling.readText_escaped none offset '@' cs (.inr (.inl rfl)), ih (by simpa using noSpan)]
    simp [Except.map, Chunk.reading]
    omega
  case case4 => simp at noSpan
  case case5 c cs noBackslash noEscapedSpan noEscapedAt noBrace ih =>
    have further := ih (by simpa using noSpan) (offset + 1)
    have read : readText none offset (c :: cs) =
        (readText none (offset + 1) cs).map fun (text, rest) => (c :: text, rest) := by
      by_cases backslash : c = '\\'
      · subst backslash
        exact readText_backslash offset cs (noBackslash · rfl) (noEscapedAt · rfl)
      · apply Spelling.readText_char none offset c cs backslash
        · rintro ⟨at_, brace⟩
          obtain ⟨rest, same⟩ := List.head?_eq_some_iff.mp brace
          exact noBrace rest at_ same
        · simp
    rw [read, further]
    simp [Except.map, Chunk.reading, Chunk.meaning, Chunk.spelling]
    omega
  case case6 => rw [readText]; rfl

theorem ne_spanStart_of_chunks {cs : List Char} (noSpan : .spanStart ∉ chunks cs) (rest : List Char) :
    cs ≠ '@' :: '\x7b' :: rest := by
  rintro rfl
  simp [chunks] at noSpan

theorem run_plain (c : Char) (cs : List Char) (noSpan : .spanStart ∉ chunks (c :: cs)) (steps : Nat) :
    run (steps + 2) [] 0 (c :: cs) =
      .ok [⟨.text (String.ofList ((chunks (c :: cs)).flatMap Chunk.reading)), 0⟩,
        ⟨.templateEnd, (c :: cs).length⟩, ⟨.endOfInput, (c :: cs).length⟩] := by
  have stepped : step [] 0 (c :: cs) =
      .ok (some ⟨⟨.text (String.ofList ((chunks (c :: cs)).flatMap Chunk.reading)), 0⟩, [],
        (c :: cs).length, []⟩) := by
    rw [step, templateStep]
    · simp [readText_chunks (c :: cs) noSpan, bind, Except.bind, Except.map, pure, Except.pure]
    · exact ne_spanStart_of_chunks noSpan
    · simp
  rw [run, stepped]
  rfl

theorem parse_plain (source : String) (noSpan : .spanStart ∉ chunks source.toList) :
    parse source = .ok (.string (String.ofList ((chunks source.toList).flatMap Chunk.reading))) := by
  unfold parse tokenize
  cases same : source.toList with
  | nil => rfl
  | cons c cs =>
      rw [same] at noSpan
      dsimp only
      rw [show (c :: cs).length + 1 = cs.length + 2 from rfl, run_plain c cs noSpan]
      rfl

/-- A source without spans is a constant. It is cut into pieces, and the constant is the text that they are
read as: what they stand for, but that a backslash is dropped before every at sign that no brace follows. -/
theorem parse_constant_of_plain (source : String) (config : Config)
    (within : source.length ≤ config.maxExpressionLength) (noSpan : .spanStart ∉ chunks source.toList) :
    ∃ text, Expression.parse source config = .ok ⟨source, .constant (.string text)⟩ ∧
      (chunks source.toList).flatMap Chunk.spelling = source.toList ∧
      text.toList = (chunks source.toList).flatMap Chunk.reading ∧
      (text.toList = (chunks source.toList).flatMap Chunk.meaning ↔ .escapedAt ∉ chunks source.toList) := by
  refine ⟨String.ofList ((chunks source.toList).flatMap Chunk.reading), ?_,
    flatMap_spelling_chunks source.toList, String.toList_ofList, ?_⟩
  · rw [Expression.parse, if_neg (Nat.not_lt.mpr within), parse_plain source noSpan]
    rfl
  · rw [String.toList_ofList]
    exact flatMap_reading_eq_iff _

/-- A path, an escaped span, a lone at sign and a backslash at the end. -/
theorem parse_constant_of_plain_of_escapes :
    ∃ source text : String,
      source.toList = ['C', ':', '\\', 'd', '\\', '\\', '\\', '@', '\x7b', 'x', '\x7d', 'a', '@', 'b', '\\'] ∧
      .spanStart ∉ chunks source.toList ∧
      Expression.parse source = .ok ⟨source, .constant (.string text)⟩ ∧
      text.toList = (chunks source.toList).flatMap Chunk.meaning ∧
      text.toList = ['C', ':', '\\', 'd', '\\', '@', '\x7b', 'x', '\x7d', 'a', '@', 'b', '\\'] := by
  let cs : List Char :=
    ['C', ':', '\\', 'd', '\\', '\\', '\\', '@', '\x7b', 'x', '\x7d', 'a', '@', 'b', '\\']
  have same : (String.ofList cs).toList = cs := String.toList_ofList
  have noSpan : .spanStart ∉ chunks (String.ofList cs).toList := by
    rw [same]
    decide
  obtain ⟨text, parsed, -, read, meant⟩ := parse_constant_of_plain (String.ofList cs) {} (by decide) noSpan
  rw [same] at read meant
  refine ⟨String.ofList cs, text, same, noSpan, parsed, ?_, read⟩
  rw [same]
  exact meant.mpr (by decide)

/-- A backslash before an at sign without a brace is lost. -/
theorem parse_drops_backslash :
    ∃ source : String, .spanStart ∉ chunks source.toList ∧
      ¬ ∃ text, Expression.parse source = .ok ⟨source, .constant (.string text)⟩ ∧
        text.toList = (chunks source.toList).flatMap Chunk.meaning := by
  have noSpan : .spanStart ∉ chunks "\\@x".toList := by decide
  have read : Expression.parse "\\@x" = .ok ⟨"\\@x", .constant (.string "@x")⟩ := rfl
  refine ⟨"\\@x", noSpan, ?_⟩
  rintro ⟨text, parsed, meant⟩
  cases read.symm.trans parsed
  exact absurd meant (by decide)

end CardExpr.PlainText
