import CardExpr.Command.Basic
import CardExpr.Proofs.Evaluation.Reuse
import CardExpr.Proofs.Expr.Correctness
import CardExpr.Proofs.Token.Lossless

/-!
Constants. A source without spans is one, and so is a source that is nothing but a span with a text in quotes.
Every other source keeps its tree, which is what is evaluated.
-/

namespace CardExpr

open Grammar

/-- A text in quotes, in any number of parentheses. -/
inductive QuotedText : List TokenKind → String → Prop where
  | empty : QuotedText [.templateStart, .templateEnd] ""
  | text (content : String) : QuotedText [.templateStart, .text content, .templateEnd] content
  | parenthesized {ks : List TokenKind} {text : String} (inner : QuotedText ks text) :
      QuotedText (.openParen :: ks ++ [.closeParen]) text

/-- The kinds of a source that is one span with a text in quotes. -/
def IsQuotedText (kinds : List TokenKind) : Prop :=
  ∃ inner text, QuotedText inner text ∧
    kinds = .templateStart :: (.spanStart :: inner ++ [.spanEnd, .templateEnd]) ++ [.endOfInput]

namespace Grammar

/-- The tree of a phrase that stands for a value within a span. -/
def Phrase.operand? : Phrase → Option Expr
  | .template true e => some e
  | .ternary e => some e
  | .rescued e => some e
  | .binary _ e => some e
  | .signed e => some e
  | .operand e => some e
  | .primary e => some e
  | _ => none

theorem derives_noParts {ks : List TokenKind} (derives : Derives ks (.parts [])) : ks = [] := by
  cases derives
  rfl

theorem derives_text {ks : List TokenKind} {content : String}
    (derives : Derives ks (.parts [.text content])) : ks = [.text content] := by
  cases derives with
  | text content rest => rw [derives_noParts rest]

theorem quotedText_of_derives {ks : List TokenKind} {p : Phrase} (derives : Derives ks p) (text : String)
    (found : p.operand? = some (.string text)) : QuotedText ks text := by
  induction derives with
  | @template quoted ks parts e inner folds ih =>
      cases quoted with
      | false => cases found
      | true =>
          cases found
          cases folds with
          | empty =>
              rw [derives_noParts inner]
              exact .empty
          | text content =>
              rw [derives_text inner]
              exact .text text
          | span e unquoted => cases unquoted
  | unconditional inner ih => exact ih found
  | unrescued inner ih => exact ih found
  | tighter inside inner ih => exact ih found
  | tightest inner ih => exact ih found
  | unsigned inner ih => exact ih found
  | bare inner ih => exact ih found
  | quoted inner ih => exact ih found
  | parenthesized inner ih => exact .parenthesized (ih found)
  | _ => cases found

theorem derives_of_quotedText {ks : List TokenKind} {text : String} (quoted : QuotedText ks text) :
    Derives ks (.ternary (.string text)) := by
  induction quoted with
  | empty => exact .ternary_of_primary (.quoted (.template .noParts .empty))
  | text content => exact .ternary_of_primary (.quoted (.template (.text content .noParts) (.text content)))
  | parenthesized inner ih => exact .ternary_of_primary (.parenthesized ih)

theorem derives_span_of_quotedText {inner : List TokenKind} {text : String} (quoted : QuotedText inner text) :
    Derives (.templateStart :: (.spanStart :: inner ++ [.spanEnd, .templateEnd]))
      (.template false (.string text)) := by
  have span : Derives (.spanStart :: inner ++ .spanEnd :: []) (.parts [.span (.string text)]) :=
    .span (derives_of_quotedText quoted) .noParts
  simpa using Derives.template span (.span (.string text) rfl)

/-- A source whose tree is a text holds no span, or nothing but one with a text in quotes. -/
theorem spanless_or_quotedText {body : List TokenKind} {text : String}
    (derives : Derives (.templateStart :: body) (.template false (.string text))) :
    .spanStart ∉ body ∨
      ∃ inner, QuotedText inner text ∧ body = .spanStart :: inner ++ [.spanEnd, .templateEnd] := by
  generalize whole : TokenKind.templateStart :: body = ks at derives
  cases derives with
  | @template _ ks parts _ inner folds =>
      obtain rfl : body = ks ++ [.templateEnd] := by simpa using whole
      cases folds with
      | empty =>
          rw [derives_noParts inner]
          exact .inl (by simp)
      | text content =>
          rw [derives_text inner]
          exact .inl (by simp)
      | span e unquoted =>
          cases inner with
          | @span ks more _ _ value rest =>
              rw [derives_noParts rest]
              exact .inr ⟨ks, quotedText_of_derives value text rfl, by simp⟩

end Grammar

namespace Spelling

theorem Balanced.plain {body : List TokenKind} (balanced : Balanced [] body) (noSpan : .spanStart ∉ body) :
    body = [.templateEnd] ∨ ∃ content, body = [.text content, .templateEnd] := by
  cases balanced with
  | done => exact .inl rfl
  | @next _ k ks admits alone rest =>
      cases admits with
      | spanStart => exact absurd List.mem_cons_self noSpan
      | @text _ content =>
          right
          use content
          rw [after_text] at rest
          cases rest with
          | done => rfl
          | next admits =>
              cases admits with
              | spanStart => exact absurd (by simp) noSpan
              | @text _ other => exact absurd rfl (alone content other rfl)

end Spelling

theorem derives_of_spanless {body : List TokenKind} (balanced : Spelling.Balanced [] body)
    (noSpan : .spanStart ∉ body) :
    ∃ text, Derives (.templateStart :: body) (.template false (.string text)) := by
  rcases balanced.plain noSpan with rfl | ⟨content, rfl⟩
  · exact ⟨"", .template .noParts .empty⟩
  · exact ⟨content, .template (.text content .noParts) (.text content)⟩

theorem kinds_of_tokenize {source : String} {tokens : List Token} (done : tokenize source = .ok tokens) :
    ∃ body, tokens.map (·.kind) = .templateStart :: body ++ [.endOfInput] ∧ Spelling.Balanced [] body ∧
      ∀ tree, parseTokens tokens = .ok tree ↔ Derives (.templateStart :: body) (.template false tree) := by
  obtain ⟨more, rfl, tiles⟩ := Spelling.tiles_of_tokenize done
  obtain ⟨body, kinds, balanced⟩ := tiles.balanced
  obtain ⟨front, rfl, others⟩ := tiles.ended
  have inside : ∀ t ∈ ⟨.templateStart, 0⟩ :: front, Parser.isEndOfInput t.kind = false := by
    intro t member
    rcases List.mem_cons.mp member with rfl | later
    · rfl
    · exact Bool.eq_false_iff.mpr fun ends => others t later (Parser.only_endOfInput t.kind ends)
  have same : front.map (·.kind) = body := by simpa using kinds
  have whole : kindsOf (⟨.templateStart, 0⟩ :: front ++ [⟨.endOfInput, 0 + source.toList.length⟩]) =
      .templateStart :: body := by
    rw [Parser.kindsOf_concat, Parser.kindsOf_eq_map _ inside]
    simp [same, Parser.isEndOfInput]
  refine ⟨body, by simp [same], balanced, fun tree => ?_⟩
  rw [← whole]
  apply Parser.parseTokens_iff
  rwa [← List.cons_append, List.dropLast_concat]

theorem tree_eq_string_iff {source : String} {tokens : List Token} {tree : Expr}
    (done : tokenize source = .ok tokens) (parsed : parseTokens tokens = .ok tree) :
    (∃ text, tree = .string text) ↔
      (∀ t ∈ tokens, t.kind ≠ .spanStart) ∨ IsQuotedText (tokens.map (·.kind)) := by
  obtain ⟨body, kinds, balanced, accepts⟩ := kinds_of_tokenize done
  have spans : (∀ t ∈ tokens, t.kind ≠ .spanStart) ↔ .spanStart ∉ body := by
    have all : (∀ t ∈ tokens, t.kind ≠ .spanStart) ↔ .spanStart ∉ tokens.map (·.kind) := by simp
    rw [all, kinds]
    simp
  rw [spans, kinds]
  constructor
  · rintro ⟨text, rfl⟩
    rcases spanless_or_quotedText ((accepts _).mp parsed) with noSpan | ⟨inner, quoted, rfl⟩
    · exact .inl noSpan
    · exact .inr ⟨inner, text, quoted, rfl⟩
  · rintro (noSpan | ⟨inner, text, quoted, same⟩)
    · obtain ⟨text, derives⟩ := derives_of_spanless balanced noSpan
      exact ⟨text, Except.ok.inj (parsed.symm.trans ((accepts _).mpr derives))⟩
    · obtain ⟨-, rfl⟩ := List.cons.inj (List.append_cancel_right same)
      have derives := derives_span_of_quotedText quoted
      exact ⟨text, Except.ok.inj (parsed.symm.trans ((accepts _).mpr derives))⟩

theorem parse_eq_ok {source : String} {tree : Expr} (read : parse source = .ok tree) :
    ∃ tokens, tokenize source = .ok tokens ∧ parseTokens tokens = .ok tree := by
  unfold parse at read
  cases done : tokenize source with
  | error e => simp [done] at read
  | ok tokens =>
      cases parsed : parseTokens tokens with
      | error e => simp [done, parsed] at read
      | ok found =>
          simp [done, parsed] at read
          exact ⟨tokens, rfl, read ▸ parsed⟩

theorem isConstant_meaningOf (source : String) (tree : Expr) :
    (⟨source, Expression.meaningOf tree⟩ : Expression).isConstant = true ↔ ∃ text, tree = .string text := by
  cases tree <;> simp [Expression.isConstant, Expression.meaningOf]

/-- A source that parses is a constant just where no span begins in it, or where it is nothing but a span with
a text in quotes, perhaps in parentheses. The check reports that, and every other source keeps its tree and is
evaluated by it. -/
theorem isConstant_iff {source : String} {config : Config} {e : Expression}
    (parses : Expression.parse source config = .ok e) :
    ∃ tokens tree, tokenize source = .ok tokens ∧ parseTokens tokens = .ok tree ∧
      (e.isConstant = true ↔
        (∀ t ∈ tokens, t.kind ≠ .spanStart) ∨ IsQuotedText (tokens.map (·.kind))) ∧
      Command.checkSource config source = .ok ⟨e.isConstant, e.variableNames⟩ ∧
      (e.isConstant = false → e.meaning = .tree tree ∧ ∀ s, evaluate s e =
        ⟨(s.outcome tree).result.mapError (⟨·, source⟩), .ofReads (s.outcome tree).reads,
          (s.outcome tree).warnings⟩) := by
  obtain ⟨tree, read, rfl⟩ := Expression.parse_eq_ok parses
  obtain ⟨tokens, done, parsed⟩ := parse_eq_ok read
  refine ⟨tokens, tree, done, parsed, ?_, ?_, fun kept => ?_⟩
  · rw [← tree_eq_string_iff done parsed]
    exact isConstant_meaningOf source tree
  · simp [Command.checkSource, parses, Except.mapError, bind, Except.bind, pure, Except.pure]
  · have means : Expression.meaningOf tree = .tree tree := by
      cases tree with
      | string text => cases kept
      | _ => rfl
    refine ⟨means, fun s => ?_⟩
    simp [evaluate, means, Setting.outcome]

/-- Quotes that hold a span are no text: the source keeps its tree. -/
theorem isConstant_iff_of_nested_span :
    ∃ (source : String) (e : Expression) (tokens : List Token),
      source.toList = ['@', '\x7b', '\'', '@', '\x7b', 'b', '\x7d', '\'', '\x7d'] ∧
      Expression.parse source = .ok e ∧ tokenize source = .ok tokens ∧
      (¬ ∀ t ∈ tokens, t.kind ≠ .spanStart) ∧ ¬ IsQuotedText (tokens.map (·.kind)) ∧
      e.meaning = .tree (.template [.span (.variable "b")]) ∧
      Command.checkSource {} source = .ok ⟨false, ["b"]⟩ := by
  let cs : List Char := ['@', '\x7b', '\'', '@', '\x7b', 'b', '\x7d', '\'', '\x7d']
  let tree : Expr := .template [.span (.variable "b")]
  let found : List Token := [⟨.templateStart, 0⟩, ⟨.spanStart, 0⟩, ⟨.templateStart, 2⟩, ⟨.spanStart, 3⟩,
    ⟨.identifier "b", 5⟩, ⟨.spanEnd, 6⟩, ⟨.templateEnd, 7⟩, ⟨.spanEnd, 8⟩, ⟨.templateEnd, 9⟩,
    ⟨.endOfInput, 9⟩]
  have lexed : tokenize (String.ofList cs) = .ok found := by
    simp only [tokenize, cs, String.toList_ofList]
    rfl
  have parses : Expression.parse (String.ofList cs) = .ok ⟨String.ofList cs, .tree tree⟩ := by
    rw [Expression.parse, if_neg (by decide), parse, lexed]
    rfl
  obtain ⟨tokens, _, done, -, iff, checked, -⟩ := isConstant_iff parses
  have neither := mt iff.mpr Bool.false_ne_true
  rw [not_or] at neither
  exact ⟨String.ofList cs, _, tokens, String.toList_ofList, parses, done, neither.1, neither.2, rfl, checked⟩

/-- A text in quotes is a constant, though it stands in a span. -/
theorem isConstant_of_span :
    ∃ (source : String) (e : Expression) (tokens : List Token), Expression.parse source = .ok e ∧
      tokenize source = .ok tokens ∧
      ¬ (e.isConstant = true ↔ ∀ t ∈ tokens, t.kind ≠ .spanStart) ∧
      ¬ ∃ report, Command.checkSource {} source = .ok report ∧
        (report.isConstant = true ↔ ∀ t ∈ tokens, t.kind ≠ .spanStart) := by
  let source : String := String.ofList ['@', '\x7b', '\'', 'a', '\'', '\x7d']
  let tokens : List Token := [⟨.templateStart, 0⟩, ⟨.spanStart, 0⟩, ⟨.templateStart, 2⟩, ⟨.text "a", 3⟩,
    ⟨.templateEnd, 4⟩, ⟨.spanEnd, 5⟩, ⟨.templateEnd, 6⟩, ⟨.endOfInput, 6⟩]
  have spans : ¬ ∀ t ∈ tokens, t.kind ≠ .spanStart := by simp [tokens]
  have done : tokenize source = .ok tokens := by
    simp only [tokenize, source, String.toList_ofList]
    rfl
  have parses : Expression.parse source = .ok ⟨source, .constant (.string "a")⟩ := by
    rw [Expression.parse, if_neg (by decide), parse, done]
    rfl
  have checked : Command.checkSource {} source = .ok ⟨true, []⟩ := by
    rw [Command.checkSource, parses]
    rfl
  refine ⟨source, _, tokens, parses, done, fun same => spans (same.mp rfl), ?_⟩
  rintro ⟨report, reported, same⟩
  cases checked.symm.trans reported
  exact spans (same.mp rfl)

end CardExpr
