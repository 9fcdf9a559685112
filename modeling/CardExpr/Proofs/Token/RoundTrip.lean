import CardExpr.Proofs.Token.Escape
import CardExpr.Proofs.Token.Words

/-! Cutting a spelled source into tokens gives the tokens back. -/

namespace CardExpr.Spelling

open Lexer

def Frame.ofOpened : Opened → Frame
  | .quote _ => .quote
  | .span _ => .span

/-- The next token is cut off the characters, and what is then open has these frames. -/
def Cuts (opened : List Opened) (cs : List Char) (k : TokenKind) (frames : List Frame)
    (tail : List Char) : Prop :=
  ∀ offset, ∃ s, step opened offset cs = .ok (some s) ∧ s.token.kind = k ∧
    s.opened.map Frame.ofOpened = frames ∧ s.rest = tail

/-- Where these frames are open, the characters are cut into these kinds and the end of input. -/
def Lexes (frames : List Frame) (cs : List Char) (ks : List TokenKind) : Prop :=
  ∀ opened offset steps, opened.map Frame.ofOpened = frames → cs.length < steps →
    ∃ tokens, run steps opened offset cs = .ok tokens ∧ tokens.map (·.kind) = ks ++ [.endOfInput]

theorem lexes_end : Lexes [] [] [.templateEnd] := by
  intro opened offset steps same enough
  obtain ⟨steps, rfl⟩ := Nat.exists_eq_add_of_le' (show 1 ≤ steps from enough)
  rw [List.map_eq_nil_iff.mp same]
  exact ⟨_, rfl, rfl⟩

theorem Lexes.cons {frames further : List Frame} {between spelled tail : List Char} {k : TokenKind}
    {ks : List TokenKind} (present : spelled ≠ [])
    (cuts : ∀ opened, opened.map Frame.ofOpened = frames →
      Cuts opened (between ++ (spelled ++ tail)) k further tail)
    (rest : Lexes further tail ks) : Lexes frames (between ++ (spelled ++ tail)) (k :: ks) := by
  intro opened offset steps same enough
  obtain ⟨steps, rfl⟩ := Nat.exists_eq_add_of_le' (show 1 ≤ steps by omega)
  obtain ⟨s, cut, kind, frame, left⟩ := cuts opened same offset
  have consumed : 0 < spelled.length := List.length_pos_iff.mpr present
  rw [List.length_append, List.length_append] at enough
  obtain ⟨tokens, more, kinds⟩ := rest s.opened s.offset steps frame (by omega)
  refine ⟨s.token :: tokens, ?_, ?_⟩
  · rw [run, cut]
    show (run steps s.opened s.offset s.rest >>= fun more => pure (s.token :: more)) = _
    rw [left, more]
    rfl
  · rw [List.map_cons, kind, kinds]
    rfl

/-- Inside a span, blanks are passed over. -/
theorem step_span (start : Nat) (outer : List Opened) (offset : Nat) (blanks : List Char) (d : Char)
    (more : List Char) (all : ∀ c ∈ blanks, Text.isBlank c = true) (visible : Text.isBlank d = false) :
    ∃ behind, step (.span start :: outer) offset (blanks ++ d :: more) =
      (spanStep start outer behind (d :: more)).map some := by
  refine ⟨offset + ((blanks ++ d :: more).length - (d :: more).length), ?_⟩
  unfold step
  simp only
  rw [Text.trimStart_append blanks _ all, Text.trimStart_of_not_blank d more visible]

theorem opened_span {opened : List Opened} {frames : List Frame}
    (same : opened.map Frame.ofOpened = .span :: frames) :
    ∃ start outer, opened = .span start :: outer ∧ outer.map Frame.ofOpened = frames := by
  obtain ⟨first, outer, rfl, kind, rest⟩ := List.map_eq_cons_iff.mp same
  cases first with
  | span start => exact ⟨start, outer, rfl, rest⟩
  | quote start => cases kind

theorem opened_quote {opened : List Opened} {frames : List Frame}
    (same : opened.map Frame.ofOpened = .quote :: frames) :
    ∃ start outer, opened = .quote start :: outer ∧ outer.map Frame.ofOpened = frames := by
  obtain ⟨first, outer, rfl, kind, rest⟩ := List.map_eq_cons_iff.mp same
  cases first with
  | quote start => exact ⟨start, outer, rfl, rest⟩
  | span start => cases kind

section Span

variable {opened : List Opened} {frames : List Frame} {blanks : List Char}

theorem cuts_plain (same : opened.map Frame.ofOpened = .span :: frames)
    (all : ∀ c ∈ blanks, Text.isBlank c = true) (around : List Frame) (k : TokenKind) (isPlain : Plain k)
    (c : Char) (rest : List Char) (separates : Separates c) :
    Cuts opened (blanks ++ (word around k ++ c :: rest)) k (.span :: frames) (c :: rest) := by
  obtain ⟨start, outer, rfl, below⟩ := opened_span same
  intro offset
  obtain ⟨d, more, spelled, visible⟩ := word_first around k isPlain
  obtain ⟨behind, trimmed⟩ := step_span start outer offset blanks d (more ++ c :: rest) all visible
  obtain ⟨next, cut⟩ := spanStep_word start outer behind around k isPlain c rest separates
  rw [spelled, List.cons_append] at cut ⊢
  rw [trimmed, cut]
  exact ⟨_, rfl, rfl, same, rfl⟩

theorem cuts_spanEnd (same : opened.map Frame.ofOpened = .span :: frames)
    (all : ∀ c ∈ blanks, Text.isBlank c = true) (rest : List Char) :
    Cuts opened (blanks ++ '\x7d' :: rest) .spanEnd frames rest := by
  obtain ⟨start, outer, rfl, below⟩ := opened_span same
  intro offset
  obtain ⟨behind, trimmed⟩ := step_span start outer offset blanks '\x7d' rest all (by decide)
  rw [trimmed]
  exact ⟨_, rfl, rfl, below, rfl⟩

theorem cuts_quote (same : opened.map Frame.ofOpened = .span :: frames)
    (all : ∀ c ∈ blanks, Text.isBlank c = true) (rest : List Char) :
    Cuts opened (blanks ++ '\'' :: rest) .templateStart (.quote :: .span :: frames) rest := by
  obtain ⟨start, outer, rfl, below⟩ := opened_span same
  intro offset
  obtain ⟨behind, trimmed⟩ := step_span start outer offset blanks '\'' rest all (by decide)
  rw [trimmed]
  exact ⟨_, rfl, rfl, congrArg _ same, rfl⟩

end Span

theorem cuts_unquote {opened : List Opened} {frames : List Frame}
    (same : opened.map Frame.ofOpened = .quote :: frames) (rest : List Char) :
    Cuts opened ('\'' :: rest) .templateEnd frames rest := by
  obtain ⟨start, outer, rfl, below⟩ := opened_quote same
  intro offset
  exact ⟨_, rfl, rfl, below, rfl⟩

/-- Outside spans there is the source itself or a quoted template. -/
theorem step_template {opened : List Opened} {frames : List Frame}
    (same : opened.map Frame.ofOpened = frames) (outside : frames.head? ≠ some .span) (offset : Nat)
    (c : Char) (cs : List Char) (noQuote : ¬ ((frames.head? == some .quote) = true ∧ c = '\'')) :
    ∃ quote : Option Nat, quote.isSome = (frames.head? == some .quote) ∧
      step opened offset (c :: cs) = (templateStep quote opened offset (c :: cs)).map some := by
  subst same
  cases opened with
  | nil => exact ⟨none, rfl, rfl⟩
  | cons first outer =>
      cases first with
      | span start => exact absurd rfl outside
      | quote start =>
          refine ⟨some start, rfl, ?_⟩
          unfold step
          simp only
          rw [if_neg fun quote => noQuote ⟨rfl, quote⟩]

theorem cuts_spanStart {opened : List Opened} {frames : List Frame}
    (same : opened.map Frame.ofOpened = frames) (outside : frames.head? ≠ some .span) (rest : List Char) :
    Cuts opened ('@' :: '\x7b' :: rest) .spanStart (.span :: frames) rest := by
  intro offset
  obtain ⟨quote, -, template⟩ := step_template same outside offset '@' ('\x7b' :: rest) (by simp)
  rw [template]
  exact ⟨_, rfl, rfl, congrArg _ same, rfl⟩

theorem cuts_text {opened : List Opened} {frames : List Frame}
    (same : opened.map Frame.ofOpened = frames) (outside : frames.head? ≠ some .span) (content : String)
    (present : content ≠ "") (tail : List Char) (ends : EndsText (frames.head? == some .quote) tail) :
    Cuts opened (escape (frames.head? == some .quote) content.toList ++ tail) (.text content) frames
      tail := by
  intro offset
  obtain ⟨c, cs, spelled⟩ := List.exists_cons_of_ne_nil (mt String.toList_eq_nil_iff.mp present)
  obtain ⟨d, rest, first, noSpan, noQuote⟩ := escape_first _ c cs tail ends
  obtain ⟨quote, quoted, template⟩ := step_template same outside offset d rest noQuote
  rw [← quoted] at ends
  obtain ⟨next, read⟩ := readText_escape quote content.toList tail ends offset
  rw [quoted, spelled, first] at read
  rw [spelled, first, template]
  have text : templateStep quote opened offset (d :: rest) =
      .ok ⟨⟨.text (String.ofList content.toList), offset⟩, opened, next, tail⟩ := by
    unfold templateStep
    split
    next more brace =>
      cases brace
      exact absurd ⟨rfl, rfl⟩ noSpan
    next => rw [read, spelled]; rfl
  rw [text, String.ofList_toList]
  exact ⟨_, rfl, rfl, same, rfl⟩

theorem gap_of_outside (edge : List Char) {opened : List Frame} (outside : opened.head? ≠ some .span)
    (previous next : TokenKind) : gap edge opened previous next = [] := by
  unfold gap
  split
  · exact absurd rfl outside
  · exact absurd rfl outside
  · exact absurd rfl outside
  · rfl

theorem isBlank_of_mem_gap (edge : List Char) (blank : ∀ c ∈ edge, Text.isBlank c = true)
    (opened : List Frame) (previous next : TokenKind) :
    ∀ c ∈ gap edge opened previous next, Text.isBlank c = true := by
  unfold gap
  split
  · exact blank
  · exact blank
  · intro c member
    rw [List.mem_singleton.mp member]
    decide
  · exact fun _ member => nomatch member

theorem Plain.ne_spanStart {k : TokenKind} (isPlain : Plain k) : k ≠ .spanStart := by
  rintro rfl
  cases isPlain with
  | symbol _ symbol => cases symbol

theorem Plain.ne_spanEnd {k : TokenKind} (isPlain : Plain k) : k ≠ .spanEnd := by
  rintro rfl
  cases isPlain with
  | symbol _ symbol => cases symbol

theorem after_plain (opened : List Frame) (k : TokenKind) (isPlain : Plain k) : after opened k = opened := by
  unfold after
  split
  · exact absurd rfl isPlain.ne_spanStart
  · exact absurd rfl isPlain.ne_spanEnd
  · cases isPlain with
    | symbol _ symbol => cases symbol
  · cases isPlain with
    | symbol _ symbol => cases symbol
  · rfl

theorem gap_of_inside (edge : List Char) (opened : List Frame) {previous next : TokenKind}
    (isPlain : Plain previous) (other : next ≠ .spanEnd) :
    gap edge (.span :: opened) previous next = [' '] := by
  unfold gap
  split
  · exact absurd rfl isPlain.ne_spanStart
  · exact absurd rfl other
  · rfl
  next unopened _ _ => exact absurd rfl (unopened opened)

/-- Behind a token inside a span, the next one is kept apart. -/
theorem separated_of_nested (edge : List Char) (blank : ∀ c ∈ edge, Text.isBlank c = true)
    {opened : List Frame} {ks : List TokenKind} (nested : Nested (.span :: opened) ks)
    (previous : TokenKind) (isPlain : Plain previous) :
    ∃ c rest, spellFrom edge (.span :: opened) previous ks = c :: rest ∧ Separates c := by
  have space : Separates ' ' := separates_of_isBlank ' ' (by decide)
  cases nested with
  | text content outside => exact absurd rfl outside
  | spanStart outside => exact absurd rfl outside
  | @spanEnd _ ks rest =>
      have ending : gap edge (.span :: opened) previous .spanEnd = edge := by
        cases previous <;> rfl
      rw [spellFrom, ending]
      cases edge with
      | nil => exact ⟨'\x7d', _, rfl, separates_brace⟩
      | cons c more => exact ⟨c, _, rfl, separates_of_isBlank c (blank c List.mem_cons_self)⟩
  | quote rest =>
      rw [spellFrom, gap_of_inside edge opened isPlain (by simp)]
      exact ⟨_, _, rfl, space⟩
  | plain k isPlainNext rest =>
      rw [spellFrom, gap_of_inside edge opened isPlain isPlainNext.ne_spanEnd]
      exact ⟨_, _, rfl, space⟩

theorem endsText_of_nested (edge : List Char) {opened : List Frame} {ks : List TokenKind}
    (nested : Nested opened ks) (outside : opened.head? ≠ some .span)
    (alone : ∀ other, ks.head? ≠ some (.text other)) (previous : TokenKind) :
    EndsText (opened.head? == some .quote) (spellFrom edge opened previous ks) := by
  cases nested with
  | done => exact .done
  | text content => exact absurd rfl (alone content)
  | spanStart =>
      rw [spellFrom, gap_of_outside edge outside]
      exact .span _
  | spanEnd => exact absurd rfl outside
  | quote => exact absurd rfl outside
  | unquote =>
      rw [spellFrom, gap_of_outside edge outside]
      exact .quote rfl _
  | plain k => exact absurd rfl outside

/-- By induction on the tokens, with the frames that are open before each. -/
theorem lexes_spellFrom (edge : List Char) (blank : ∀ c ∈ edge, Text.isBlank c = true)
    {opened : List Frame} {ks : List TokenKind} (nested : Nested opened ks) (previous : TokenKind) :
    Lexes opened (spellFrom edge opened previous ks) ks := by
  induction nested generalizing previous with
  | done => exact lexes_end
  | @text opened ks content outside present alone rest ih =>
      have ends := endsText_of_nested edge rest outside alone (.text content)
      have unchanged : after opened (.text content) = opened := by
        unfold after
        split <;> first | rfl | contradiction
      obtain ⟨c, cs, spelled⟩ := List.exists_cons_of_ne_nil (mt String.toList_eq_nil_iff.mp present)
      obtain ⟨d, more, first, -⟩ := escape_first _ c cs [] .done
      rw [List.append_nil] at first
      rw [spellFrom, gap_of_outside edge outside, unchanged]
      refine .cons ?_ (fun opened same => cuts_text same outside content present _ ends) (ih _)
      rw [show word opened (.text content) = _ from congrArg (escape _) spelled, first]
      exact List.cons_ne_nil d more
  | @spanStart opened ks outside rest ih =>
      rw [spellFrom, gap_of_outside edge outside]
      exact .cons (List.cons_ne_nil _ _) (fun opened same => cuts_spanStart same outside _) (ih .spanStart)
  | @spanEnd opened ks rest ih =>
      have all := isBlank_of_mem_gap edge blank (.span :: opened) previous .spanEnd
      rw [spellFrom]
      exact .cons (List.cons_ne_nil _ _) (fun opened same => cuts_spanEnd same all _) (ih .spanEnd)
  | @quote opened ks rest ih =>
      have all := isBlank_of_mem_gap edge blank (.span :: opened) previous .templateStart
      rw [spellFrom]
      exact .cons (List.cons_ne_nil _ _) (fun opened same => cuts_quote same all _) (ih .templateStart)
  | @unquote opened ks rest ih =>
      rw [spellFrom]
      exact .cons (List.cons_ne_nil _ _) (fun opened same => cuts_unquote same _) (ih .templateEnd)
  | @plain opened ks k isPlain rest ih =>
      have all := isBlank_of_mem_gap edge blank (.span :: opened) previous k
      obtain ⟨c, tail, spelled, separates⟩ := separated_of_nested edge blank rest k isPlain
      obtain ⟨d, more, first, -⟩ := word_first (.span :: opened) k isPlain
      have further := ih k
      rw [spellFrom, after_plain _ k isPlain]
      rw [spelled] at further ⊢
      refine .cons ?_ (fun opened same => cuts_plain same all _ k isPlain c tail separates) further
      rw [first]
      exact List.cons_ne_nil d more

/-- Tokenizing undoes spelling: properly nested tokens, spelled with a space between neighbours inside a
span and the same blanks, or none, at both ends of each, are the tokens of that source, and the end of
input follows them. -/
theorem tokenize_spell (edge : List Char) (blank : ∀ c ∈ edge, Text.isBlank c = true)
    (ks : List TokenKind) (nested : ProperlyNested ks) :
    ∃ tokens, tokenize (spell edge ks) = .ok tokens ∧ tokens.map (·.kind) = ks ++ [.endOfInput] := by
  obtain ⟨body, rfl, nested⟩ := nested
  obtain ⟨tokens, ran, kinds⟩ := lexes_spellFrom edge blank nested .templateStart [] 0 _ rfl
    (Nat.lt_succ_self _)
  refine ⟨⟨.templateStart, 0⟩ :: tokens, ?_, ?_⟩
  · unfold tokenize
    simp only [spell, String.toList_ofList]
    rw [show spellFrom edge [] .templateStart (.templateStart :: body) =
      spellFrom edge [] .templateStart body from rfl, ran]
    rfl
  · rw [List.map_cons, kinds]
    rfl

/-- Text before a span ends in an at sign, and quotes inside a span hold a quote and a span. -/
theorem tokenize_spell_of_quotes :
    ∃ (ks : List TokenKind) (tokens : List Token), ProperlyNested ks ∧
      spell [] ks = "a\\@\x7b@@\x7bx !: 'it\\'s@\x7b7\x7d'\x7d" ∧
      tokenize (spell [] ks) = .ok tokens ∧ tokens.map (·.kind) = ks ++ [.endOfInput] := by
  let quoted : List TokenKind :=
    [.templateStart, .text "it's", .spanStart, .integer 7, .spanEnd, .templateEnd]
  let ks : List TokenKind := [.templateStart, .text "a@\x7b@", .spanStart, .identifier "x", .rescue] ++
    quoted ++ [.spanEnd, .templateEnd]
  have letters : "x".toList = ['x'] := by decide
  have alphanumeric : ∀ c ∈ "x".toList, c.isAlphanum = true ∨ c = '_' := by
    rw [letters]
    intro c member
    rw [List.mem_singleton.mp member]
    decide
  have name : IsName "x" := ⟨⟨'x', [], letters, .inl rfl⟩, alphanumeric, by decide, by decide⟩
  have seven : Plain (.integer 7) := .integer 7 (by decide)
  have nested : ProperlyNested ks := by
    refine ⟨_, rfl, ?_⟩
    refine .text _ (by simp) (by decide) (by simp) (.spanStart (by simp) ?_)
    refine .plain _ (.identifier _ name) (.plain _ (.symbol _ rfl) (.quote ?_))
    refine .text _ (by simp) (by decide) (by simp) (.spanStart (by simp) ?_)
    exact .plain _ seven (.spanEnd (.unquote (.spanEnd .done)))
  obtain ⟨tokens, cut, kinds⟩ := tokenize_spell [] (fun _ member => nomatch member) ks nested
  exact ⟨ks, tokens, nested, by decide +kernel, cut, kinds⟩

end CardExpr.Spelling
