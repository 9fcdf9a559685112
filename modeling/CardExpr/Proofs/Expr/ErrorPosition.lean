import CardExpr.Proofs.Expr.Correctness
import CardExpr.Proofs.Expr.Viability

/-!
Where the parser fails. An error is about the first token that cannot be part of any accepted list, but for
the end of a list right behind a dot.
-/

namespace CardExpr

open Grammar

/-- The tokens can be gone on with to a list that is accepted, and in which no token ends the input. -/
def IsViable (parse : List Token → Except ParseError Expr) (ts : List Token) : Prop :=
  ∃ more tree, (∀ t ∈ ts ++ more, t.kind ≠ .endOfInput) ∧ parse (ts ++ more) = .ok tree

/-- No list that is accepted begins with the tokens. -/
def IsHopeless (parse : List Token → Except ParseError Expr) (ts : List Token) : Prop :=
  ∀ more tree, parse (ts ++ more) ≠ .ok tree

theorem Grammar.Derives.inside {ks : List TokenKind} {phrase : Phrase} (derives : Derives ks phrase) :
    ∀ k ∈ ks, Parser.isEndOfInput k = false := by
  induction derives with
  | operation left operator right ihLeft ihRight =>
      have between := operator.inside.1
      simp_all [or_imp]
  | sign sign inner ih =>
      have first := sign.inside
      simp_all
  | _ => simp_all [Parser.isEndOfInput, or_imp]

namespace Parser

/-- Of an observed failure the token that it is about, for all other runs at once. -/
theorem Foretells.located {α : Type} {p : Parser α} {q : Nat → Parser α} {c c' : Cursor}
    {V : List TokenKind → Prop} {e : ParseError} (foretells : ∀ other, Foretells p (q other) c V)
    (failed : p c = .error e c') :
    ∃ before found after, c.tokens = before ++ found :: after ∧ V (kinds before) ∧
      Blames e before found after ∧ ∀ other, Rejects (q other) (before ++ [found]) := by
  simp only [Foretells, failed] at foretells
  obtain ⟨before, found, after, split, taken, holds, blames, -⟩ := foretells 0
  refine ⟨before, found, after, split, holds, blames, fun other => ?_⟩
  obtain ⟨before', found', after', split', taken', -, -, rejects⟩ := foretells other
  have length : before.length = before'.length := by omega
  obtain ⟨rfl, rest⟩ := List.append_inj (split.symm.trans split') length
  rwa [(List.cons.inj rest).1]

theorem closed_eq (tokens : List Token) :
    ∃ init last, closed tokens = init ++ [last] ∧ last.kind = .endOfInput ∧ init.length ≤ tokens.length := by
  unfold closed
  cases found : tokens.getLast? with
  | none => exact ⟨[], _, rfl, rfl, Nat.zero_le _⟩
  | some last =>
      obtain ⟨init, rfl⟩ := List.getLast?_eq_some_iff.mp found
      dsimp only
      cases ends : isEndOfInput last.kind with
      | true => exact ⟨init, last, rfl, only_endOfInput _ ends, by simp⟩
      | false => exact ⟨init ++ [last], _, rfl, rfl, Nat.le_refl _⟩

theorem prefix_closed (tokens : List Token) : tokens <+: closed tokens := by
  unfold closed
  cases found : tokens.getLast? with
  | none =>
      rw [List.getLast?_eq_none_iff.mp found]
      exact List.nil_prefix
  | some last =>
      dsimp only
      split
      · exact List.prefix_rfl
      · exact List.prefix_append _ _

theorem tokens_start (tokens : List Token) : (start tokens).tokens = closed tokens := by
  obtain ⟨init, last, all, -⟩ := closed_eq tokens
  unfold start
  cases whole : closed tokens with
  | nil =>
      rw [whole] at all
      exact absurd all.symm (List.append_ne_nil_of_right_ne_nil init (List.cons_ne_nil last []))
  | cons current ahead => rfl

theorem exists_left_start (tokens : List Token) :
    ∃ ks, Left (start tokens) ks ∧ ks.length ≤ tokens.length := by
  obtain ⟨init, last, all, ends, short⟩ := closed_eq tokens
  refine ⟨kinds init, ?_, by rwa [kinds, List.length_map]⟩
  show kinds (start tokens).tokens = _
  rw [tokens_start, all, kinds_append, ← ends]
  rfl

theorem opens_start (ts more : List Token) : Opens ts (start (ts ++ more)) := by
  unfold Opens
  rw [tokens_start]
  exact ((List.prefix_append ts more).trans (prefix_closed _)).map _

def finish (e : Expr) : Parser Expr := do
  if isEndOfInput (← peek) then pure e else fail .endOfInput

/-- A whole source, but that its last token stays. -/
def wholeSource (fuel : Nat) : Parser Expr := template false fuel >>= finish

theorem parseTokens_eq_run : parseTokens = run wholeSource := by
  funext tokens
  unfold parseTokens run EStateM.run source wholeSource
  dsimp only [bind, EStateM.bind]
  cases template false (fuelFor tokens) (start tokens) with
  | error e c => rfl
  | ok e c =>
      have taken : expect isEndOfInput .endOfInput c =
          (if isEndOfInput c.current.kind then advance else fail .endOfInput) c := rfl
      have kept : finish e c =
        (if isEndOfInput c.current.kind then Pure.pure e else fail .endOfInput : Parser Expr) c :=
        rfl
      dsimp only
      rw [taken, kept]
      cases isEndOfInput c.current.kind <;> rfl

theorem foretells_wholeSource {fuel : Nat} {c : Cursor} {ks : List TokenKind} (left : Left c ks)
    (enough : 16 * ks.length + 1 ≤ fuel) (other : Nat) :
    Foretells (wholeSource fuel) (wholeSource other) c (Extends (.template false)) := by
  refine .bind left ((soundAt fuel).template false ks)
    ((foretellsAt fuel).template false c ks other left enough) fun e c' used rest split behind derives => ?_
  unfold finish
  refine .peek ?_
  split
  · exact .pure _ _ _
  · exact .fail (by decide) (by simpa using derives.extends)

theorem run_eq_error {α : Type} (parser : Nat → Parser α) (tokens : List Token) (e : ParseError) :
    run parser tokens = .error e ↔ ∃ c, parser (fuelFor tokens) (start tokens) = .error e c := by
  unfold run EStateM.run
  cases parser (fuelFor tokens) (start tokens) with
  | ok value c => exact ⟨nofun, fun ⟨_, same⟩ => nomatch same⟩
  | error error c =>
      constructor
      · intro same
        cases same
        exact ⟨c, rfl⟩
      · rintro ⟨_, same⟩
        cases same
        rfl

theorem located_of_run {parser : Nat → Parser Expr} (phrase : Expr → Phrase) {tokens : List Token}
    {e : ParseError}
    (foretells : ∀ ks, Left (start tokens) ks → 16 * ks.length + 12 ≤ fuelFor tokens → ∀ other,
      Foretells (parser (fuelFor tokens)) (parser other) (start tokens) (Extends phrase))
    (failed : run parser tokens = .error e) :
    ∃ before found after, closed tokens = before ++ found :: after ∧ Extends phrase (kinds before) ∧
      IsHopeless (run parser) (before ++ [found]) ∧ Blames e before found after := by
  obtain ⟨ks, left, short⟩ := exists_left_start tokens
  have enough : 16 * ks.length + 12 ≤ fuelFor tokens := by
    unfold fuelFor
    omega
  obtain ⟨c', ran⟩ := (run_eq_error parser tokens e).mp failed
  obtain ⟨before, found, after, split, begins, blames, rejects⟩ :=
    Foretells.located (foretells ks left enough) ran
  rw [tokens_start] at split
  refine ⟨before, found, after, split, begins, fun more tree accepted => ?_, blames⟩
  obtain ⟨c'', taken⟩ := (run_eq_ok parser _ tree).mp accepted
  exact rejects _ _ tree c'' (opens_start _ more) taken

theorem completes_run {parser : Nat → Parser Expr} {tokens : List Token} {e : Expr}
    (only : ∀ t ∈ tokens.dropLast, isEndOfInput t.kind = false)
    (reads : Reads (parser (fuelFor tokens)) (kindsOf tokens) e []) : run parser tokens = .ok e := by
  obtain ⟨c, done, -⟩ := reads (start tokens) (left_start tokens only)
  exact (run_eq_ok parser tokens e).mpr ⟨c, done⟩

theorem isViable_of_extends {parse : List Token → Except ParseError Expr} {phrase : Expr → Phrase}
    (accepts : ∀ tokens e, (∀ t ∈ tokens, isEndOfInput t.kind = false) →
      Derives (tokens.map (·.kind)) (phrase e) → parse tokens = .ok e)
    {before : List Token} (begins : Extends phrase (kinds before)) : IsViable parse before := by
  obtain ⟨more, e, derives⟩ := begins
  let rest : List Token := more.map fun k => ⟨k, 0⟩
  have same : (before ++ rest).map (·.kind) = kinds before ++ more := by
    simp [rest, kinds, Function.comp_def]
  have inside : ∀ t ∈ before ++ rest, isEndOfInput t.kind = false := fun t member =>
    derives.inside t.kind (same ▸ List.mem_map_of_mem member)
  refine ⟨rest, e, fun t member ends => ?_, accepts _ e inside (same ▸ derives)⟩
  have other := inside t member
  rw [ends] at other
  cases other

theorem parseTokens_of_derives (tokens : List Token) (e : Expr)
    (inside : ∀ t ∈ tokens, isEndOfInput t.kind = false)
    (derives : Derives (tokens.map (·.kind)) (.template false e)) : parseTokens tokens = .ok e := by
  rw [← kindsOf_eq_map tokens inside] at derives
  exact (parseTokens_iff tokens (fun t member => inside t (List.dropLast_subset tokens member)) e).mpr derives

theorem parseExpression_of_derives (tokens : List Token) (e : Expr)
    (inside : ∀ t ∈ tokens, isEndOfInput t.kind = false)
    (derives : Derives (tokens.map (·.kind)) (.ternary e)) : parseExpression tokens = .ok e := by
  rw [← kindsOf_eq_map tokens inside] at derives
  have le := length_kindsOf_le tokens
  have reads := completes derives [] (fuelFor tokens) Nat.zero_lt_one (by unfold fuelFor; omega)
  rw [List.append_nil] at reads
  exact completes_run (fun t member => inside t (List.dropLast_subset tokens member)) reads

end Parser

/-- An error of the parser, of whole sources as of expressions, is about one of the tokens. Those before it
can be gone on with to a list that is accepted; none is accepted that begins with them and the token itself.
The error holds that token, but where it asks for the name of a method and the list ends: there it holds the
dot before the end. -/
theorem parseErrors_firstOffender :
    ∀ parse ∈ [parseTokens, parseExpression], ∀ tokens e, parse tokens = .error e →
      ∃ before found after, Parser.closed tokens = before ++ found :: after ∧ IsViable parse before ∧
        IsHopeless parse (before ++ [found]) ∧ Parser.Blames e before found after := by
  intro parse either tokens e failed
  simp only [List.mem_cons, List.not_mem_nil, or_false] at either
  rcases either with rfl | rfl
  · rw [Parser.parseTokens_eq_run] at failed
    obtain ⟨before, found, after, split, begins, hopeless, blames⟩ :=
      Parser.located_of_run (.template false)
        (fun ks left enough other => Parser.foretells_wholeSource left (by omega) other) failed
    rw [← Parser.parseTokens_eq_run] at hopeless
    exact ⟨before, found, after, split, Parser.isViable_of_extends Parser.parseTokens_of_derives begins,
      hopeless, blames⟩
  · obtain ⟨before, found, after, split, begins, hopeless, blames⟩ :=
      Parser.located_of_run .ternary
        (fun ks left enough other => (Parser.foretellsAt _).ternary _ ks other left enough) failed
    exact ⟨before, found, after, split, Parser.isViable_of_extends Parser.parseExpression_of_derives begins,
      hopeless, blames⟩

/-- An argument may follow a comma, and nothing goes on with a comma and a parenthesis. -/
theorem parseErrors_firstOffender_of_trailing_comma :
    ∃ tokens e before after, parseExpression tokens = .error e ∧
      Parser.closed tokens = before ++ e.found :: after ∧ e.found = ⟨.closeParen, 4⟩ ∧
      IsViable parseExpression before ∧ IsHopeless parseExpression (before ++ [e.found]) := by
  let tokens : List Token := [⟨.identifier "f", 0⟩, ⟨.openParen, 1⟩, ⟨.integer 1, 2⟩, ⟨.comma, 3⟩,
    ⟨.closeParen, 4⟩, ⟨.endOfInput, 5⟩]
  have failed : parseExpression tokens = .error ⟨.expression, ⟨.closeParen, 4⟩⟩ := rfl
  obtain ⟨before, found, after, split, viable, hopeless, blames⟩ :=
    parseErrors_firstOffender parseExpression (by simp) tokens _ failed
  cases blames with
  | found same inside =>
      subst same
      exact ⟨tokens, _, before, after, failed, split, rfl, viable, hopeless⟩
  | point init named last behind point => cases named

/-- Where the list ends behind a dot, the error is about the dot, and the dot can be gone on with. -/
theorem parseExpression_error_at_point :
    ∃ tokens e, (∀ t ∈ tokens.dropLast, t.kind ≠ .endOfInput) ∧ parseExpression tokens = .error e ∧
      ¬ ∃ before found after, Parser.closed tokens = before ++ found :: after ∧
        found.offset = e.found.offset ∧ found.kind.describe = e.found.kind.describe ∧
        IsViable parseExpression before ∧ IsHopeless parseExpression (before ++ [found]) := by
  let tokens : List Token := [⟨.identifier "a", 0⟩, ⟨.dot, 1⟩, ⟨.endOfInput, 2⟩]
  let more : List Token := [⟨.identifier "m", 2⟩, ⟨.openParen, 3⟩, ⟨.closeParen, 4⟩]
  have failed : parseExpression tokens = .error ⟨.methodName, ⟨.dot, 1⟩⟩ := rfl
  have accepted : parseExpression (tokens.take 2 ++ more) = .ok (.method (.variable "a") "m" []) := rfl
  have whole : Parser.closed tokens = tokens := rfl
  refine ⟨tokens, _, by simp [tokens], failed, ?_⟩
  rintro ⟨before, found, after, split, offset, -, -, hopeless⟩
  rw [whole] at split
  refine hopeless more _ (Eq.trans (congrArg (fun ts => parseExpression (ts ++ more)) ?_) accepted)
  show before ++ [found] = [⟨.identifier "a", 0⟩, ⟨.dot, 1⟩]
  simp only [tokens, List.cons_eq_append_iff] at split
  obtain ⟨-, same⟩ | ⟨_, rfl, ⟨rfl, same⟩ | ⟨_, rfl, ⟨-, same⟩ | ⟨_, -, none⟩⟩⟩ := split
  · cases same
    cases offset
  · cases same
    rfl
  · cases same
    cases offset
  · exact absurd none.symm (List.append_ne_nil_of_right_ne_nil _ (List.cons_ne_nil _ _))

end CardExpr
