import CardExpr.Proofs.Expr.Completeness
import CardExpr.Proofs.Expr.Soundness

/-! The parser accepts exactly what the grammar derives, and builds the tree that it derives. -/

namespace CardExpr

open Grammar

/-- The kinds of the tokens without the end of input. -/
def kindsOf (tokens : List Token) : List TokenKind :=
  (tokens.map (·.kind)).filter fun k => !Parser.isEndOfInput k

namespace Parser

theorem kindsOf_eq_map (tokens : List Token) (inside : ∀ t ∈ tokens, isEndOfInput t.kind = false) :
    kindsOf tokens = tokens.map (·.kind) := by
  unfold kindsOf
  rw [List.filter_eq_self]
  intro k member
  obtain ⟨t, present, rfl⟩ := List.mem_map.mp member
  rw [inside t present]
  rfl

theorem kindsOf_concat (tokens : List Token) (last : Token) :
    kindsOf (tokens ++ [last]) =
      kindsOf tokens ++ if isEndOfInput last.kind then [] else [last.kind] := by
  unfold kindsOf
  rw [List.map_append, List.filter_append]
  cases ends : isEndOfInput last.kind <;> simp [ends]

theorem map_kind_closed (tokens : List Token)
    (only : ∀ t ∈ tokens.dropLast, isEndOfInput t.kind = false) :
    (closed tokens).map (·.kind) = kindsOf tokens ++ [.endOfInput] := by
  unfold closed
  cases found : tokens.getLast? with
  | none =>
      rw [List.getLast?_eq_none_iff.mp found]
      rfl
  | some last =>
      obtain ⟨init, rfl⟩ := List.getLast?_eq_some_iff.mp found
      rw [List.dropLast_concat] at only
      rw [kindsOf_concat, kindsOf_eq_map init only]
      cases ends : isEndOfInput last.kind with
      | true => simp [only_endOfInput last.kind ends, isEndOfInput]
      | false => simp [ends]

theorem left_start (tokens : List Token) (only : ∀ t ∈ tokens.dropLast, isEndOfInput t.kind = false) :
    Left (start tokens) (kindsOf tokens) := by
  have kinds := map_kind_closed tokens only
  unfold Left start
  cases all : closed tokens with
  | nil =>
      rw [all] at kinds
      exact absurd kinds.symm (List.append_ne_nil_of_right_ne_nil _ (List.cons_ne_nil _ []))
  | cons current ahead =>
      rw [all] at kinds
      exact kinds

theorem Left.advance_end {c : Cursor} (left : Left c []) : Left c.advance [] := by
  have behind : c.ahead.map (·.kind) = [] := (List.cons.inj left).2
  unfold Cursor.advance
  rw [List.map_eq_nil_iff.mp behind]
  unfold Left at left ⊢
  rw [List.map_eq_nil_iff.mp behind] at left
  exact left

theorem reads_end (expected : Expected) : Reads (expect isEndOfInput expected) [] () [] := by
  refine .peek ?_
  rw [show isEndOfInput (head []) = true from rfl, if_pos rfl]
  exact fun c left => ⟨c.advance, rfl, left.advance_end⟩

theorem yields_end (expected : Expected) (ks : List TokenKind) :
    Yields (expect isEndOfInput expected) ks fun _ _ => head ks = .endOfInput := by
  refine .peek ?_
  split
  next ends =>
    intro c _ c' left run
    cases run
    cases ks with
    | nil => exact ⟨[], left.advance_end, rfl⟩
    | cons k rest => exact ⟨rest, left.advance, only_endOfInput _ ends⟩
  next => exact .fail expected

/-- A source is taken as a whole: only the end of input may be left. -/
theorem yields_source (fuel : Nat) (ks : List TokenKind) (inside : ∀ k ∈ ks, isEndOfInput k = false) :
    Yields (source fuel) ks fun e _ => Derives ks (.template false e) := by
  unfold source
  refine .bind ((soundAt fuel).template false ks) fun e rest takes => ?_
  obtain ⟨used, rfl, derives⟩ := takes
  refine .bind (yields_end .endOfInput rest) fun _ _ ends => .pure ?_
  cases rest with
  | nil => rwa [List.append_nil]
  | cons k more =>
      have other := inside k (List.mem_append_right used List.mem_cons_self)
      rw [show k = .endOfInput from ends] at other
      cases other

theorem reads_source (fuel : Nat) (ks : List TokenKind) (e : Expr)
    (derives : Derives ks (.template false e)) (enough : 16 * ks.length ≤ fuel) :
    Reads (source fuel) ks e [] := by
  have whole := completes derives [] fuel enough
  rw [List.append_nil] at whole
  exact .bind whole (.bind (reads_end .endOfInput) (.pure e []))

theorem length_kindsOf_le (tokens : List Token) : (kindsOf tokens).length ≤ tokens.length := by
  unfold kindsOf
  calc
    _ ≤ (tokens.map (·.kind)).length := List.length_filter_le _ _
    _ = tokens.length := List.length_map _

theorem run_eq_ok {α : Type} (parser : Nat → Parser α) (tokens : List Token) (a : α) :
    run parser tokens = .ok a ↔ ∃ c, parser (fuelFor tokens) (start tokens) = .ok a c := by
  unfold run EStateM.run
  cases parser (fuelFor tokens) (start tokens) with
  | ok value c =>
      constructor
      · intro same
        cases same
        exact ⟨c, rfl⟩
      · rintro ⟨_, same⟩
        cases same
        rfl
  | error error c =>
      constructor
      · intro same
        cases same
      · rintro ⟨_, same⟩
        cases same

theorem parseTokens_iff (tokens : List Token)
    (only : ∀ t ∈ tokens.dropLast, isEndOfInput t.kind = false) (e : Expr) :
    parseTokens tokens = .ok e ↔ Derives (kindsOf tokens) (.template false e) := by
  have left := left_start tokens only
  unfold parseTokens
  rw [run_eq_ok]
  constructor
  · rintro ⟨c, done⟩
    have inside : ∀ k ∈ kindsOf tokens, isEndOfInput k = false := fun k member => by
      simpa using (List.mem_filter.mp member).2
    obtain ⟨_, -, derives⟩ := yields_source _ _ inside (start tokens) e c left done
    exact derives
  · intro derives
    have enough : 16 * (kindsOf tokens).length ≤ fuelFor tokens := by
      have le := length_kindsOf_le tokens
      unfold fuelFor
      omega
    obtain ⟨c, done, -⟩ := reads_source _ _ e derives enough (start tokens) left
    exact ⟨c, done⟩

end Parser

/-- Where at most the last token ends the input, the parser accepts the tokens with a tree if and only if
the grammar derives them as a source of that tree; and there is no other such tree. -/
theorem parseTokens_iff_derives (tokens : List Token)
    (only : ∀ t ∈ tokens.dropLast, t.kind ≠ .endOfInput) :
    (∀ e, parseTokens tokens = .ok e ↔ Derives (kindsOf tokens) (.template false e)) ∧
      ∀ d e, Derives (kindsOf tokens) (.template false d) →
        Derives (kindsOf tokens) (.template false e) → d = e := by
  have inside : ∀ t ∈ tokens.dropLast, Parser.isEndOfInput t.kind = false := by
    intro t member
    rw [Bool.eq_false_iff]
    exact fun ends => only t member (Parser.only_endOfInput t.kind ends)
  have accepts := Parser.parseTokens_iff tokens inside
  refine ⟨accepts, fun d e first second => ?_⟩
  exact Except.ok.inj (((accepts d).mpr first).symm.trans ((accepts e).mpr second))

/-- Differences group to the left only, and a template needs its end. -/
theorem parseTokens_iff_derives_of_difference :
    ∃ (whole cut : List Token) (left right : Expr),
      (∀ t ∈ whole.dropLast, t.kind ≠ .endOfInput) ∧ (∀ t ∈ cut.dropLast, t.kind ≠ .endOfInput) ∧
      left = .binary .subtract (.binary .subtract (.integer 3) (.integer 2)) (.integer 1) ∧
      right = .binary .subtract (.integer 3) (.binary .subtract (.integer 2) (.integer 1)) ∧
      parseTokens whole = .ok left ∧ Derives (kindsOf whole) (.template false left) ∧
      ¬ Derives (kindsOf whole) (.template false right) ∧
      ∀ e, ¬ Derives (kindsOf cut) (.template false e) := by
  let inner : List TokenKind :=
    [.templateStart, .spanStart, .integer 3, .minus, .integer 2, .minus, .integer 1, .spanEnd]
  let cut : List Token := inner.map fun k => ⟨k, 0⟩
  let whole : List Token := cut ++ [⟨.templateEnd, 0⟩, ⟨.endOfInput, 0⟩]
  let left : Expr := .binary .subtract (.binary .subtract (.integer 3) (.integer 2)) (.integer 1)
  let right : Expr := .binary .subtract (.integer 3) (.binary .subtract (.integer 2) (.integer 1))
  have apart : left ≠ right := by simp [left, right]
  have wholeOnly : ∀ t ∈ whole.dropLast, t.kind ≠ .endOfInput := by simp [whole, cut, inner]
  have cutOnly : ∀ t ∈ cut.dropLast, t.kind ≠ .endOfInput := by simp [cut, inner]
  have accepted : parseTokens whole = .ok left := rfl
  have derives := ((parseTokens_iff_derives whole wholeOnly).1 left).mp accepted
  refine ⟨whole, cut, left, right, wholeOnly, cutOnly, rfl, rfl, accepted, derives, ?_, ?_⟩
  · exact fun other => apart ((parseTokens_iff_derives whole wholeOnly).2 left right derives other)
  · intro e derives
    have accepted := ((parseTokens_iff_derives cut cutOnly).1 e).mpr derives
    cases (show parseTokens cut = .error ⟨.textOrSpan, ⟨.endOfInput, 0⟩⟩ from rfl).symm.trans accepted

end CardExpr
