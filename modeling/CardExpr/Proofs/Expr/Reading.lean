import CardExpr.Expr.Parser

/-! Parsers by the token kinds that they take: what a run must leave, and what it can only leave. -/

namespace CardExpr.Parser

variable {α β : Type}

/-- The kinds that the cursor has before it, up to the end of input. -/
def Left (c : Cursor) (ks : List TokenKind) : Prop :=
  (c.current :: c.ahead).map (·.kind) = ks ++ [.endOfInput]

/-- The parser takes `a` off these kinds and leaves `rest`. -/
def Reads (p : Parser α) (ks : List TokenKind) (a : α) (rest : List TokenKind) : Prop :=
  ∀ c, Left c ks → ∃ c', p c = .ok a c' ∧ Left c' rest

/-- Whatever the parser takes off these kinds and leaves satisfies `Q`. -/
def Yields (p : Parser α) (ks : List TokenKind) (Q : α → List TokenKind → Prop) : Prop :=
  ∀ c a c', Left c ks → p c = .ok a c' → ∃ rest, Left c' rest ∧ Q a rest

/-- The kind that is looked at. -/
def head (ks : List TokenKind) : TokenKind := ks.headD .endOfInput

theorem Left.kind_eq {c : Cursor} {ks : List TokenKind} (left : Left c ks) : c.current.kind = head ks := by
  unfold Left at left
  cases ks with
  | nil => exact (List.cons.inj left).1
  | cons k rest => exact (List.cons.inj left).1

theorem Left.advance {c : Cursor} {k : TokenKind} {rest : List TokenKind} (left : Left c (k :: rest)) :
    Left c.advance rest := by
  have behind : c.ahead.map (·.kind) = rest ++ [.endOfInput] := (List.cons.inj left).2
  unfold Cursor.advance
  cases ahead : c.ahead with
  | nil =>
      rw [ahead] at behind
      exact absurd behind.symm (List.append_ne_nil_of_right_ne_nil rest (List.cons_ne_nil _ []))
  | cons next more =>
      rw [ahead] at behind
      exact behind

theorem only_templateStart (k : TokenKind) (accepted : isTemplateStart k = true) : k = .templateStart := by
  cases k <;> first | rfl | cases accepted

theorem only_spanEnd (k : TokenKind) (accepted : isSpanEnd k = true) : k = .spanEnd := by
  cases k <;> first | rfl | cases accepted

theorem only_colon (k : TokenKind) (accepted : isColon k = true) : k = .colon := by
  cases k <;> first | rfl | cases accepted

theorem only_openParen (k : TokenKind) (accepted : isOpenParen k = true) : k = .openParen := by
  cases k <;> first | rfl | cases accepted

theorem only_closeParen (k : TokenKind) (accepted : isCloseParen k = true) : k = .closeParen := by
  cases k <;> first | rfl | cases accepted

theorem only_closeBracket (k : TokenKind) (accepted : isCloseBracket k = true) : k = .closeBracket := by
  cases k <;> first | rfl | cases accepted

theorem only_endOfInput (k : TokenKind) (accepted : isEndOfInput k = true) : k = .endOfInput := by
  cases k <;> first | rfl | cases accepted

theorem head_eq_cons {ks : List TokenKind} {k : TokenKind} (looked : head ks = k)
    (inside : isEndOfInput k = false) : ∃ rest, ks = k :: rest := by
  cases ks with
  | nil =>
      subst looked
      cases inside
  | cons first rest => exact ⟨rest, congrArg (· :: rest) looked⟩

theorem bind_eq_ok (p : Parser α) (f : α → Parser β) (c : Cursor) (b : β) (c' : Cursor) :
    (p >>= f) c = .ok b c' ↔ ∃ a between, p c = .ok a between ∧ f a between = .ok b c' := by
  show EStateM.bind p f c = .ok b c' ↔ _
  unfold EStateM.bind
  cases p c with
  | ok a between =>
      constructor
      · exact fun run => ⟨a, between, rfl, run⟩
      · rintro ⟨_, _, same, run⟩
        cases same
        exact run
  | error e between =>
      constructor
      · exact fun run => nomatch run
      · rintro ⟨_, _, same, -⟩
        cases same

namespace Reads

theorem pure (a : α) (ks : List TokenKind) : Reads (Pure.pure a) ks a ks := fun c left => ⟨c, rfl, left⟩

theorem bind {p : Parser α} {f : α → Parser β} {ks between rest : List TokenKind} {a : α} {b : β}
    (first : Reads p ks a between) (second : Reads (f a) between b rest) : Reads (p >>= f) ks b rest := by
  intro c left
  obtain ⟨c₁, run, left⟩ := first c left
  obtain ⟨c₂, further, left⟩ := second c₁ left
  exact ⟨c₂, (bind_eq_ok p f c b c₂).mpr ⟨a, c₁, run, further⟩, left⟩

theorem get {f : Cursor → Parser β} {ks rest : List TokenKind} {b : β}
    (further : ∀ c : Cursor, c.current.kind = head ks → Reads (f c) ks b rest) :
    Reads (MonadState.get >>= f) ks b rest := fun c left => further c left.kind_eq c left

theorem peek {f : TokenKind → Parser β} {ks rest : List TokenKind} {b : β}
    (further : Reads (f (head ks)) ks b rest) : Reads (peek >>= f) ks b rest := by
  intro c left
  have looked := left.kind_eq
  rw [← looked] at further
  exact further c left

theorem advance {f : Unit → Parser β} {k : TokenKind} {ks rest : List TokenKind} {b : β}
    (further : Reads (f ()) ks b rest) : Reads (advance >>= f) (k :: ks) b rest :=
  fun c left => further c.advance left.advance

theorem expect {f : Unit → Parser β} {accepts : TokenKind → Bool} {expected : Expected} {k : TokenKind}
    {ks rest : List TokenKind} {b : β} (accepted : accepts k = true) (further : Reads (f ()) ks b rest) :
    Reads (expect accepts expected >>= f) (k :: ks) b rest := by
  refine bind (peek ?_) further
  rw [show head (k :: ks) = k from rfl, if_pos accepted]
  exact fun c left => ⟨c.advance, rfl, left.advance⟩

end Reads

namespace Yields

theorem pure {a : α} {ks : List TokenKind} {Q : α → List TokenKind → Prop} (holds : Q a ks) :
    Yields (Pure.pure a) ks Q := by
  intro c _ _ left run
  cases run
  exact ⟨ks, left, holds⟩

theorem bind {p : Parser α} {f : α → Parser β} {ks : List TokenKind} {P : α → List TokenKind → Prop}
    {Q : β → List TokenKind → Prop} (first : Yields p ks P)
    (second : ∀ a rest, P a rest → Yields (f a) rest Q) : Yields (p >>= f) ks Q := by
  intro c b c' left run
  obtain ⟨a, between, start, further⟩ := (bind_eq_ok p f c b c').mp run
  obtain ⟨rest, left, holds⟩ := first c a between left start
  exact second a rest holds between b c' left further

theorem mono {p : Parser α} {ks : List TokenKind} {P Q : α → List TokenKind → Prop}
    (yields : Yields p ks P) (weaker : ∀ a rest, P a rest → Q a rest) : Yields p ks Q := by
  intro c a c' left run
  obtain ⟨rest, left, holds⟩ := yields c a c' left run
  exact ⟨rest, left, weaker a rest holds⟩

theorem fail {ks : List TokenKind} {Q : α → List TokenKind → Prop} (expected : Expected) :
    Yields (fail expected) ks Q := fun _ _ _ _ run => nomatch run

theorem get {f : Cursor → Parser β} {ks : List TokenKind} {Q : β → List TokenKind → Prop}
    (further : ∀ c : Cursor, c.current.kind = head ks → Yields (f c) ks Q) :
    Yields (MonadState.get >>= f) ks Q :=
  fun c b c' left run => further c left.kind_eq c b c' left run

theorem peek {f : TokenKind → Parser β} {ks : List TokenKind} {Q : β → List TokenKind → Prop}
    (further : Yields (f (head ks)) ks Q) : Yields (peek >>= f) ks Q := by
  intro c b c' left run
  have looked := left.kind_eq
  rw [← looked] at further
  exact further c b c' left run

theorem advance {f : Unit → Parser β} {k : TokenKind} {rest : List TokenKind}
    {Q : β → List TokenKind → Prop} (further : Yields (f ()) rest Q) :
    Yields (advance >>= f) (k :: rest) Q :=
  fun c b c' left run => further c.advance b c' left.advance run

theorem expect {f : Unit → Parser β} {accepts : TokenKind → Bool} {expected : Expected}
    {kind : TokenKind} {ks : List TokenKind} {Q : β → List TokenKind → Prop}
    (only : ∀ k, accepts k = true → k = kind) (inside : isEndOfInput kind = false)
    (further : ∀ rest, ks = kind :: rest → Yields (f ()) rest Q) :
    Yields (expect accepts expected >>= f) ks Q := by
  refine bind (P := fun _ rest => ks = kind :: rest) (peek ?_) fun _ rest same => further rest same
  split
  next accepted =>
    obtain ⟨rest, rfl⟩ := head_eq_cons (only (head ks) accepted) inside
    intro c _ c' left run
    cases run
    exact ⟨rest, left.advance, rfl⟩
  next => exact fail expected

end Yields

theorem reads_methodName (point : Token) (name : String) (rest : List TokenKind) :
    Reads (methodName point) (.identifier name :: rest) name rest := by
  refine Reads.get fun c looked => ?_
  rw [show c.current.kind = .identifier name from looked]
  exact .advance (.pure name rest)

theorem yields_methodName (point : Token) (ks : List TokenKind) :
    Yields (methodName point) ks fun name rest => ks = .identifier name :: rest := by
  refine Yields.get fun c looked => ?_
  split
  next name found =>
    obtain ⟨rest, rfl⟩ := head_eq_cons (looked.symm.trans found) rfl
    exact .advance (.pure rfl)
  next => exact fun c b c' left run => nomatch run

end CardExpr.Parser
