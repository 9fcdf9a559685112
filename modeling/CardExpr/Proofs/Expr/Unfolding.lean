import CardExpr.Proofs.Expr.ErrorPosition

/-!
The parser without fuel. Every procedure calls others on a shorter list, or on the same one nearer to the
operands; with the fuel that a list is given, what stands for the procedures where it ends is never called.
-/

namespace CardExpr.Parser

/-- Parsers in the place of the procedures. -/
@[ext]
structure Procedures where
  parts : (quoted : Bool) → Parser (List TemplatePart)
  template : (quoted : Bool) → Parser Expr
  ternary : Parser Expr
  rescued : Parser Expr
  binary : (level : Nat) → Parser Expr
  chain : (level : Nat) → (left : Expr) → Parser Expr
  signed : Parser Expr
  postfixes : (operand : Expr) → Parser Expr
  primary : Parser Expr
  arguments : Parser (List Expr)
  moreArguments : Parser (List Expr)

def procedures (fuel : Nat) : Procedures where
  parts quoted := parts quoted fuel
  template quoted := template quoted fuel
  ternary := ternary fuel
  rescued := rescued fuel
  binary level := binary level fuel
  chain level left := chain level left fuel
  signed := signed fuel
  postfixes operand := postfixes operand fuel
  primary := primary fuel
  arguments := arguments fuel
  moreArguments := moreArguments fuel

namespace Procedures

/-- What the procedures do, each with these in the place of those that it calls. -/
def within (P : Procedures) : Procedures where
  parts quoted := do
    match ← peek with
    | .text content => do
      advance
      let rest ← P.parts quoted
      pure (.text content :: rest)
    | .spanStart => do
      advance
      let expr ← P.ternary
      expect isSpanEnd .closeSpan
      let rest ← P.parts quoted
      pure (.span expr :: rest)
    | .templateEnd => do
      advance
      pure []
    | _ => fail (if quoted then .textSpanOrQuote else .textOrSpan)
  template quoted := do
    expect isTemplateStart .startOfString
    let found ← P.parts quoted
    pure (templateOf quoted found)
  ternary := do
    let condition ← P.rescued
    match ← peek with
    | .question => do
      advance
      let thenBranch ← P.ternary
      expect isColon .ternaryColon
      let elseBranch ← P.ternary
      pure (.ternary condition thenBranch elseBranch)
    | _ => pure condition
  rescued := do
    let operand ← P.binary 0
    match ← peek with
    | .rescue => do
      advance
      let fallback ← P.rescued
      pure (.rescue operand fallback)
    | _ => pure operand
  binary level :=
    if level < levels then do
      let left ← P.binary (level + 1)
      P.chain level left
    else P.signed
  chain level left := do
    match operatorAt level (← peek) with
    | some op => do
      advance
      let right ← P.binary (level + 1)
      P.chain level (.binary op left right)
    | none => pure left
  signed := do
    match signOf? (← peek) with
    | some op => do
      advance
      let operand ← P.signed
      pure (.unary op operand)
    | none => do
      let operand ← P.primary
      P.postfixes operand
  postfixes operand := do
    match ← peek with
    | .dot => do
      let name ← access
      expect isOpenParen .methodParen
      let args ← P.arguments
      P.postfixes (.method operand name args)
    | .openBracket => do
      advance
      let key ← P.ternary
      expect isCloseBracket .closeBracket
      P.postfixes (.index operand key)
    | _ => pure operand
  primary := do
    match ← peek with
    | .integer n => do
      advance
      pure (.integer n)
    | .number x => do
      advance
      pure (.number x)
    | .boolean b => do
      advance
      pure (.boolean b)
    | .templateStart => P.template true
    | .identifier name => do
      advance
      match ← peek with
      | .openParen => do
        advance
        let args ← P.arguments
        pure (.call name args)
      | _ => pure (.variable name)
    | .openParen => do
      advance
      let expr ← P.ternary
      expect isCloseParen .closeParen
      pure expr
    | _ => fail .expression
  arguments := do
    match ← peek with
    | .closeParen => do
      advance
      pure []
    | _ => P.moreArguments
  moreArguments := do
    let arg ← P.ternary
    match ← peek with
    | .comma => do
      advance
      let rest ← P.moreArguments
      pure (arg :: rest)
    | _ => do
      expect isCloseParen .commaOrParen
      pure [arg]

def source (P : Procedures) : Parser Expr := do
  let expr ← P.template false
  expect isEndOfInput .endOfInput
  pure expr

/-- So many procedures within each other around the innermost ones. -/
def nested (innermost : Procedures) : (depth : Nat) → Procedures
  | 0 => innermost
  | depth + 1 => (nested innermost depth).within

/-- The fuel of the procedures counts how deeply they are within each other. -/
theorem within_procedures (fuel : Nat) : (procedures fuel).within = procedures (fuel + 1) := by
  ext : 1
  case postfixes =>
    funext operand c
    exact (postfixes_eq operand fuel c).symm
  all_goals rfl

end Procedures

open Grammar

variable {α β : Type} {c : Cursor} {ks : List TokenKind}

/-- What the parser leaves of these kinds is no longer than they are. -/
def Shrinks (p : Parser α) (ks : List TokenKind) : Prop := Yields p ks fun _ rest => rest.length ≤ ks.length

theorem Yields.shrinks {p : Parser α} {phrase : α → Phrase}
    (yields : Yields p ks fun a rest => Takes ks (phrase a) rest) : Shrinks p ks := by
  refine yields.mono fun a rest takes => ?_
  obtain ⟨used, rfl, -⟩ := takes
  simp

/-- What is taken with the kind that closes it. -/
theorem Yields.shrinks_through {p : Parser α} {phrase : α → Phrase} {k : TokenKind}
    (yields : Yields p ks fun a rest => Takes ks (phrase a) (k :: rest)) : Shrinks p ks := by
  refine yields.mono fun a rest takes => ?_
  obtain ⟨used, rfl, -⟩ := takes
  simp only [List.length_append, List.length_cons]
  omega

def Agrees (q p : Parser α) (c : Cursor) : Prop := q c = p c

namespace Agrees

variable {p q : Parser α} {f g : α → Parser β}

theorem bind (left : Left c ks) (shrinks : Shrinks p ks) (first : Agrees q p c)
    (further : ∀ a c' rest, rest.length ≤ ks.length → Left c' rest → Agrees (g a) (f a) c') :
    Agrees (q >>= g) (p >>= f) c := by
  show EStateM.bind q g c = EStateM.bind p f c
  unfold EStateM.bind
  rw [show q c = p c from first]
  cases run : p c with
  | error e between => rfl
  | ok a between =>
      obtain ⟨rest, behind, shorter⟩ := shrinks c a between left run
      exact further a between rest shorter behind

theorem peek {f g : TokenKind → Parser β} (further : Agrees (g c.current.kind) (f c.current.kind) c) :
    Agrees (Parser.peek >>= g) (Parser.peek >>= f) c := further

theorem advance {f g : Unit → Parser β} (further : Agrees (g ()) (f ()) c.advance) :
    Agrees (Parser.advance >>= g) (Parser.advance >>= f) c := further

theorem expect {f g : Unit → Parser β} {accepts : TokenKind → Bool} {expected : Expected} {kind : TokenKind}
    (left : Left c ks) (only : ∀ k, accepts k = true → k = kind) (inside : isEndOfInput kind = false)
    (further : ∀ rest, ks = kind :: rest → Left c.advance rest → Agrees (g ()) (f ()) c.advance) :
    Agrees (Parser.expect accepts expected >>= g) (Parser.expect accepts expected >>= f) c := by
  show _ = _
  rw [expect_bind, expect_bind]
  split
  next accepted =>
    obtain ⟨rest, rfl⟩ := left.exists_cons (only _ accepted) inside
    exact further rest rfl left.advance
  next => rfl

end Agrees

namespace Procedures

/-- The procedures do the same where there is fuel for the kinds before the cursor. -/
structure AgreeUpTo (Q P : Procedures) (fuel : Nat) : Prop where
  parts : ∀ quoted c ks, Left c ks → 16 * ks.length + 1 ≤ fuel → Agrees (Q.parts quoted) (P.parts quoted) c
  template : ∀ quoted c ks, Left c ks → 16 * ks.length + 1 ≤ fuel →
    Agrees (Q.template quoted) (P.template quoted) c
  ternary : ∀ c ks, Left c ks → 16 * ks.length + 12 ≤ fuel → Agrees Q.ternary P.ternary c
  rescued : ∀ c ks, Left c ks → 16 * ks.length + 11 ≤ fuel → Agrees Q.rescued P.rescued c
  binary : ∀ level c ks, Left c ks → level ≤ 6 → 16 * ks.length + (6 - level) + 4 ≤ fuel →
    Agrees (Q.binary level) (P.binary level) c
  chain : ∀ level first c ks, Left c ks → 16 * ks.length + 1 ≤ fuel →
    Agrees (Q.chain level first) (P.chain level first) c
  signed : ∀ c ks, Left c ks → 16 * ks.length + 3 ≤ fuel → Agrees Q.signed P.signed c
  postfixes : ∀ operand c ks, Left c ks → 16 * ks.length + 1 ≤ fuel →
    Agrees (Q.postfixes operand) (P.postfixes operand) c
  primary : ∀ c ks, Left c ks → 16 * ks.length + 2 ≤ fuel → Agrees Q.primary P.primary c
  arguments : ∀ c ks, Left c ks → 16 * ks.length + 14 ≤ fuel → Agrees Q.arguments P.arguments c
  moreArguments : ∀ c ks, Left c ks → 16 * ks.length + 13 ≤ fuel → Agrees Q.moreArguments P.moreArguments c

namespace AgreeUpTo

variable {Q : Procedures} {fuel : Nat}

theorem parts_within (known : AgreeUpTo Q (procedures fuel) fuel) (quoted : Bool) (left : Left c ks)
    (enough : 16 * ks.length + 1 ≤ fuel + 1) :
    Agrees (Q.within.parts quoted) ((procedures fuel).within.parts quoted) c := by
  refine .peek ?_
  split
  next content found =>
    obtain ⟨more, rfl⟩ := left.exists_cons found rfl
    rw [List.length_cons] at enough
    refine .advance (.bind left.advance ((soundAt fuel).parts quoted more).shrinks_through
      (known.parts quoted _ more left.advance (by omega)) fun _ _ _ _ _ => rfl)
  next found =>
    obtain ⟨more, rfl⟩ := left.exists_cons found rfl
    rw [List.length_cons] at enough
    refine .advance (.bind left.advance ((soundAt fuel).ternary more).shrinks
      (known.ternary _ more left.advance (by omega)) fun e c' behind shorter left => ?_)
    refine .expect left only_spanEnd rfl fun rest closes left => ?_
    rw [closes, List.length_cons] at shorter
    exact .bind left ((soundAt fuel).parts quoted rest).shrinks_through
      (known.parts quoted _ rest left (by omega)) fun _ _ _ _ _ => rfl
  next => rfl
  next => rfl

theorem template_within (known : AgreeUpTo Q (procedures fuel) fuel) (quoted : Bool) (left : Left c ks)
    (enough : 16 * ks.length + 1 ≤ fuel + 1) :
    Agrees (Q.within.template quoted) ((procedures fuel).within.template quoted) c := by
  refine .expect left only_templateStart rfl fun more opens left => ?_
  rw [opens, List.length_cons] at enough
  exact .bind left ((soundAt fuel).parts quoted more).shrinks_through
    (known.parts quoted _ more left (by omega)) fun _ _ _ _ _ => rfl

theorem ternary_within (known : AgreeUpTo Q (procedures fuel) fuel) (left : Left c ks)
    (enough : 16 * ks.length + 12 ≤ fuel + 1) :
    Agrees Q.within.ternary (procedures fuel).within.ternary c := by
  refine .bind left ((soundAt fuel).rescued ks).shrinks (known.rescued c ks left (by omega)) ?_
  intro condition c behind shorter left
  refine .peek ?_
  split
  next found =>
    obtain ⟨more, rfl⟩ := left.exists_cons found rfl
    rw [List.length_cons] at shorter
    refine .advance (.bind left.advance ((soundAt fuel).ternary more).shrinks
      (known.ternary _ more left.advance (by omega)) fun a c others less left => ?_)
    refine .expect left only_colon rfl fun rest splits left => ?_
    rw [splits, List.length_cons] at less
    exact .bind left ((soundAt fuel).ternary rest).shrinks (known.ternary _ rest left (by omega))
      fun _ _ _ _ _ => rfl
  next => rfl

theorem rescued_within (known : AgreeUpTo Q (procedures fuel) fuel) (left : Left c ks)
    (enough : 16 * ks.length + 11 ≤ fuel + 1) :
    Agrees Q.within.rescued (procedures fuel).within.rescued c := by
  refine .bind left ((soundAt fuel).binary 0 ks (Nat.zero_le 6)).shrinks
    (known.binary 0 c ks left (Nat.zero_le 6) (by omega)) ?_
  intro operand c behind shorter left
  refine .peek ?_
  split
  next found =>
    obtain ⟨more, rfl⟩ := left.exists_cons found rfl
    rw [List.length_cons] at shorter
    exact .advance (.bind left.advance ((soundAt fuel).rescued more).shrinks
      (known.rescued _ more left.advance (by omega)) fun _ _ _ _ _ => rfl)
  next => rfl

theorem binary_within (known : AgreeUpTo Q (procedures fuel) fuel) (level : Nat) (left : Left c ks)
    (bounded : level ≤ 6) (enough : 16 * ks.length + (6 - level) + 4 ≤ fuel + 1) :
    Agrees (Q.within.binary level) ((procedures fuel).within.binary level) c := by
  unfold within
  dsimp only
  by_cases inside : level < levels
  · have below : level < 6 := inside
    rw [if_pos inside, if_pos inside]
    refine .bind left ((soundAt fuel).binary (level + 1) ks inside).shrinks
      (known.binary (level + 1) c ks left inside (by omega)) ?_
    intro first c behind shorter left
    exact known.chain level first c behind left (by omega)
  · rw [if_neg inside, if_neg inside]
    exact known.signed c ks left (by omega)

theorem chain_within (known : AgreeUpTo Q (procedures fuel) fuel) (level : Nat) (first : Expr)
    (left : Left c ks) (enough : 16 * ks.length + 1 ≤ fuel + 1) :
    Agrees (Q.within.chain level first) ((procedures fuel).within.chain level first) c := by
  refine .peek ?_
  split
  next op found =>
    have operator := (operatorAt_eq_some level c.current.kind op).mp found
    generalize looked : c.current.kind = k at operator
    obtain ⟨more, rfl⟩ := left.exists_cons looked operator.inside.1
    have inside := operator.inside.2
    rw [List.length_cons] at enough
    refine .advance (.bind left.advance ((soundAt fuel).binary (level + 1) more inside).shrinks
      (known.binary (level + 1) _ more left.advance inside (by omega)) fun second c behind shorter left => ?_)
    exact known.chain level _ c behind left (by omega)
  next => rfl

theorem signed_within (known : AgreeUpTo Q (procedures fuel) fuel) (left : Left c ks)
    (enough : 16 * ks.length + 3 ≤ fuel + 1) : Agrees Q.within.signed (procedures fuel).within.signed c := by
  refine .peek ?_
  split
  next op found =>
    have sign := (signOf?_eq_some c.current.kind op).mp found
    generalize looked : c.current.kind = k at sign
    obtain ⟨more, rfl⟩ := left.exists_cons looked sign.inside
    rw [List.length_cons] at enough
    exact .advance (.bind left.advance ((soundAt fuel).signed more).shrinks
      (known.signed _ more left.advance (by omega)) fun _ _ _ _ _ => rfl)
  next =>
    refine .bind left ((soundAt fuel).primary ks).shrinks (known.primary c ks left (by omega)) ?_
    intro operand c behind shorter left
    exact known.postfixes operand c behind left (by omega)

theorem postfixes_within (known : AgreeUpTo Q (procedures fuel) fuel) (operand : Expr) (left : Left c ks)
    (enough : 16 * ks.length + 1 ≤ fuel + 1) :
    Agrees (Q.within.postfixes operand) ((procedures fuel).within.postfixes operand) c := by
  refine .peek ?_
  split
  next found =>
    obtain ⟨more, rfl⟩ := left.exists_cons found rfl
    rw [List.length_cons] at enough
    have named : Shrinks access (.dot :: more) := by
      refine (yields_access more).mono fun name rest taken => ?_
      obtain ⟨used, split, -⟩ := taken
      simp [split]
    refine .bind left named rfl fun name c inner less left => ?_
    refine .expect left only_openParen rfl fun rest opens left => ?_
    rw [opens, List.length_cons, List.length_cons] at less
    refine .bind left ((soundAt fuel).arguments rest).shrinks_through
      (known.arguments _ rest left (by omega)) fun args c behind shorter left => ?_
    exact known.postfixes _ c behind left (by omega)
  next found =>
    obtain ⟨more, rfl⟩ := left.exists_cons found rfl
    rw [List.length_cons] at enough
    refine .advance (.bind left.advance ((soundAt fuel).ternary more).shrinks
      (known.ternary _ more left.advance (by omega)) fun key c inner less left => ?_)
    refine .expect left only_closeBracket rfl fun rest closes left => ?_
    rw [closes, List.length_cons] at less
    exact known.postfixes _ _ rest left (by omega)
  next => rfl

theorem primary_within (known : AgreeUpTo Q (procedures fuel) fuel) (left : Left c ks)
    (enough : 16 * ks.length + 2 ≤ fuel + 1) :
    Agrees Q.within.primary (procedures fuel).within.primary c := by
  refine .peek ?_
  split
  next => rfl
  next => rfl
  next => rfl
  next => exact known.template true c ks left (by omega)
  next name found =>
    obtain ⟨more, rfl⟩ := left.exists_cons found rfl
    rw [List.length_cons] at enough
    refine .advance (.peek ?_)
    split
    next opens =>
      obtain ⟨inner, rfl⟩ := left.advance.exists_cons opens rfl
      rw [List.length_cons] at enough
      exact .advance (.bind left.advance.advance ((soundAt fuel).arguments inner).shrinks_through
        (known.arguments _ inner left.advance.advance (by omega)) fun _ _ _ _ _ => rfl)
    next => rfl
  next found =>
    obtain ⟨more, rfl⟩ := left.exists_cons found rfl
    rw [List.length_cons] at enough
    exact .advance (.bind left.advance ((soundAt fuel).ternary more).shrinks
      (known.ternary _ more left.advance (by omega)) fun _ _ _ _ _ => rfl)
  next => rfl

theorem arguments_within (known : AgreeUpTo Q (procedures fuel) fuel) (left : Left c ks)
    (enough : 16 * ks.length + 14 ≤ fuel + 1) :
    Agrees Q.within.arguments (procedures fuel).within.arguments c := by
  refine .peek ?_
  split
  next => rfl
  next => exact known.moreArguments c ks left (by omega)

theorem moreArguments_within (known : AgreeUpTo Q (procedures fuel) fuel) (left : Left c ks)
    (enough : 16 * ks.length + 13 ≤ fuel + 1) :
    Agrees Q.within.moreArguments (procedures fuel).within.moreArguments c := by
  refine .bind left ((soundAt fuel).ternary ks).shrinks (known.ternary c ks left (by omega)) ?_
  intro arg c behind shorter left
  refine .peek ?_
  split
  next found =>
    obtain ⟨more, rfl⟩ := left.exists_cons found rfl
    rw [List.length_cons] at shorter
    exact .advance (.bind left.advance ((soundAt fuel).moreArguments more).shrinks_through
      (known.moreArguments _ more left.advance (by omega)) fun _ _ _ _ _ => rfl)
  next => rfl

end AgreeUpTo

theorem agree_nested (innermost : Procedures) (fuel : Nat) :
    AgreeUpTo (innermost.nested fuel) (procedures fuel) fuel := by
  induction fuel with
  | zero => constructor <;> intros <;> omega
  | succ fuel known =>
      rw [← within_procedures]
      exact
        { parts := fun quoted _ _ => known.parts_within quoted
          template := fun quoted _ _ => known.template_within quoted
          ternary := fun _ _ => known.ternary_within
          rescued := fun _ _ => known.rescued_within
          binary := fun level _ _ => known.binary_within level
          chain := fun level first _ _ => known.chain_within level first
          signed := fun _ _ => known.signed_within
          postfixes := fun operand _ _ => known.postfixes_within operand
          primary := fun _ _ => known.primary_within
          arguments := fun _ _ => known.arguments_within
          moreArguments := fun _ _ => known.moreArguments_within }

/-- The list of a run has the fuel that it needs, for a whole source as for an expression. -/
theorem nested_start (innermost : Procedures) (tokens : List Token) :
    (innermost.nested (fuelFor tokens)).source (start tokens) =
        Parser.source (fuelFor tokens) (start tokens) ∧
      (innermost.nested (fuelFor tokens)).ternary (start tokens) =
        Parser.ternary (fuelFor tokens) (start tokens) := by
  obtain ⟨ks, left, short⟩ := exists_left_start tokens
  have agree := agree_nested innermost (fuelFor tokens)
  have enough : 16 * ks.length + 12 ≤ fuelFor tokens := by
    unfold fuelFor
    omega
  refine ⟨?_, agree.ternary _ ks left enough⟩
  exact Agrees.bind left ((soundAt _).template false ks).shrinks (agree.template false _ ks left (by omega))
    fun _ _ _ _ _ => rfl

end Procedures

end CardExpr.Parser
