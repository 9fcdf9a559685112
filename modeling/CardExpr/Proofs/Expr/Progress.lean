import Mathlib.Logic.Function.Iterate
import CardExpr.Proofs.Expr.Unfolding

/-!
How the parser moves. It goes ahead token by token, stays in the list, and never reads an expression from
nothing.
-/

namespace CardExpr

/-- Phrases that may have no tokens: what is between quotes or parentheses. -/
def Grammar.Phrase.Hollow : Phrase → Prop
  | .parts _ => True
  | .arguments _ => True
  | _ => False

theorem Grammar.Derives.nonempty {ks : List TokenKind} {phrase : Phrase} (derives : Derives ks phrase)
    (solid : ¬ phrase.Hollow) : ks ≠ [] := by
  induction derives <;> simp_all [Phrase.Hollow]

namespace Parser

open Grammar

variable {α β : Type} {c : Cursor} {all : List Token} {i : Nat}

structure Cursor.IsAt (c : Cursor) (all : List Token) (i : Nat) : Prop where
  current : all[i]? = some c.current
  ahead : c.ahead = all.drop (i + 1)

namespace Cursor.IsAt

theorem lt_length (place : c.IsAt all i) : i < all.length := (List.getElem?_eq_some_iff.mp place.current).1

theorem tokens_eq (place : c.IsAt all i) : c.tokens = all.drop i := by
  obtain ⟨inside, found⟩ := List.getElem?_eq_some_iff.mp place.current
  rw [List.drop_eq_getElem_cons inside, found, ← place.ahead]
  rfl

theorem advance (place : c.IsAt all i) : c.advance.IsAt all (min (i + 1) (all.length - 1)) := by
  have inside := place.lt_length
  unfold Cursor.advance
  cases ahead : c.ahead with
  | nil =>
      have last : all.length ≤ i + 1 := List.drop_eq_nil_iff.mp (place.ahead.symm.trans ahead)
      rw [show min (i + 1) (all.length - 1) = i by omega]
      exact ⟨place.current, ahead.symm.trans place.ahead⟩
  | cons next more =>
      have behind : all.drop (i + 1) = next :: more := place.ahead.symm.trans ahead
      have further : i + 1 < all.length := by
        apply Nat.lt_of_not_le
        intro beyond
        rw [List.drop_eq_nil_of_le beyond] at behind
        cases behind
      rw [show min (i + 1) (all.length - 1) = i + 1 by omega]
      rw [List.drop_eq_getElem_cons further] at behind
      obtain ⟨found, rest⟩ := List.cons.inj behind
      exact ⟨List.getElem?_eq_some_iff.mpr ⟨further, found⟩, rest.symm⟩

theorem iterate (place : c.IsAt all i) (n : Nat) :
    (Cursor.advance^[n] c).IsAt all (min (i + n) (all.length - 1)) := by
  induction n with
  | zero =>
      have inside := place.lt_length
      rw [show min (i + 0) (all.length - 1) = i by omega]
      exact place
  | succ n ih =>
      rw [Function.iterate_succ_apply']
      have next := ih.advance
      rwa [show min (min (i + n) (all.length - 1) + 1) (all.length - 1) =
        min (i + (n + 1)) (all.length - 1) by omega] at next

end Cursor.IsAt

theorem isAt_start (tokens : List Token) : (start tokens).IsAt (closed tokens) 0 := by
  have whole := tokens_start tokens
  constructor
  · rw [← whole]
    rfl
  · rw [← whole]
    rfl

theorem Cursor.taken_iterate (c : Cursor) (n : Nat) : (Cursor.advance^[n] c).taken = c.taken + n := by
  induction n with
  | zero => rfl
  | succ n ih => rw [Function.iterate_succ_apply', Cursor.taken_advance, ih, Nat.add_assoc]

theorem Cursor.tokens_advance (c : Cursor) : c.advance.tokens ⊆ c.tokens := by
  unfold Cursor.advance Cursor.tokens
  cases c.ahead with
  | nil => exact List.Subset.refl _
  | cons next more => exact List.subset_cons_self _ _

theorem Cursor.tokens_iterate (c : Cursor) (n : Nat) : (Cursor.advance^[n] c).tokens ⊆ c.tokens := by
  induction n with
  | zero => exact List.Subset.refl _
  | succ n ih =>
      rw [Function.iterate_succ_apply']
      exact List.Subset.trans (Cursor.tokens_advance _) ih

/-- How a run from the cursor ends: after some advances, and with an error about one of the tokens from the
cursor on if with any. -/
inductive Walked (c : Cursor) : EStateM.Result ParseError Cursor α → Prop where
  | ok (n : Nat) (a : α) : Walked c (.ok a (Cursor.advance^[n] c))
  | error (n : Nat) {e : ParseError} (found : e.found ∈ c.tokens) : Walked c (.error e (Cursor.advance^[n] c))

def Walks (p : Parser α) : Prop := ∀ c, Walked c (p c)

namespace Walks

theorem pure (a : α) : Walks (Pure.pure a) := fun _ => .ok 0 a

theorem fail (expected : Expected) : Walks (Parser.fail expected : Parser α) :=
  fun _ => .error 0 List.mem_cons_self

theorem bind {p : Parser α} {f : α → Parser β} (first : Walks p) (further : ∀ a, Walks (f a)) :
    Walks (p >>= f) := by
  intro c
  have start := first c
  show Walked c (EStateM.bind p f c)
  unfold EStateM.bind
  generalize p c = result at start
  cases start with
  | error n found => exact .error n found
  | ok n a =>
      have rest := further a (Cursor.advance^[n] c)
      dsimp only
      generalize f a (Cursor.advance^[n] c) = result at rest
      cases rest with
      | ok m b =>
          rw [← Function.iterate_add_apply]
          exact .ok (m + n) b
      | error m found =>
          rw [← Function.iterate_add_apply]
          exact .error (m + n) (c.tokens_iterate n found)

theorem peek : Walks Parser.peek := fun c => .ok 0 c.current.kind

theorem advance : Walks Parser.advance := fun _ => .ok 1 ()

theorem expect (accepts : TokenKind → Bool) (expected : Expected) :
    Walks (Parser.expect accepts expected) := by
  refine .bind .peek fun k => ?_
  split
  · exact .advance
  · exact .fail expected

theorem access : Walks Parser.access := by
  intro c
  by_cases named : ∃ name, c.advance.current.kind = .identifier name
  · obtain ⟨name, named⟩ := named
    rw [access_of_name named]
    exact .ok 2 name
  · rw [access_of_other (not_exists.mp named)]
    refine .error 2 ?_
    dsimp only
    split
    · exact List.mem_cons_self
    · exact c.tokens_advance List.mem_cons_self

end Walks

namespace Procedures

structure Walk (P : Procedures) : Prop where
  parts : ∀ quoted, Walks (P.parts quoted)
  template : ∀ quoted, Walks (P.template quoted)
  ternary : Walks P.ternary
  rescued : Walks P.rescued
  binary : ∀ level, Walks (P.binary level)
  chain : ∀ level left, Walks (P.chain level left)
  signed : Walks P.signed
  postfixes : ∀ operand, Walks (P.postfixes operand)
  primary : Walks P.primary
  arguments : Walks P.arguments
  moreArguments : Walks P.moreArguments

/-- Procedures around ones that walk do so too. -/
theorem Walk.within {P : Procedures} (walk : P.Walk) : P.within.Walk where
  parts quoted := by
    refine .bind .peek fun k => ?_
    split
    · exact .bind .advance fun _ => .bind (walk.parts quoted) fun _ => .pure _
    · exact .bind .advance fun _ => .bind walk.ternary fun _ => .bind (.expect _ _) fun _ =>
        .bind (walk.parts quoted) fun _ => .pure _
    · exact .bind .advance fun _ => .pure _
    · exact .fail _
  template quoted := .bind (.expect _ _) fun _ => .bind (walk.parts quoted) fun _ => .pure _
  ternary := by
    refine .bind walk.rescued fun condition => .bind .peek fun k => ?_
    split
    · exact .bind .advance fun _ => .bind walk.ternary fun _ => .bind (.expect _ _) fun _ =>
        .bind walk.ternary fun _ => .pure _
    · exact .pure _
  rescued := by
    refine .bind (walk.binary 0) fun operand => .bind .peek fun k => ?_
    split
    · exact .bind .advance fun _ => .bind walk.rescued fun _ => .pure _
    · exact .pure _
  binary level := by
    unfold Procedures.within
    dsimp only
    split
    · exact .bind (walk.binary (level + 1)) fun left => walk.chain level left
    · exact walk.signed
  chain level left := by
    refine .bind .peek fun k => ?_
    split
    · exact .bind .advance fun _ => .bind (walk.binary (level + 1)) fun _ => walk.chain level _
    · exact .pure _
  signed := by
    refine .bind .peek fun k => ?_
    split
    · exact .bind .advance fun _ => .bind walk.signed fun _ => .pure _
    · exact .bind walk.primary fun operand => walk.postfixes operand
  postfixes operand := by
    refine .bind .peek fun k => ?_
    split
    · exact .bind .access fun _ => .bind (.expect _ _) fun _ => .bind walk.arguments fun _ => walk.postfixes _
    · exact .bind .advance fun _ => .bind walk.ternary fun _ => .bind (.expect _ _) fun _ => walk.postfixes _
    · exact .pure _
  primary := by
    refine .bind .peek fun k => ?_
    split
    · exact .bind .advance fun _ => .pure _
    · exact .bind .advance fun _ => .pure _
    · exact .bind .advance fun _ => .pure _
    · exact walk.template true
    · refine .bind .advance fun _ => .bind .peek fun k => ?_
      split
      · exact .bind .advance fun _ => .bind walk.arguments fun _ => .pure _
      · exact .pure _
    · exact .bind .advance fun _ => .bind walk.ternary fun _ => .bind (.expect _ _) fun _ => .pure _
    · exact .fail _
  arguments := by
    refine .bind .peek fun k => ?_
    split
    · exact .bind .advance fun _ => .pure _
    · exact walk.moreArguments
  moreArguments := by
    refine .bind walk.ternary fun arg => .bind .peek fun k => ?_
    split
    · exact .bind .advance fun _ => .bind walk.moreArguments fun _ => .pure _
    · exact .bind (.expect _ _) fun _ => .pure _

theorem walk_procedures (fuel : Nat) : (procedures fuel).Walk := by
  induction fuel with
  | zero => constructor <;> intros <;> exact .fail .expression
  | succ fuel walk =>
      rw [← within_procedures]
      exact walk.within

end Procedures

def ended : EStateM.Result ParseError Cursor α → Cursor
  | .ok _ c => c
  | .error _ c => c

/-- From a place in the list a run ends at one that is no nearer to its beginning, and if with an error then
with one about a token of the list. -/
def StaysIn (all : List Token) (p : Parser α) : Prop :=
  ∀ c i, c.IsAt all i → (∃ j, i ≤ j ∧ (ended (p c)).IsAt all j) ∧ ∀ e c', p c = .error e c' → e.found ∈ all

/-- A run that succeeds ends at a later place in the list. -/
def MovesOn (all : List Token) (p : Parser α) : Prop :=
  ∀ c i a c', c.IsAt all i → p c = .ok a c' → ∃ j, i < j ∧ c'.IsAt all j

theorem Walks.exists_iterate {p : Parser α} (walks : Walks p) (c : Cursor) :
    ∃ n, ended (p c) = Cursor.advance^[n] c ∧ ∀ e c', p c = .error e c' → e.found ∈ c.tokens := by
  have walked := walks c
  generalize p c = result at walked
  cases walked with
  | ok n a => exact ⟨n, rfl, fun e c' same => nomatch same⟩
  | error n found =>
      refine ⟨n, rfl, ?_⟩
      intro e c' same
      cases same
      exact found

theorem Walks.staysIn {p : Parser α} (walks : Walks p) (all : List Token) : StaysIn all p := by
  intro c i place
  obtain ⟨n, stops, about⟩ := walks.exists_iterate c
  have inside := place.lt_length
  refine ⟨⟨_, ?_, stops ▸ place.iterate n⟩, fun e c' failed => ?_⟩
  · omega
  · have found := about e c' failed
    rw [place.tokens_eq] at found
    exact List.mem_of_mem_drop found

theorem Cursor.IsAt.left {tokens : List Token} (place : c.IsAt (closed tokens) i) :
    ∃ ks, Left c ks ∧ i + ks.length + 1 = (closed tokens).length := by
  obtain ⟨init, last, all, ends, -⟩ := closed_eq tokens
  have inside := place.lt_length
  have behind := place.tokens_eq
  rw [all] at inside behind ⊢
  rw [List.length_append, List.length_singleton] at inside ⊢
  rw [List.drop_append_of_le_length (by omega)] at behind
  refine ⟨kinds (init.drop i), ?_, ?_⟩
  · show kinds c.tokens = _
    rw [behind, kinds_append, ← ends]
    rfl
  · rw [kinds, List.length_map, List.length_drop]
    omega

theorem Walks.movesOn {p : Parser α} (walks : Walks p) (tokens : List Token)
    (shorter : ∀ ks, Yields p ks fun _ rest => rest.length < ks.length) : MovesOn (closed tokens) p := by
  intro c i a c' place run
  obtain ⟨⟨j, -, later⟩, -⟩ := walks.staysIn (closed tokens) c i place
  rw [run] at later
  obtain ⟨ks, left, count⟩ := place.left
  obtain ⟨rest, behind, less⟩ := shorter ks c a c' left run
  obtain ⟨ks', left', count'⟩ := later.left
  have same : rest.length = ks'.length := by
    have both := congrArg List.length (behind.symm.trans left')
    simpa using both
  exact ⟨j, by omega, later⟩

theorem Yields.consumes {p : Parser α} {phrase : α → Phrase} {ks : List TokenKind}
    (solid : ∀ a, ¬ (phrase a).Hollow) (yields : Yields p ks fun a rest => Takes ks (phrase a) rest) :
    Yields p ks fun _ rest => rest.length < ks.length := by
  refine yields.mono fun a rest takes => ?_
  obtain ⟨used, rfl, derives⟩ := takes
  have some := List.length_pos_iff.mpr (derives.nonempty (solid a))
  rw [List.length_append]
  omega

theorem Yields.consumes_through {p : Parser α} {phrase : α → Phrase} {k : TokenKind} {ks : List TokenKind}
    (yields : Yields p ks fun a rest => Takes ks (phrase a) (k :: rest)) :
    Yields p ks fun _ rest => rest.length < ks.length := by
  refine yields.mono fun a rest takes => ?_
  obtain ⟨used, rfl, -⟩ := takes
  rw [List.length_append, List.length_cons]
  omega

theorem yields_operand (fuel : Nat) (ks : List TokenKind) :
    Yields (primary fuel >>= fun e => postfixes e fuel) ks fun e => Takes ks (.operand e) := by
  refine .bind ((soundAt fuel).primary ks) fun operand behind takes => ?_
  obtain ⟨used, rfl, derives⟩ := takes
  exact (soundAt fuel).postfixes operand used behind (.bare derives)

namespace Procedures

/-- No procedure leaves the list or goes back in it. -/
structure StayIn (P : Procedures) (all : List Token) : Prop where
  parts : ∀ quoted, StaysIn all (P.parts quoted)
  template : ∀ quoted, StaysIn all (P.template quoted)
  ternary : StaysIn all P.ternary
  rescued : StaysIn all P.rescued
  binary : ∀ level, StaysIn all (P.binary level)
  chain : ∀ level left, StaysIn all (P.chain level left)
  signed : StaysIn all P.signed
  postfixes : ∀ operand, StaysIn all (P.postfixes operand)
  primary : StaysIn all P.primary
  arguments : StaysIn all P.arguments
  moreArguments : StaysIn all P.moreArguments

/-- What reads an expression, the parts of a template or arguments takes a token at least. -/
structure MoveOn (P : Procedures) (all : List Token) : Prop where
  parts : ∀ quoted, MovesOn all (P.parts quoted)
  template : ∀ quoted, MovesOn all (P.template quoted)
  ternary : MovesOn all P.ternary
  rescued : MovesOn all P.rescued
  binary : ∀ level ≤ levels, MovesOn all (P.binary level)
  signed : MovesOn all P.signed
  operand : MovesOn all (P.primary >>= P.postfixes)
  primary : MovesOn all P.primary
  arguments : MovesOn all P.arguments
  moreArguments : MovesOn all P.moreArguments

theorem Walk.stayIn {P : Procedures} (walk : P.Walk) (all : List Token) : P.StayIn all where
  parts quoted := (walk.parts quoted).staysIn all
  template quoted := (walk.template quoted).staysIn all
  ternary := walk.ternary.staysIn all
  rescued := walk.rescued.staysIn all
  binary level := (walk.binary level).staysIn all
  chain level left := (walk.chain level left).staysIn all
  signed := walk.signed.staysIn all
  postfixes operand := (walk.postfixes operand).staysIn all
  primary := walk.primary.staysIn all
  arguments := walk.arguments.staysIn all
  moreArguments := walk.moreArguments.staysIn all

theorem moveOn (fuel : Nat) (tokens : List Token) : (procedures fuel).MoveOn (closed tokens) :=
  have walk := walk_procedures fuel
  have sound := soundAt fuel
  { parts := fun quoted => (walk.parts quoted).movesOn tokens fun ks =>
    (sound.parts quoted ks).consumes_through
    template := fun quoted => (walk.template quoted).movesOn tokens fun ks =>
      (sound.template quoted ks).consumes fun _ => id
    ternary := walk.ternary.movesOn tokens fun ks => (sound.ternary ks).consumes fun _ => id
    rescued := walk.rescued.movesOn tokens fun ks => (sound.rescued ks).consumes fun _ => id
    binary := fun level bounded => (walk.binary level).movesOn tokens fun ks =>
      (sound.binary level ks bounded).consumes fun _ => id
    signed := walk.signed.movesOn tokens fun ks => (sound.signed ks).consumes fun _ => id
    operand := (Walks.bind walk.primary walk.postfixes).movesOn tokens fun ks =>
      (yields_operand fuel ks).consumes fun _ => id
    primary := walk.primary.movesOn tokens fun ks => (sound.primary ks).consumes fun _ => id
    arguments := walk.arguments.movesOn tokens fun ks => (sound.arguments ks).consumes_through
    moreArguments := walk.moreArguments.movesOn tokens fun ks => (sound.moreArguments ks).consumes_through }

end Procedures

/-- What a run foretells, it takes no more than once for each token before the cursor. -/
theorem Foretells.taken_le {p q : Parser α} {V : List TokenKind → Prop} (foretells : Foretells p q c V) :
    (ended (p c)).taken ≤ c.taken + c.tokens.length := by
  unfold Foretells at foretells
  split at foretells
  next a c' run =>
    obtain ⟨used, split, taken, -⟩ := foretells
    rw [run, split, List.length_append]
    show c'.taken ≤ _
    omega
  next e c' run =>
    obtain ⟨before, found, after, split, taken, -⟩ := foretells
    have late : lag e ≤ 1 := by
      unfold lag
      split <;> decide
    rw [run, split, List.length_append, List.length_cons]
    show c'.taken ≤ _
    omega

theorem taken_source_le {fuel : Nat} {q : Parser Expr} {V : List TokenKind → Prop}
    (foretells : Foretells (template false fuel) q c V) :
    (ended (source fuel c)).taken ≤ c.taken + c.tokens.length := by
  have whole := foretells.taken_le
  unfold Foretells at foretells
  show (ended (EStateM.bind (template false fuel) _ c)).taken ≤ _
  unfold EStateM.bind
  cases run : template false fuel c with
  | error e c' =>
      rw [run] at whole
      exact whole
  | ok a c' =>
      rw [run] at foretells whole
      obtain ⟨used, split, taken, -⟩ := foretells
      dsimp only
      rw [expect_bind]
      split
      · show c'.advance.taken ≤ _
        rw [Cursor.taken_advance, split, List.length_append, Cursor.tokens, List.length_cons]
        omega
      · exact whole

theorem walks_source (fuel : Nat) : Walks (source fuel) :=
  .bind ((Procedures.walk_procedures fuel).template false) fun _ => .bind (.expect _ _) fun _ => .pure _

theorem taken_start (tokens : List Token) : (start tokens).taken = 0 := by
  unfold start
  split <;> rfl

theorem Walks.exists_run {p : Parser α} (walks : Walks p) (tokens : List Token)
    (bounded : (ended (p (start tokens))).taken ≤ (start tokens).taken + (start tokens).tokens.length) :
    ∃ n ≤ (closed tokens).length, ended (p (start tokens)) = Cursor.advance^[n] (start tokens) := by
  obtain ⟨n, stops, -⟩ := walks.exists_iterate (start tokens)
  refine ⟨n, ?_, stops⟩
  rw [stops, Cursor.taken_iterate, tokens_start] at bounded
  exact Nat.le_of_add_le_add_left bounded

/-- The list that is read ends with the end of the input, whatever it is made of, and reading begins at its
first token. What stands for the procedures where their fuel ends is never asked, so a run is that of the
procedures without fuel. It advances no more often than there are tokens; so often it went ahead in the list,
but that the last token stays. From any place in the list every procedure, with whichever end, comes to one
that is in the list and no nearer to its beginning, and an error is about one of the tokens; what reads an
expression comes to a later one, if it succeeds. -/
theorem parser_progresses (tokens : List Token) :
    (∃ init last, closed tokens = init ++ [last] ∧ last.kind = .endOfInput) ∧ tokens <+: closed tokens ∧
      (start tokens).IsAt (closed tokens) 0 ∧
      (∀ innermost : Procedures,
        (innermost.nested (fuelFor tokens)).source (start tokens) = source (fuelFor tokens) (start tokens) ∧
        (innermost.nested (fuelFor tokens)).ternary (start tokens) =
          ternary (fuelFor tokens) (start tokens)) ∧
      (∃ n ≤ (closed tokens).length,
        ended (source (fuelFor tokens) (start tokens)) = Cursor.advance^[n] (start tokens)) ∧
      (∃ n ≤ (closed tokens).length,
        ended (ternary (fuelFor tokens) (start tokens)) = Cursor.advance^[n] (start tokens)) ∧
      (∀ n, (Cursor.advance^[n] (start tokens)).taken = n ∧
        (Cursor.advance^[n] (start tokens)).IsAt (closed tokens) (min n ((closed tokens).length - 1))) ∧
      ∀ fuel, (procedures fuel).StayIn (closed tokens) ∧ (procedures fuel).MoveOn (closed tokens) := by
  obtain ⟨init, last, all, ends, -⟩ := closed_eq tokens
  obtain ⟨ks, left, short⟩ := exists_left_start tokens
  have enough : 16 * ks.length + 12 ≤ fuelFor tokens := by
    unfold fuelFor
    omega
  have foretells := foretellsAt (fuelFor tokens)
  refine ⟨⟨init, last, all, ends⟩, prefix_closed tokens, isAt_start tokens,
    fun innermost => innermost.nested_start tokens, ?_, ?_, ?_, ?_⟩
  · exact (walks_source _).exists_run tokens (taken_source_le
      (foretells.template false _ ks 0 left (by omega)))
  · exact (Procedures.walk_procedures (fuelFor tokens)).ternary.exists_run tokens
      (foretells.ternary _ ks 0 left enough).taken_le
  · intro n
    refine ⟨?_, ?_⟩
    · rw [Cursor.taken_iterate, taken_start, Nat.zero_add]
    · simpa using (isAt_start tokens).iterate n
  · intro fuel
    exact ⟨(Procedures.walk_procedures fuel).stayIn _, Procedures.moveOn fuel tokens⟩

/-- The bound is reached where a list ends behind a dot: the last token is taken for the name of a method. -/
example : (ended (ternary 64 (start [⟨.identifier "a", 0⟩, ⟨.dot, 1⟩]))).taken = 3 := rfl

end Parser

end CardExpr
