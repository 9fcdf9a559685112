import CardExpr.Proofs.Expr.Lookahead

/-!
What the parser has taken when it fails is the beginning of a phrase: of the one that the procedure is for.
-/

namespace CardExpr

namespace Grammar

/-- The kinds are the beginning of a phrase of this sort. -/
def Extends {α : Type} (phrase : α → Phrase) (ks : List TokenKind) : Prop :=
  ∃ more a, Derives (ks ++ more) (phrase a)

variable {ks ls : List TokenKind} {e : Expr} {level : Nat}

theorem Derives.extends {α : Type} {phrase : α → Phrase} {a : α} (derives : Derives ks (phrase a)) :
    Extends phrase ks := ⟨[], a, by rwa [List.append_nil]⟩

theorem Extends.imp {α β : Type} {phrase : α → Phrase} {wider : β → Phrase} {f : α → β}
    (rule : ∀ ks a, Derives ks (phrase a) → Derives ks (wider (f a))) (ks : List TokenKind)
    (begins : Extends phrase ks) : Extends wider ks := by
  obtain ⟨more, a, derives⟩ := begins
  exact ⟨more, f a, rule (ks ++ more) a derives⟩

theorem derives_zero_ternary : Derives [.integer 0] (.ternary (.integer 0)) :=
  .ternary_of_primary (.integer 0)

end Grammar

namespace Parser

open Grammar

theorem Left.exists_cons {c : Cursor} {ks : List TokenKind} {k : TokenKind} (left : Left c ks)
    (found : c.current.kind = k) (inside : isEndOfInput k = false) : ∃ rest, ks = k :: rest :=
  head_eq_cons (left.kind_eq.symm.trans found) inside

theorem Yields.through {α : Type} {p : Parser α} {phrase : α → Phrase} {k : TokenKind} {ks : List TokenKind}
    (yields : Yields p ks fun a rest => Takes ks (phrase a) (k :: rest)) :
    Yields p ks fun a rest => ∃ used, ks = used ++ rest ∧
      ∃ inner, used = inner ++ [k] ∧ Derives inner (phrase a) := by
  refine yields.mono ?_
  rintro a rest ⟨used, split, derives⟩
  exact ⟨used ++ [k], by simpa using split, used, rfl, derives⟩

theorem Foretells.map {α β : Type} {p q : Parser α} {h : α → β} {c : Cursor} {ks : List TokenKind}
    {V : List TokenKind → Prop} {D : α → List TokenKind → Prop} (left : Left c ks)
    (sound : Yields p ks fun a rest => ∃ used, ks = used ++ rest ∧ D a used) (first : Foretells p q c V) :
    Foretells (p >>= fun a => Pure.pure (h a)) (q >>= fun a => Pure.pure (h a)) c V :=
  .bind left sound first fun _ _ _ _ _ _ _ => .pure _ _ _

/-- What is done with an operand, by the kind behind it. -/
def attach (operand : Expr) (fuel : Nat) : TokenKind → Parser Expr
  | .dot => do
    let name ← access
    expect isOpenParen .methodParen
    let args ← arguments fuel
    postfixes (.method operand name args) fuel
  | .openBracket => do
    advance
    let key ← ternary fuel
    expect isCloseBracket .closeBracket
    postfixes (.index operand key) fuel
  | _ => pure operand

theorem postfixes_eq (operand : Expr) (fuel : Nat) (c : Cursor) :
    postfixes operand (fuel + 1) c = (peek >>= attach operand fuel) c := by
  rw [postfixes]
  show (match c.current.kind with | .dot => _ | .openBracket => _ | _ => _ : Parser Expr) c =
    attach operand fuel c.current.kind c
  cases c.current.kind <;> rfl

/-- What the procedures foretell of themselves with any other fuel. Each has the fuel that the kinds before
the cursor can make it spend. -/
structure ForetellsAt (fuel : Nat) : Prop where
  parts : ∀ quoted c ks other, Left c ks → 16 * ks.length + 1 ≤ fuel →
    Foretells (parts quoted fuel) (parts quoted other) c (Extends .parts)
  template : ∀ quoted c ks other, Left c ks → 16 * ks.length + 1 ≤ fuel →
    Foretells (template quoted fuel) (template quoted other) c (Extends (.template quoted))
  ternary : ∀ c ks other, Left c ks → 16 * ks.length + 12 ≤ fuel →
    Foretells (ternary fuel) (ternary other) c (Extends .ternary)
  rescued : ∀ c ks other, Left c ks → 16 * ks.length + 11 ≤ fuel →
    Foretells (rescued fuel) (rescued other) c (Extends .rescued)
  binary : ∀ level c ks other, Left c ks → level ≤ 6 → 16 * ks.length + (6 - level) + 4 ≤ fuel →
    Foretells (binary level fuel) (binary level other) c (Extends (.binary level))
  chain : ∀ level left before c ks other, Derives before (.binary level left) → Left c ks →
    16 * ks.length + 1 ≤ fuel →
    Foretells (chain level left fuel) (chain level left other) c fun taken =>
      Extends (.binary level) (before ++ taken)
  signed : ∀ c ks other, Left c ks → 16 * ks.length + 3 ≤ fuel →
    Foretells (signed fuel) (signed other) c (Extends .signed)
  postfixes : ∀ operand before c ks other, Derives before (.operand operand) → Left c ks →
    16 * ks.length + 1 ≤ fuel →
    Foretells (postfixes operand fuel) (postfixes operand other) c fun taken =>
      Extends .operand (before ++ taken)
  primary : ∀ c ks other, Left c ks → 16 * ks.length + 2 ≤ fuel →
    Foretells (primary fuel) (primary other) c (Extends .primary)
  arguments : ∀ c ks other, Left c ks → 16 * ks.length + 14 ≤ fuel →
    Foretells (arguments fuel) (arguments other) c (Extends .arguments)
  moreArguments : ∀ c ks other, Left c ks → 16 * ks.length + 13 ≤ fuel →
    Foretells (moreArguments fuel) (moreArguments other) c (Extends .someArguments)

namespace ForetellsAt

variable {fuel : Nat}

theorem parts_succ (known : ForetellsAt fuel) (quoted : Bool) (c : Cursor) (ks : List TokenKind) (other : Nat)
    (left : Left c ks) (enough : 16 * ks.length + 1 ≤ fuel + 1) :
    Foretells (Parser.parts quoted (fuel + 1)) (Parser.parts quoted (other + 1)) c (Extends .parts) := by
  rw [Parser.parts, Parser.parts]
  refine .peek ?_
  split
  next content found =>
    obtain ⟨more, rfl⟩ := left.exists_cons found rfl
    rw [List.length_cons] at enough
    refine .advance left fun c' left => .map left ((soundAt fuel).parts quoted more).through
      ((known.parts quoted c' more other left (by omega)).mono ?_)
    rintro taken ⟨further, found, derives⟩
    exact ⟨further, _, .text content derives⟩
  next found =>
    obtain ⟨more, rfl⟩ := left.exists_cons found rfl
    rw [List.length_cons] at enough
    refine .advance left fun c' left => .bind left ((soundAt fuel).ternary more)
      ((known.ternary c' more other left (by omega)).mono ?_) ?_
    · rintro taken ⟨further, e, derives⟩
      exact ⟨further ++ [.spanEnd], _, by simpa using Derives.span derives .noParts⟩
    intro e c' used rest split behind inner
    refine .expect behind (by decide) only_spanEnd rfl ?_ fun c' others closes behind => ?_
    · exact ⟨[.spanEnd], _, by simpa using Derives.span inner .noParts⟩
    rw [split, closes, List.length_append, List.length_cons] at enough
    refine .map behind ((soundAt fuel).parts quoted others).through
      ((known.parts quoted c' others other behind (by omega)).mono ?_)
    rintro taken ⟨further, found, derives⟩
    exact ⟨further, _, by simpa using Derives.span inner derives⟩
  next found =>
    obtain ⟨more, rfl⟩ := left.exists_cons found rfl
    exact .advance left fun c' _ => .pure _ _ _
  next => exact .fail (by cases quoted <;> decide) (Derives.noParts.extends)

theorem template_succ (known : ForetellsAt fuel) (quoted : Bool) (c : Cursor) (ks : List TokenKind)
    (other : Nat) (left : Left c ks) (enough : 16 * ks.length + 1 ≤ fuel + 1) :
    Foretells (Parser.template quoted (fuel + 1)) (Parser.template quoted (other + 1)) c
      (Extends (.template quoted)) := by
  rw [Parser.template, Parser.template]
  refine .expect left (by decide) only_templateStart rfl ?_ fun c' more opens behind => ?_
  · exact ⟨[.templateStart, .templateEnd], _, .template .noParts .empty⟩
  rw [opens, List.length_cons] at enough
  refine .map behind ((soundAt fuel).parts quoted more).through
    ((known.parts quoted c' more other behind (by omega)).mono ?_)
  rintro taken ⟨further, found, derives⟩
  exact ⟨further ++ [.templateEnd], _,
    by simpa using Derives.template derives ((templateOf_eq quoted found _).mp rfl)⟩

theorem ternary_succ (known : ForetellsAt fuel) (c : Cursor) (ks : List TokenKind) (other : Nat)
    (left : Left c ks) (enough : 16 * ks.length + 12 ≤ fuel + 1) :
    Foretells (Parser.ternary (fuel + 1)) (Parser.ternary (other + 1)) c (Extends .ternary) := by
  rw [Parser.ternary, Parser.ternary]
  refine .bind left ((soundAt fuel).rescued ks)
    ((known.rescued c ks other left (by omega)).mono (Extends.imp fun _ _ => .unconditional)) ?_
  intro condition c' used rest split behind test
  refine .peek ?_
  split
  next found =>
    obtain ⟨more, rfl⟩ := behind.exists_cons found rfl
    rw [split, List.length_append, List.length_cons] at enough
    refine .advance behind fun c' behind => .bind behind ((soundAt fuel).ternary more)
      ((known.ternary c' more other behind (by omega)).mono ?_) ?_
    · rintro taken ⟨further, e, derives⟩
      exact ⟨further ++ [.colon, .integer 0], _,
        by simpa using Derives.choice test derives derives_zero_ternary⟩
    intro a c' middle rest split behind thenBranch
    refine .expect behind (by decide) only_colon rfl ?_ fun c' others parts behind => ?_
    · exact ⟨[.colon, .integer 0], _, by simpa using Derives.choice test thenBranch derives_zero_ternary⟩
    rw [split, parts, List.length_append, List.length_cons] at enough
    refine .map behind ((soundAt fuel).ternary others)
      ((known.ternary c' others other behind (by omega)).mono ?_)
    rintro taken ⟨further, e, derives⟩
    exact ⟨further, _, by simpa using Derives.choice test thenBranch derives⟩
  next => exact .pure _ _ _

theorem rescued_succ (known : ForetellsAt fuel) (c : Cursor) (ks : List TokenKind) (other : Nat)
    (left : Left c ks) (enough : 16 * ks.length + 11 ≤ fuel + 1) :
    Foretells (Parser.rescued (fuel + 1)) (Parser.rescued (other + 1)) c (Extends .rescued) := by
  rw [Parser.rescued, Parser.rescued]
  refine .bind left ((soundAt fuel).binary 0 ks (Nat.zero_le 6))
    ((known.binary 0 c ks other left (Nat.zero_le 6) (by omega)).mono (Extends.imp fun _ _ => .unrescued)) ?_
  intro operand c' used rest split behind first
  refine .peek ?_
  split
  next found =>
    obtain ⟨more, rfl⟩ := behind.exists_cons found rfl
    rw [split, List.length_append, List.length_cons] at enough
    refine .advance behind fun c' behind => .map behind ((soundAt fuel).rescued more)
      ((known.rescued c' more other behind (by omega)).mono ?_)
    rintro taken ⟨further, e, derives⟩
    exact ⟨further, _, by simpa using Derives.rescue first derives⟩
  next => exact .pure _ _ _

theorem binary_succ (known : ForetellsAt fuel) (level : Nat) (c : Cursor) (ks : List TokenKind) (other : Nat)
    (left : Left c ks) (bounded : level ≤ 6) (enough : 16 * ks.length + (6 - level) + 4 ≤ fuel + 1) :
    Foretells (Parser.binary level (fuel + 1)) (Parser.binary level (other + 1)) c
      (Extends (.binary level)) := by
  rw [Parser.binary, Parser.binary]
  by_cases inside : level < levels
  · have below : level < 6 := inside
    rw [if_pos inside, if_pos inside]
    refine .bind left ((soundAt fuel).binary (level + 1) ks inside)
      ((known.binary (level + 1) c ks other left inside (by omega)).mono
        (Extends.imp fun _ _ => .tighter inside)) ?_
    intro first c' used rest split behind derives
    rw [split, List.length_append] at enough
    exact known.chain level first used c' rest other (.tighter inside derives) behind (by omega)
  · obtain rfl : level = 6 := Nat.le_antisymm bounded (Nat.le_of_not_lt inside)
    rw [if_neg inside, if_neg inside]
    exact (known.signed c ks other left (by omega)).mono (Extends.imp fun _ _ => .tightest)

theorem chain_succ (known : ForetellsAt fuel) (level : Nat) (first : Expr) (before : List TokenKind)
    (c : Cursor) (ks : List TokenKind) (other : Nat) (derives : Derives before (.binary level first))
    (left : Left c ks) (enough : 16 * ks.length + 1 ≤ fuel + 1) :
    Foretells (Parser.chain level first (fuel + 1)) (Parser.chain level first (other + 1)) c fun taken =>
      Extends (.binary level) (before ++ taken) := by
  rw [Parser.chain, Parser.chain]
  refine .peek ?_
  split
  next op found =>
    have operator := (operatorAt_eq_some level c.current.kind op).mp found
    generalize looked : c.current.kind = k at operator
    obtain ⟨more, rfl⟩ := left.exists_cons looked operator.inside.1
    have inside := operator.inside.2
    rw [List.length_cons] at enough
    refine .advance left fun c' left => .bind left ((soundAt fuel).binary (level + 1) more inside)
      ((known.binary (level + 1) c' more other left inside (by omega)).mono ?_) ?_
    · rintro taken ⟨further, e, right⟩
      exact ⟨further, _, by simpa using Derives.operation derives operator right⟩
    intro second c' used rest split behind right
    rw [split, List.length_append] at enough
    have longer := Derives.operation derives operator right
    exact (known.chain level (.binary op first second) _ c' rest other longer behind (by omega)).mono
      fun taken whole => by simpa using whole
  next => exact .pure _ _ _

theorem signed_succ (known : ForetellsAt fuel) (c : Cursor) (ks : List TokenKind) (other : Nat)
    (left : Left c ks) (enough : 16 * ks.length + 3 ≤ fuel + 1) :
    Foretells (Parser.signed (fuel + 1)) (Parser.signed (other + 1)) c (Extends .signed) := by
  rw [Parser.signed, Parser.signed]
  refine .peek ?_
  split
  next op found =>
    have sign := (signOf?_eq_some c.current.kind op).mp found
    generalize looked : c.current.kind = k at sign
    obtain ⟨more, rfl⟩ := left.exists_cons looked sign.inside
    rw [List.length_cons] at enough
    refine .advance left fun c' left => .map left ((soundAt fuel).signed more)
      ((known.signed c' more other left (by omega)).mono ?_)
    rintro taken ⟨further, e, derives⟩
    exact ⟨further, _, .sign sign derives⟩
  next =>
    refine .bind left ((soundAt fuel).primary ks) ((known.primary c ks other left (by omega)).mono
      (Extends.imp fun _ _ derives => .unsigned (.bare derives))) ?_
    intro operand c' used rest split behind derives
    rw [split, List.length_append] at enough
    exact (known.postfixes operand used c' rest other (.bare derives) behind (by omega)).mono
      fun taken => Extends.imp (fun _ _ => .unsigned) (used ++ taken)

theorem postfixes_succ (known : ForetellsAt fuel) (operand : Expr) (before : List TokenKind) (c : Cursor)
    (ks : List TokenKind) (other : Nat) (derives : Derives before (.operand operand)) (left : Left c ks)
    (enough : 16 * ks.length + 1 ≤ fuel + 1) :
    Foretells (Parser.postfixes operand (fuel + 1)) (Parser.postfixes operand (other + 1)) c fun taken =>
      Extends .operand (before ++ taken) := by
  refine .congr (postfixes_eq operand fuel c) (fun d _ => postfixes_eq operand other d) (.peek ?_)
  unfold attach
  split
  next found =>
    obtain ⟨more, rfl⟩ := left.exists_cons found rfl
    rw [List.length_cons] at enough
    refine .bind left (yields_access more) (foretells_access left ?_) ?_
    · exact ⟨[.identifier "", .openParen, .closeParen],
        _, by simpa using Derives.method "" derives .noArguments⟩
    intro name c' used rest split behind named
    obtain rfl := named
    obtain rfl : more = .identifier name :: rest := (List.cons.inj split).2
    refine .expect behind (by decide) only_openParen rfl ?_ fun c' inner opens behind => ?_
    · exact ⟨[.openParen, .closeParen], _, by simpa using Derives.method name derives .noArguments⟩
    rw [opens, List.length_cons, List.length_cons] at enough
    refine .bind behind ((soundAt fuel).arguments inner).through
      ((known.arguments c' inner other behind (by omega)).mono ?_) ?_
    · rintro taken ⟨further, args, listed⟩
      exact ⟨further ++ [.closeParen], _, by simpa using Derives.method name derives listed⟩
    intro args c' used rest split behind taken
    obtain ⟨listed, rfl, arguments⟩ := taken
    rw [split, List.length_append] at enough
    have longer := Derives.method name derives arguments
    exact (known.postfixes (.method operand name args) _ c' rest other longer behind (by omega)).mono
      fun taken whole => by simpa using whole
  next found =>
    obtain ⟨more, rfl⟩ := left.exists_cons found rfl
    rw [List.length_cons] at enough
    refine .advance left fun c' behind => .bind behind ((soundAt fuel).ternary more)
      ((known.ternary c' more other behind (by omega)).mono ?_) ?_
    · rintro taken ⟨further, e, inner⟩
      exact ⟨further ++ [.closeBracket], _, by simpa using Derives.index derives inner⟩
    intro key c' used rest split behind inner
    refine .expect behind (by decide) only_closeBracket rfl ?_ fun c' others closes behind => ?_
    · exact ⟨[.closeBracket], _, by simpa using Derives.index derives inner⟩
    rw [split, closes, List.length_append, List.length_cons] at enough
    have longer := Derives.index derives inner
    exact (known.postfixes (.index operand key) _ c' others other longer behind (by omega)).mono
      fun taken whole => by simpa using whole
  next => exact .pure _ _ _

theorem primary_succ (known : ForetellsAt fuel) (c : Cursor) (ks : List TokenKind) (other : Nat)
    (left : Left c ks) (enough : 16 * ks.length + 2 ≤ fuel + 1) :
    Foretells (Parser.primary (fuel + 1)) (Parser.primary (other + 1)) c (Extends .primary) := by
  rw [Parser.primary, Parser.primary]
  refine .peek ?_
  split
  next n found =>
    obtain ⟨more, rfl⟩ := left.exists_cons found rfl
    exact .advance left fun c' _ => .pure _ _ _
  next x found =>
    obtain ⟨more, rfl⟩ := left.exists_cons found rfl
    exact .advance left fun c' _ => .pure _ _ _
  next b found =>
    obtain ⟨more, rfl⟩ := left.exists_cons found rfl
    exact .advance left fun c' _ => .pure _ _ _
  next =>
    exact (known.template true c ks other left (by omega)).mono (Extends.imp fun _ _ => .quoted)
  next name found =>
    obtain ⟨more, rfl⟩ := left.exists_cons found rfl
    rw [List.length_cons] at enough
    refine .advance left fun c' left => .peek ?_
    split
    next opens =>
      obtain ⟨inner, rfl⟩ := left.exists_cons opens rfl
      rw [List.length_cons] at enough
      refine .advance left fun c' left => .map left ((soundAt fuel).arguments inner).through
        ((known.arguments c' inner other left (by omega)).mono ?_)
      rintro taken ⟨further, args, derives⟩
      exact ⟨further ++ [.closeParen], _, by simpa using Derives.call name derives⟩
    next => exact .pure _ _ _
  next found =>
    obtain ⟨more, rfl⟩ := left.exists_cons found rfl
    rw [List.length_cons] at enough
    refine .advance left fun c' left => .bind left ((soundAt fuel).ternary more)
      ((known.ternary c' more other left (by omega)).mono ?_) ?_
    · rintro taken ⟨further, e, derives⟩
      exact ⟨further ++ [.closeParen], _, by simpa using Derives.parenthesized derives⟩
    intro e c' used rest split behind derives
    refine .expect behind (by decide) only_closeParen rfl ?_ fun _ _ _ _ => .pure _ _ _
    exact ⟨[.closeParen], _, by simpa using Derives.parenthesized derives⟩
  next => exact .fail (by decide) ⟨[.integer 0], _, .integer 0⟩

theorem arguments_succ (known : ForetellsAt fuel) (c : Cursor) (ks : List TokenKind) (other : Nat)
    (left : Left c ks) (enough : 16 * ks.length + 14 ≤ fuel + 1) :
    Foretells (Parser.arguments (fuel + 1)) (Parser.arguments (other + 1)) c (Extends .arguments) := by
  rw [Parser.arguments, Parser.arguments]
  refine .peek ?_
  split
  next found =>
    obtain ⟨more, rfl⟩ := left.exists_cons found rfl
    exact .advance left fun c' _ => .pure _ _ _
  next =>
    exact (known.moreArguments c ks other left (by omega)).mono (Extends.imp fun _ _ => .arguments)

theorem moreArguments_succ (known : ForetellsAt fuel) (c : Cursor) (ks : List TokenKind) (other : Nat)
    (left : Left c ks) (enough : 16 * ks.length + 13 ≤ fuel + 1) :
    Foretells (Parser.moreArguments (fuel + 1)) (Parser.moreArguments (other + 1)) c
      (Extends .someArguments) := by
  rw [Parser.moreArguments, Parser.moreArguments]
  refine .bind left ((soundAt fuel).ternary ks)
    ((known.ternary c ks other left (by omega)).mono (Extends.imp fun _ _ => .lastArgument)) ?_
  intro arg c' used rest split behind derives
  refine .peek ?_
  split
  next found =>
    obtain ⟨more, rfl⟩ := behind.exists_cons found rfl
    rw [split, List.length_append, List.length_cons] at enough
    refine .advance behind fun c' behind => .map behind ((soundAt fuel).moreArguments more).through
      ((known.moreArguments c' more other behind (by omega)).mono ?_)
    rintro taken ⟨further, args, rest⟩
    exact ⟨further, _, by simpa using Derives.argument derives rest⟩
  next =>
    refine .expect behind (by decide) only_closeParen rfl ?_ fun _ _ _ _ => .pure _ _ _
    exact ⟨[], [arg], by simpa using Derives.lastArgument derives⟩

end ForetellsAt

/-- Without fuel nothing is taken off. -/
theorem Foretells.anyFuel {α : Type} {p : Parser α} {proc : Nat → Parser α} {c : Cursor}
    {V : List TokenKind → Prop} (none : proc 0 = Parser.fail .expression)
    (some : ∀ other, Foretells p (proc (other + 1)) c V) (other : Nat) : Foretells p (proc other) c V := by
  cases other with
  | zero =>
      rw [none]
      exact (some 0).ofFail
  | succ other => exact some other

/-- The procedures foretell what they do with other fuel, by induction on their own. -/
theorem foretellsAt (fuel : Nat) : ForetellsAt fuel := by
  induction fuel with
  | zero => constructor <;> intros <;> omega
  | succ fuel known =>
      exact
        { parts := fun quoted c ks other left enough =>
            .anyFuel rfl (fun n => known.parts_succ quoted c ks n left enough) other
          template := fun quoted c ks other left enough =>
            .anyFuel rfl (fun n => known.template_succ quoted c ks n left enough) other
          ternary := fun c ks other left enough =>
            .anyFuel rfl (fun n => known.ternary_succ c ks n left enough) other
          rescued := fun c ks other left enough =>
            .anyFuel rfl (fun n => known.rescued_succ c ks n left enough) other
          binary := fun level c ks other left bounded enough =>
            .anyFuel rfl (fun n => known.binary_succ level c ks n left bounded enough) other
          chain := fun level first before c ks other derives left enough =>
            .anyFuel rfl (fun n => known.chain_succ level first before c ks n derives left enough) other
          signed := fun c ks other left enough =>
            .anyFuel rfl (fun n => known.signed_succ c ks n left enough) other
          postfixes := fun operand before c ks other derives left enough =>
            .anyFuel rfl (fun n => known.postfixes_succ operand before c ks n derives left enough) other
          primary := fun c ks other left enough =>
            .anyFuel rfl (fun n => known.primary_succ c ks n left enough) other
          arguments := fun c ks other left enough =>
            .anyFuel rfl (fun n => known.arguments_succ c ks n left enough) other
          moreArguments := fun c ks other left enough =>
            .anyFuel rfl (fun n => known.moreArguments_succ c ks n left enough) other }

end Parser

end CardExpr
