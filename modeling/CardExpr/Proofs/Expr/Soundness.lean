import CardExpr.Proofs.Expr.Grammar
import CardExpr.Proofs.Expr.Reading

/-! The parser takes only what the grammar derives. -/

namespace CardExpr.Parser

open Grammar

/-- The first of these kinds, up to `rest`, derive the phrase. -/
def Takes (ks : List TokenKind) (phrase : Phrase) (rest : List TokenKind) : Prop :=
  ∃ used, ks = used ++ rest ∧ Derives used phrase

/-- What every procedure takes with this fuel derives its phrase. The parts of a template and the
arguments are taken with the kind behind them. -/
structure SoundAt (fuel : Nat) : Prop where
  parts : ∀ quoted ks, Yields (parts quoted fuel) ks fun found rest =>
    Takes ks (.parts found) (.templateEnd :: rest)
  template : ∀ quoted ks, Yields (template quoted fuel) ks fun e => Takes ks (.template quoted e)
  ternary : ∀ ks, Yields (ternary fuel) ks fun e => Takes ks (.ternary e)
  rescued : ∀ ks, Yields (rescued fuel) ks fun e => Takes ks (.rescued e)
  binary : ∀ level ks, level ≤ 6 → Yields (binary level fuel) ks fun e => Takes ks (.binary level e)
  chain : ∀ level left before ks, Derives before (.binary level left) →
    Yields (chain level left fuel) ks fun e => Takes (before ++ ks) (.binary level e)
  signed : ∀ ks, Yields (signed fuel) ks fun e => Takes ks (.signed e)
  postfixes : ∀ operand before ks, Derives before (.operand operand) →
    Yields (postfixes operand fuel) ks fun e => Takes (before ++ ks) (.operand e)
  primary : ∀ ks, Yields (primary fuel) ks fun e => Takes ks (.primary e)
  arguments : ∀ ks, Yields (arguments fuel) ks fun args rest =>
    Takes ks (.arguments args) (.closeParen :: rest)
  moreArguments : ∀ ks, Yields (moreArguments fuel) ks fun args rest =>
    Takes ks (.someArguments args) (.closeParen :: rest)

namespace SoundAt

variable {fuel : Nat}

theorem parts_succ (sound : SoundAt fuel) (quoted : Bool) (ks : List TokenKind) :
    Yields (Parser.parts quoted (fuel + 1)) ks fun found rest =>
      Takes ks (.parts found) (.templateEnd :: rest) := by
  rw [Parser.parts]
  refine .peek ?_
  split
  next content found =>
    obtain ⟨more, rfl⟩ := head_eq_cons found rfl
    refine .advance (.bind (sound.parts quoted more) fun found rest takes => .pure ?_)
    obtain ⟨used, rfl, derives⟩ := takes
    exact ⟨.text content :: used, rfl, .text content derives⟩
  next found =>
    obtain ⟨more, rfl⟩ := head_eq_cons found rfl
    refine .advance (.bind (sound.ternary more) fun e behind takes =>
      .expect only_spanEnd rfl fun inner closes => ?_)
    obtain ⟨used, rfl, derives⟩ := takes
    subst closes
    refine .bind (sound.parts quoted inner) fun found rest takes => .pure ?_
    obtain ⟨others, rfl, further⟩ := takes
    exact ⟨.spanStart :: used ++ .spanEnd :: others, by simp, .span derives further⟩
  next found =>
    obtain ⟨more, rfl⟩ := head_eq_cons found rfl
    exact .advance (.pure ⟨[], rfl, .noParts⟩)
  next => exact .fail _

theorem template_succ (sound : SoundAt fuel) (quoted : Bool) (ks : List TokenKind) :
    Yields (Parser.template quoted (fuel + 1)) ks fun e => Takes ks (.template quoted e) := by
  rw [Parser.template]
  refine .expect only_templateStart rfl fun more opens => ?_
  subst opens
  refine .bind (sound.parts quoted more) fun found rest takes => .pure ?_
  obtain ⟨used, rfl, derives⟩ := takes
  exact ⟨.templateStart :: used ++ [.templateEnd], by simp,
    .template derives ((templateOf_eq quoted found _).mp rfl)⟩

theorem ternary_succ (sound : SoundAt fuel) (ks : List TokenKind) :
    Yields (Parser.ternary (fuel + 1)) ks fun e => Takes ks (.ternary e) := by
  rw [Parser.ternary]
  refine .bind (sound.rescued ks) fun condition behind takes => .peek ?_
  obtain ⟨used, rfl, derives⟩ := takes
  split
  next found =>
    obtain ⟨more, rfl⟩ := head_eq_cons found rfl
    refine .advance (.bind (sound.ternary more) fun a behind takes =>
      .expect only_colon rfl fun others splits => ?_)
    obtain ⟨middle, rfl, thenBranch⟩ := takes
    subst splits
    refine .bind (sound.ternary others) fun b rest takes => .pure ?_
    obtain ⟨last, rfl, elseBranch⟩ := takes
    exact ⟨used ++ .question :: middle ++ .colon :: last, by simp,
      .choice derives thenBranch elseBranch⟩
  next => exact .pure ⟨used, rfl, .unconditional derives⟩

theorem rescued_succ (sound : SoundAt fuel) (ks : List TokenKind) :
    Yields (Parser.rescued (fuel + 1)) ks fun e => Takes ks (.rescued e) := by
  rw [Parser.rescued]
  refine .bind (sound.binary 0 ks (Nat.zero_le 6)) fun operand behind takes => .peek ?_
  obtain ⟨used, rfl, derives⟩ := takes
  split
  next found =>
    obtain ⟨more, rfl⟩ := head_eq_cons found rfl
    refine .advance (.bind (sound.rescued more) fun fallback rest takes => .pure ?_)
    obtain ⟨others, rfl, further⟩ := takes
    exact ⟨used ++ .rescue :: others, by simp, .rescue derives further⟩
  next => exact .pure ⟨used, rfl, .unrescued derives⟩

theorem binary_succ (sound : SoundAt fuel) (level : Nat) (ks : List TokenKind) (bounded : level ≤ 6) :
    Yields (Parser.binary level (fuel + 1)) ks fun e => Takes ks (.binary level e) := by
  rw [Parser.binary]
  split
  next inside =>
    refine .bind (sound.binary (level + 1) ks inside) fun left behind takes => ?_
    obtain ⟨used, rfl, derives⟩ := takes
    exact sound.chain level left used behind (.tighter inside derives)
  next outside =>
    have last : level = 6 := Nat.le_antisymm bounded (Nat.le_of_not_lt outside)
    subst last
    refine .mono (sound.signed ks) fun e rest takes => ?_
    obtain ⟨used, rfl, derives⟩ := takes
    exact ⟨used, rfl, .tightest derives⟩

theorem chain_succ (sound : SoundAt fuel) (level : Nat) (left : Expr) (before ks : List TokenKind)
    (derives : Derives before (.binary level left)) :
    Yields (Parser.chain level left (fuel + 1)) ks fun e => Takes (before ++ ks) (.binary level e) := by
  rw [Parser.chain]
  refine .peek ?_
  split
  next op found =>
    have operator := (operatorAt_eq_some level (head ks) op).mp found
    generalize looked : head ks = k at operator
    obtain ⟨more, rfl⟩ := head_eq_cons looked operator.inside.1
    refine .advance (.bind (sound.binary (level + 1) more operator.inside.2) fun right behind takes => ?_)
    obtain ⟨used, rfl, further⟩ := takes
    have longer := Derives.operation derives operator further
    refine .mono (sound.chain level (.binary op left right) _ behind longer) fun e rest takes => ?_
    simpa using takes
  next => exact .pure ⟨before, rfl, derives⟩

theorem signed_succ (sound : SoundAt fuel) (ks : List TokenKind) :
    Yields (Parser.signed (fuel + 1)) ks fun e => Takes ks (.signed e) := by
  rw [Parser.signed]
  refine .peek ?_
  split
  next op found =>
    have sign := (signOf?_eq_some (head ks) op).mp found
    generalize looked : head ks = k at sign
    obtain ⟨more, rfl⟩ := head_eq_cons looked sign.inside
    refine .advance (.bind (sound.signed more) fun operand rest takes => .pure ?_)
    obtain ⟨used, rfl, derives⟩ := takes
    exact ⟨_ :: used, rfl, .sign sign derives⟩
  next =>
    refine .bind (sound.primary ks) fun operand behind takes => ?_
    obtain ⟨used, rfl, derives⟩ := takes
    refine .mono (sound.postfixes operand used behind (.bare derives)) fun e rest takes => ?_
    obtain ⟨all, same, derives⟩ := takes
    exact ⟨all, same, .unsigned derives⟩

theorem postfixes_succ (sound : SoundAt fuel) (operand : Expr) (before ks : List TokenKind)
    (derives : Derives before (.operand operand)) :
    Yields (Parser.postfixes operand (fuel + 1)) ks fun e => Takes (before ++ ks) (.operand e) := by
  rw [Parser.postfixes]
  refine .get fun c looked => ?_
  simp only
  rw [looked]
  split
  next found =>
    obtain ⟨more, rfl⟩ := head_eq_cons found rfl
    refine .advance (.bind (yields_methodName _ more) fun name behind same =>
      .expect only_openParen rfl fun inner opens => .bind (sound.arguments inner) fun args rest takes => ?_)
    subst same opens
    obtain ⟨used, rfl, arguments⟩ := takes
    have longer := Derives.method name derives arguments
    refine .mono (sound.postfixes (.method operand name args) _ rest longer) fun e rest takes => ?_
    simpa using takes
  next found =>
    obtain ⟨more, rfl⟩ := head_eq_cons found rfl
    refine .advance (.bind (sound.ternary more) fun key behind takes =>
      .expect only_closeBracket rfl fun rest closes => ?_)
    subst closes
    obtain ⟨used, rfl, inner⟩ := takes
    have longer := Derives.index derives inner
    refine .mono (sound.postfixes (.index operand key) _ rest longer) fun e rest takes => ?_
    simpa using takes
  next => exact .pure ⟨before, rfl, derives⟩

theorem primary_succ (sound : SoundAt fuel) (ks : List TokenKind) :
    Yields (Parser.primary (fuel + 1)) ks fun e => Takes ks (.primary e) := by
  rw [Parser.primary]
  refine .peek ?_
  split
  next n found =>
    obtain ⟨more, rfl⟩ := head_eq_cons found rfl
    exact .advance (.pure ⟨[_], rfl, .integer n⟩)
  next x found =>
    obtain ⟨more, rfl⟩ := head_eq_cons found rfl
    exact .advance (.pure ⟨[_], rfl, .number x⟩)
  next b found =>
    obtain ⟨more, rfl⟩ := head_eq_cons found rfl
    exact .advance (.pure ⟨[_], rfl, .boolean b⟩)
  next =>
    refine .mono (sound.template true ks) fun e rest takes => ?_
    obtain ⟨used, same, derives⟩ := takes
    exact ⟨used, same, .quoted derives⟩
  next name found =>
    obtain ⟨more, rfl⟩ := head_eq_cons found rfl
    refine .advance (.peek ?_)
    split
    next opens =>
      obtain ⟨inner, rfl⟩ := head_eq_cons opens rfl
      refine .advance (.bind (sound.arguments inner) fun args rest takes => .pure ?_)
      obtain ⟨used, rfl, derives⟩ := takes
      exact ⟨.identifier name :: .openParen :: used ++ [.closeParen], by simp, .call name derives⟩
    next => exact .pure ⟨[_], rfl, .variable name⟩
  next found =>
    obtain ⟨more, rfl⟩ := head_eq_cons found rfl
    refine .advance (.bind (sound.ternary more) fun e behind takes =>
      .expect only_closeParen rfl fun rest closes => .pure ?_)
    subst closes
    obtain ⟨used, rfl, derives⟩ := takes
    exact ⟨.openParen :: used ++ [.closeParen], by simp, .parenthesized derives⟩
  next => exact .fail _

theorem arguments_succ (sound : SoundAt fuel) (ks : List TokenKind) :
    Yields (Parser.arguments (fuel + 1)) ks fun args rest =>
      Takes ks (.arguments args) (.closeParen :: rest) := by
  rw [Parser.arguments]
  refine .peek ?_
  split
  next found =>
    obtain ⟨more, rfl⟩ := head_eq_cons found rfl
    exact .advance (.pure ⟨[], rfl, .noArguments⟩)
  next =>
    refine .mono (sound.moreArguments ks) fun args rest takes => ?_
    obtain ⟨used, same, derives⟩ := takes
    exact ⟨used, same, .arguments derives⟩

theorem moreArguments_succ (sound : SoundAt fuel) (ks : List TokenKind) :
    Yields (Parser.moreArguments (fuel + 1)) ks fun args rest =>
      Takes ks (.someArguments args) (.closeParen :: rest) := by
  rw [Parser.moreArguments]
  refine .bind (sound.ternary ks) fun arg behind takes => .peek ?_
  obtain ⟨used, rfl, derives⟩ := takes
  split
  next found =>
    obtain ⟨more, rfl⟩ := head_eq_cons found rfl
    refine .advance (.bind (sound.moreArguments more) fun args rest takes => .pure ?_)
    obtain ⟨others, rfl, further⟩ := takes
    exact ⟨used ++ .comma :: others, by simp, .argument derives further⟩
  next =>
    refine .expect only_closeParen rfl fun rest closes => .pure ?_
    subst closes
    exact ⟨used, rfl, .lastArgument derives⟩

end SoundAt

/-- The parser is sound with any fuel, by induction on it. -/
theorem soundAt (fuel : Nat) : SoundAt fuel := by
  induction fuel with
  | zero => constructor <;> intros <;> exact .fail .expression
  | succ fuel sound =>
      exact
        { parts := sound.parts_succ
          template := sound.template_succ
          ternary := sound.ternary_succ
          rescued := sound.rescued_succ
          binary := sound.binary_succ
          chain := sound.chain_succ
          signed := sound.signed_succ
          postfixes := sound.postfixes_succ
          primary := sound.primary_succ
          arguments := sound.arguments_succ
          moreArguments := sound.moreArguments_succ }

end CardExpr.Parser
