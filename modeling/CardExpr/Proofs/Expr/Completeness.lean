import CardExpr.Proofs.Expr.Grammar
import CardExpr.Proofs.Expr.Reading

/-! The parser takes everything that the grammar derives, if nothing behind it could be part of it. -/

namespace CardExpr.Parser

open Grammar

/-- How tightly a kind behind a phrase would bind to it: 0 for what ends every phrase. -/
def glue : TokenKind → Nat
  | .question => 1
  | .rescue => 2
  | .either => 3
  | .both => 4
  | .equal => 5
  | .notEqual => 5
  | .less => 6
  | .lessEqual => 6
  | .greater => 6
  | .greaterEqual => 6
  | .plus => 7
  | .minus => 7
  | .star => 8
  | .slash => 8
  | .percent => 8
  | .dot => 9
  | .openBracket => 9
  | .openParen => 10
  | _ => 0

/-- What is left binds less tightly than `bound`. -/
def Stops (bound : Nat) (rest : List TokenKind) : Prop := glue (head rest) < bound

theorem Stops.mono {few many : Nat} {rest : List TokenKind} (stops : Stops few rest) (le : few ≤ many) :
    Stops many rest :=
  Nat.lt_of_lt_of_le stops le

theorem Stops.glue_lt {bound : Nat} {rest : List TokenKind} {k : TokenKind} (stops : Stops bound rest)
    (found : head rest = k) : glue k < bound := by
  rw [← found]
  exact stops

theorem glue_of_operator {level : Nat} {k : TokenKind} {op : BinaryOp} (operator : Operator level k op) :
    glue k = level + 3 := by
  cases operator <;> rfl

def opensOperand : TokenKind → Bool
  | .integer _ => true
  | .number _ => true
  | .boolean _ => true
  | .templateStart => true
  | .identifier _ => true
  | .openParen => true
  | _ => false

/-- The kinds begin like the phrase, whatever is behind them. -/
def Begins (ks : List TokenKind) : Phrase → Prop
  | .template _ _ => ∀ rest, head (ks ++ rest) = .templateStart
  | .operand _ => ∀ rest, opensOperand (head (ks ++ rest)) = true
  | .primary _ => ∀ rest, opensOperand (head (ks ++ rest)) = true
  | .parts _ => True
  | .arguments _ => True
  | _ => ∀ rest, isCloseParen (head (ks ++ rest)) = false

theorem signOf?_eq_none {k : TokenKind} (opens : opensOperand k = true) : signOf? k = none := by
  cases k <;> first | rfl | cases opens

theorem isCloseParen_of_opens {k : TokenKind} (opens : opensOperand k = true) :
    isCloseParen k = false := by
  cases k <;> first | rfl | cases opens

theorem isCloseParen_of_sign {k : TokenKind} {op : UnaryOp} (sign : Sign k op) :
    isCloseParen k = false := by
  cases sign <;> rfl

theorem begins {ks : List TokenKind} {phrase : Phrase} (derives : Derives ks phrase) :
    Begins ks phrase := by
  have longer : ∀ (p : TokenKind → Prop) {ks : List TokenKind} (more : List TokenKind),
      (∀ rest, p (head (ks ++ rest))) → ∀ rest, p (head (ks ++ more ++ rest)) := by
    intro p ks more holds rest
    rw [List.append_assoc]
    exact holds (more ++ rest)
  induction derives with
  | template inner folds => exact fun rest => rfl
  | noParts => trivial
  | text content rest => trivial
  | span inner rest => trivial
  | unconditional inner ih => exact ih
  | choice condition thenBranch elseBranch ih =>
      simp only [List.append_assoc]
      exact longer (isCloseParen · = false) _ ih
  | unrescued inner ih => exact ih
  | rescue operand fallback ih => exact longer (isCloseParen · = false) _ ih
  | tighter inside inner ih => exact ih
  | operation left operator right ih => exact longer (isCloseParen · = false) _ ih
  | tightest inner ih => exact ih
  | sign sign inner ih => exact fun rest => isCloseParen_of_sign sign
  | unsigned inner ih => exact fun rest => isCloseParen_of_opens (ih rest)
  | bare inner ih => exact ih
  | method name receiver inner ih =>
      simp only [List.append_assoc]
      exact longer (opensOperand · = true) _ ih
  | index target inner ih =>
      simp only [List.append_assoc]
      exact longer (opensOperand · = true) _ ih
  | integer n => exact fun rest => rfl
  | number x => exact fun rest => rfl
  | boolean b => exact fun rest => rfl
  | quoted inner ih =>
      intro rest
      rw [ih rest]
      rfl
  | «variable» name => exact fun rest => rfl
  | call name inner => exact fun rest => rfl
  | parenthesized inner => exact fun rest => rfl
  | noArguments => trivial
  | «arguments» inner => trivial
  | lastArgument inner ih => exact ih
  | argument inner rest ih => exact longer (isCloseParen · = false) _ ih

/-- With enough fuel, the procedure of the phrase takes these kinds off whatever may follow them. Where
the grammar recurs on the left, the loop that goes on behind the phrase decides what is taken. -/
def Completes (ks : List TokenKind) : Phrase → Prop
  | .template quoted e => ∀ rest fuel, 16 * ks.length ≤ fuel →
      Reads (template quoted fuel) (ks ++ rest) e rest
  | .parts found => ∀ quoted rest fuel, 16 * ks.length + 1 ≤ fuel →
      Reads (parts quoted fuel) (ks ++ .templateEnd :: rest) found rest
  | .ternary e => ∀ rest fuel, Stops 1 rest → 16 * ks.length + 19 ≤ fuel →
      Reads (ternary fuel) (ks ++ rest) e rest
  | .rescued e => ∀ rest fuel, Stops 2 rest → 16 * ks.length + 18 ≤ fuel →
      Reads (rescued fuel) (ks ++ rest) e rest
  | .binary level e =>
      (∀ rest fuel, Stops (level + 3) rest → 16 * ks.length + 2 * (6 - level) + 5 ≤ fuel →
        Reads (binary level fuel) (ks ++ rest) e rest) ∧
      (level < 6 → ∀ rest value out need fuel, Stops (level + 4) rest →
        (∀ enough, need ≤ enough → Reads (chain level e enough) rest value out) →
          need + 16 * ks.length + 2 * (6 - level) + 4 ≤ fuel →
            Reads (binary level fuel) (ks ++ rest) value out)
  | .signed e => ∀ rest fuel, Stops 9 rest → 16 * ks.length + 3 ≤ fuel →
      Reads (signed fuel) (ks ++ rest) e rest
  | .operand e => ∀ rest value out need fuel, Stops 10 rest →
      (∀ enough, need ≤ enough → Reads (postfixes e enough) rest value out) →
        need + 16 * ks.length + 1 ≤ fuel →
          Reads (primary fuel >>= fun operand => postfixes operand fuel) (ks ++ rest) value out
  | .primary e => ∀ rest fuel, Stops 10 rest → 16 * ks.length + 1 ≤ fuel →
      Reads (primary fuel) (ks ++ rest) e rest
  | .arguments args => ∀ rest fuel, 16 * ks.length + 21 ≤ fuel →
      Reads (arguments fuel) (ks ++ .closeParen :: rest) args rest
  | .someArguments args => ∀ rest fuel, 16 * ks.length + 20 ≤ fuel →
      Reads (moreArguments fuel) (ks ++ .closeParen :: rest) args rest

/-- A loop over operators of the level ends where nothing binds as tightly as they do. -/
theorem reads_chain_end (level : Nat) (e : Expr) (rest : List TokenKind) (fuel : Nat)
    (stops : Stops (level + 3) rest) (enough : 1 ≤ fuel) : Reads (chain level e fuel) rest e rest := by
  obtain ⟨fuel, rfl⟩ := Nat.exists_eq_add_of_le' enough
  rw [chain]
  refine .peek ?_
  split
  next op found =>
    have operator := (operatorAt_eq_some level (head rest) op).mp found
    have tight := stops.glue_lt rfl
    rw [glue_of_operator operator] at tight
    exact absurd tight (Nat.lt_irrefl _)
  next => exact .pure e rest

theorem reads_postfixes_end (e : Expr) (rest : List TokenKind) (fuel : Nat) (stops : Stops 9 rest)
    (enough : 1 ≤ fuel) : Reads (postfixes e fuel) rest e rest := by
  obtain ⟨fuel, rfl⟩ := Nat.exists_eq_add_of_le' enough
  rw [postfixes]
  refine .get fun c looked => ?_
  simp only
  rw [looked]
  split
  next found => exact absurd (stops.glue_lt found) (Nat.lt_irrefl 9)
  next found => exact absurd (stops.glue_lt found) (Nat.lt_irrefl 9)
  next => exact .pure e rest

namespace Completes

variable {ks ls ms : List TokenKind} {found : List TemplatePart} {e a b c key : Expr} {args : List Expr}
  {quoted : Bool} {level : Nat}

theorem ofParts (inner : Completes ks (.parts found)) (folds : Folds quoted found e) :
    Completes (.templateStart :: ks ++ [.templateEnd]) (.template quoted e) := by
  intro rest fuel enough
  simp only [List.cons_append, List.append_assoc, List.nil_append, List.length_cons, List.length_append,
    List.length_nil] at enough ⊢
  obtain ⟨fuel, rfl⟩ := Nat.exists_eq_add_of_le' (show 1 ≤ fuel by omega)
  rw [Parser.template]
  refine .expect rfl (.bind (inner quoted rest fuel (by omega)) ?_)
  rw [(templateOf_eq quoted found e).mpr folds]
  exact .pure e rest

theorem noParts : Completes [] (.parts []) := by
  intro quoted rest fuel enough
  obtain ⟨fuel, rfl⟩ := Nat.exists_eq_add_of_le' (show 1 ≤ fuel by omega)
  rw [Parser.parts]
  exact .peek (.advance (.pure [] rest))

theorem text (content : String) (rest : Completes ks (.parts found)) :
    Completes (.text content :: ks) (.parts (.text content :: found)) := by
  intro quoted out fuel enough
  rw [List.length_cons] at enough
  obtain ⟨fuel, rfl⟩ := Nat.exists_eq_add_of_le' (show 1 ≤ fuel by omega)
  rw [Parser.parts]
  exact .peek (.advance (.bind (rest quoted out fuel (by omega)) (.pure _ out)))

theorem span (inner : Completes ks (.ternary e)) (rest : Completes ls (.parts found)) :
    Completes (.spanStart :: ks ++ .spanEnd :: ls) (.parts (.span e :: found)) := by
  intro quoted out fuel enough
  simp only [List.cons_append, List.append_assoc, List.length_cons, List.length_append] at enough ⊢
  obtain ⟨fuel, rfl⟩ := Nat.exists_eq_add_of_le' (show 1 ≤ fuel by omega)
  rw [Parser.parts]
  refine .peek (.advance (.bind (inner _ fuel (Nat.zero_lt_one) (by omega)) (.expect rfl ?_)))
  exact .bind (rest quoted out fuel (by omega)) (.pure _ out)

theorem unconditional (inner : Completes ks (.rescued e)) : Completes ks (.ternary e) := by
  intro rest fuel stops enough
  obtain ⟨fuel, rfl⟩ := Nat.exists_eq_add_of_le' (show 1 ≤ fuel by omega)
  rw [Parser.ternary]
  refine .bind (inner rest fuel (stops.mono (by decide)) (by omega)) (.peek ?_)
  split
  next found =>
    exact absurd (stops.glue_lt found) (Nat.lt_irrefl 1)
  next => exact .pure e rest

theorem choice (condition : Completes ks (.rescued c)) (thenBranch : Completes ls (.ternary a))
    (elseBranch : Completes ms (.ternary b)) :
    Completes (ks ++ .question :: ls ++ .colon :: ms) (.ternary (.ternary c a b)) := by
  intro rest fuel stops enough
  simp only [List.cons_append, List.append_assoc, List.length_cons, List.length_append] at enough ⊢
  obtain ⟨fuel, rfl⟩ := Nat.exists_eq_add_of_le' (show 1 ≤ fuel by omega)
  rw [Parser.ternary]
  refine .bind (condition _ fuel (Nat.lt_succ_self 1) (by omega)) (.peek (.advance ?_))
  refine .bind (thenBranch _ fuel Nat.zero_lt_one (by omega)) (.expect rfl ?_)
  exact .bind (elseBranch rest fuel stops (by omega)) (.pure _ rest)

theorem unrescued (inner : Completes ks (.binary 0 e)) : Completes ks (.rescued e) := by
  intro rest fuel stops enough
  obtain ⟨fuel, rfl⟩ := Nat.exists_eq_add_of_le' (show 1 ≤ fuel by omega)
  rw [Parser.rescued]
  refine .bind (inner.1 rest fuel (stops.mono (by decide)) (by omega)) (.peek ?_)
  split
  next found =>
    exact absurd (stops.glue_lt found) (Nat.lt_irrefl 2)
  next => exact .pure e rest

theorem rescue (operand : Completes ks (.binary 0 a)) (fallback : Completes ls (.rescued b)) :
    Completes (ks ++ .rescue :: ls) (.rescued (.rescue a b)) := by
  intro rest fuel stops enough
  simp only [List.cons_append, List.append_assoc, List.length_cons, List.length_append] at enough ⊢
  obtain ⟨fuel, rfl⟩ := Nat.exists_eq_add_of_le' (show 1 ≤ fuel by omega)
  rw [Parser.rescued]
  refine .bind (operand.1 _ fuel (Nat.lt_succ_self 2) (by omega)) (.peek (.advance ?_))
  exact .bind (fallback rest fuel stops (by omega)) (.pure _ rest)

theorem binary_of_chain
    (chained : ∀ rest value out need fuel, Stops (level + 4) rest →
      (∀ enough, need ≤ enough → Reads (chain level e enough) rest value out) →
        need + 16 * ks.length + 2 * (6 - level) + 4 ≤ fuel →
          Reads (Parser.binary level fuel) (ks ++ rest) value out) :
    Completes ks (.binary level e) := by
  refine ⟨fun rest fuel stops enough => ?_, fun _ => chained⟩
  refine chained rest e rest 1 fuel (stops.mono (Nat.le_succ _)) (fun more positive => ?_) (by omega)
  exact reads_chain_end level e rest more stops positive

theorem tighter (inside : level < 6) (inner : Completes ks (.binary (level + 1) e)) :
    Completes ks (.binary level e) := by
  refine binary_of_chain fun rest value out need fuel stops further enough => ?_
  obtain ⟨fuel, rfl⟩ := Nat.exists_eq_add_of_le' (show 1 ≤ fuel by omega)
  rw [Parser.binary, if_pos (show level < levels from inside)]
  exact .bind (inner.1 rest fuel stops (by omega)) (further fuel (by omega))

theorem operation {k : TokenKind} {op : BinaryOp} (left : Completes ks (.binary level a))
    (operator : Operator level k op) (right : Completes ls (.binary (level + 1) b)) :
    Completes (ks ++ k :: ls) (.binary level (.binary op a b)) := by
  have inside := operator.inside.2
  refine binary_of_chain fun rest value out need fuel stops further enough => ?_
  simp only [List.cons_append, List.append_assoc, List.length_cons, List.length_append] at enough ⊢
  have behind : Stops (level + 4) (k :: (ls ++ rest)) := by
    show glue k < level + 4
    rw [glue_of_operator operator]
    exact Nat.lt_succ_self _
  refine left.2 inside _ value out (need + 16 * ls.length + 2 * (6 - level) + 4) fuel behind ?_ (by omega)
  intro more le
  obtain ⟨more, rfl⟩ := Nat.exists_eq_add_of_le' (show 1 ≤ more by omega)
  rw [chain]
  refine .peek ?_
  rw [show operatorAt level (head (k :: (ls ++ rest))) = some op from
    (operatorAt_eq_some level k op).mpr operator]
  exact .advance (.bind (right.1 rest more stops (by omega)) (further more (by omega)))

theorem tightest (inner : Completes ks (.signed e)) : Completes ks (.binary 6 e) := by
  refine ⟨fun rest fuel stops enough => ?_, fun inside => absurd inside (Nat.lt_irrefl 6)⟩
  obtain ⟨fuel, rfl⟩ := Nat.exists_eq_add_of_le' (show 1 ≤ fuel by omega)
  rw [Parser.binary, if_neg (show ¬ 6 < levels from Nat.lt_irrefl 6)]
  exact inner rest fuel stops (by omega)

theorem sign {k : TokenKind} {op : UnaryOp} (sign : Sign k op) (inner : Completes ks (.signed e)) :
    Completes (k :: ks) (.signed (.unary op e)) := by
  intro rest fuel stops enough
  rw [List.length_cons] at enough
  obtain ⟨fuel, rfl⟩ := Nat.exists_eq_add_of_le' (show 1 ≤ fuel by omega)
  rw [Parser.signed]
  refine .peek ?_
  rw [show signOf? (head (k :: ks ++ rest)) = some op from (signOf?_eq_some k op).mpr sign]
  exact .advance (.bind (inner rest fuel stops (by omega)) (.pure _ rest))

theorem unsigned (begins : ∀ rest, opensOperand (head (ks ++ rest)) = true)
    (inner : Completes ks (.operand e)) : Completes ks (.signed e) := by
  intro rest fuel stops enough
  obtain ⟨fuel, rfl⟩ := Nat.exists_eq_add_of_le' (show 1 ≤ fuel by omega)
  rw [Parser.signed]
  refine .peek ?_
  rw [signOf?_eq_none (begins rest)]
  refine inner rest e rest 1 fuel (stops.mono (by decide)) (fun more positive => ?_) (by omega)
  exact reads_postfixes_end e rest more stops positive

theorem bare (inner : Completes ks (.primary e)) : Completes ks (.operand e) := by
  intro rest value out need fuel stops further enough
  exact .bind (inner rest fuel stops (by omega)) (further fuel (by omega))

theorem method (name : String) (receiver : Completes ks (.operand e))
    (inner : Completes ls (.arguments args)) :
    Completes (ks ++ .dot :: .identifier name :: .openParen :: ls ++ [.closeParen])
      (.operand (.method e name args)) := by
  intro rest value out need fuel stops further enough
  simp only [List.cons_append, List.append_assoc, List.nil_append, List.length_cons, List.length_append,
    List.length_nil] at enough ⊢
  refine receiver _ value out (need + 16 * ls.length + 22) fuel (Nat.lt_succ_self 9) ?_ (by omega)
  intro more le
  obtain ⟨more, rfl⟩ := Nat.exists_eq_add_of_le' (show 1 ≤ more by omega)
  rw [Parser.postfixes]
  refine .get fun c looked => ?_
  simp only
  rw [looked]
  refine .advance (.bind (reads_methodName c.current name _) (.expect rfl ?_))
  exact .bind (inner rest more (by omega)) (further more (by omega))

theorem index (target : Completes ks (.operand e)) (inner : Completes ls (.ternary key)) :
    Completes (ks ++ .openBracket :: ls ++ [.closeBracket]) (.operand (.index e key)) := by
  intro rest value out need fuel stops further enough
  simp only [List.cons_append, List.append_assoc, List.nil_append, List.length_cons, List.length_append,
    List.length_nil] at enough ⊢
  refine target _ value out (need + 16 * ls.length + 20) fuel (Nat.lt_succ_self 9) ?_ (by omega)
  intro more le
  obtain ⟨more, rfl⟩ := Nat.exists_eq_add_of_le' (show 1 ≤ more by omega)
  rw [Parser.postfixes]
  refine .get fun c looked => ?_
  simp only
  rw [looked]
  refine .advance (.bind (inner _ more Nat.zero_lt_one (by omega)) (.expect rfl ?_))
  exact further more (by omega)

theorem literal (k : TokenKind) (e : Expr)
    (reads : ∀ rest fuel, Reads (Parser.primary (fuel + 1)) (k :: rest) e rest) :
    Completes [k] (.primary e) := by
  intro rest fuel stops enough
  obtain ⟨fuel, rfl⟩ := Nat.exists_eq_add_of_le' (show 1 ≤ fuel by omega)
  exact reads rest fuel

theorem inQuotes (begins : ∀ rest, head (ks ++ rest) = .templateStart)
    (inner : Completes ks (.template true e)) : Completes ks (.primary e) := by
  intro rest fuel stops enough
  obtain ⟨fuel, rfl⟩ := Nat.exists_eq_add_of_le' (show 1 ≤ fuel by omega)
  rw [Parser.primary]
  refine .peek ?_
  rw [begins rest]
  exact inner rest fuel (by omega)

theorem «variable» (name : String) : Completes [.identifier name] (.primary (.variable name)) := by
  intro rest fuel stops enough
  obtain ⟨fuel, rfl⟩ := Nat.exists_eq_add_of_le' (show 1 ≤ fuel by omega)
  rw [Parser.primary]
  refine .peek (.advance (.peek ?_))
  split
  next found =>
    have found : head rest = .openParen := found
    exact absurd (stops.glue_lt found) (Nat.lt_irrefl 10)
  next => exact .pure _ rest

theorem call (name : String) (inner : Completes ks (.arguments args)) :
    Completes (.identifier name :: .openParen :: ks ++ [.closeParen]) (.primary (.call name args)) := by
  intro rest fuel stops enough
  simp only [List.cons_append, List.append_assoc, List.nil_append, List.length_cons, List.length_append,
    List.length_nil] at enough ⊢
  obtain ⟨fuel, rfl⟩ := Nat.exists_eq_add_of_le' (show 1 ≤ fuel by omega)
  rw [Parser.primary]
  refine .peek (.advance (.peek (.advance ?_)))
  exact .bind (inner rest fuel (by omega)) (.pure _ rest)

theorem parenthesized (inner : Completes ks (.ternary e)) :
    Completes (.openParen :: ks ++ [.closeParen]) (.primary e) := by
  intro rest fuel stops enough
  simp only [List.cons_append, List.append_assoc, List.nil_append, List.length_cons, List.length_append,
    List.length_nil] at enough ⊢
  obtain ⟨fuel, rfl⟩ := Nat.exists_eq_add_of_le' (show 1 ≤ fuel by omega)
  rw [Parser.primary]
  refine .peek (.advance (.bind (inner _ fuel Nat.zero_lt_one (by omega)) (.expect rfl ?_)))
  exact .pure e rest

theorem noArguments : Completes [] (.arguments []) := by
  intro rest fuel enough
  obtain ⟨fuel, rfl⟩ := Nat.exists_eq_add_of_le' (show 1 ≤ fuel by omega)
  rw [Parser.arguments]
  exact .peek (.advance (.pure [] rest))

theorem someArguments (begins : ∀ rest, isCloseParen (head (ks ++ rest)) = false)
    (inner : Completes ks (.someArguments args)) : Completes ks (.arguments args) := by
  intro rest fuel enough
  obtain ⟨fuel, rfl⟩ := Nat.exists_eq_add_of_le' (show 1 ≤ fuel by omega)
  rw [Parser.arguments]
  refine .peek ?_
  split
  next found =>
    have opened := begins (.closeParen :: rest)
    rw [found] at opened
    cases opened
  next => exact inner rest fuel (by omega)

theorem lastArgument (inner : Completes ks (.ternary e)) : Completes ks (.someArguments [e]) := by
  intro rest fuel enough
  obtain ⟨fuel, rfl⟩ := Nat.exists_eq_add_of_le' (show 1 ≤ fuel by omega)
  rw [Parser.moreArguments]
  refine .bind (inner _ fuel Nat.zero_lt_one (by omega)) (.peek ?_)
  exact .expect rfl (.pure _ rest)

theorem argument (inner : Completes ks (.ternary e)) (rest : Completes ls (.someArguments args)) :
    Completes (ks ++ .comma :: ls) (.someArguments (e :: args)) := by
  intro out fuel enough
  simp only [List.cons_append, List.append_assoc, List.length_cons, List.length_append] at enough ⊢
  obtain ⟨fuel, rfl⟩ := Nat.exists_eq_add_of_le' (show 1 ≤ fuel by omega)
  rw [Parser.moreArguments]
  refine .bind (inner _ fuel Nat.zero_lt_one (by omega)) (.peek (.advance ?_))
  exact .bind (rest out fuel (by omega)) (.pure _ out)

end Completes

/-- The parser is complete, by induction on the derivation. -/
theorem completes {ks : List TokenKind} {phrase : Phrase} (derives : Derives ks phrase) :
    Completes ks phrase := by
  induction derives with
  | template inner folds ih => exact .ofParts ih folds
  | noParts => exact .noParts
  | text content rest ih => exact .text content ih
  | span inner rest ih ihRest => exact .span ih ihRest
  | unconditional inner ih => exact .unconditional ih
  | choice condition thenBranch elseBranch ihCondition ihThen ihElse =>
      exact .choice ihCondition ihThen ihElse
  | unrescued inner ih => exact .unrescued ih
  | rescue operand fallback ih ihFallback => exact .rescue ih ihFallback
  | tighter inside inner ih => exact .tighter inside ih
  | operation left operator right ihLeft ihRight => exact .operation ihLeft operator ihRight
  | tightest inner ih => exact .tightest ih
  | sign sign inner ih => exact .sign sign ih
  | unsigned inner ih => exact .unsigned (begins inner) ih
  | bare inner ih => exact .bare ih
  | method name receiver inner ih ihArguments => exact .method name ih ihArguments
  | index target inner ih ihKey => exact .index ih ihKey
  | integer n => exact .literal _ _ fun rest fuel => .peek (.advance (.pure _ rest))
  | number x => exact .literal _ _ fun rest fuel => .peek (.advance (.pure _ rest))
  | boolean b => exact .literal _ _ fun rest fuel => .peek (.advance (.pure _ rest))
  | quoted inner ih => exact .inQuotes (begins inner) ih
  | «variable» name => exact .variable name
  | call name inner ih => exact .call name ih
  | parenthesized inner ih => exact .parenthesized ih
  | noArguments => exact .noArguments
  | «arguments» inner ih => exact .someArguments (begins inner) ih
  | lastArgument inner ih => exact .lastArgument ih
  | argument inner rest ih ihRest => exact .argument ih ihRest

end CardExpr.Parser
