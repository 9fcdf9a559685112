import Mathlib.Logic.Relation
import CardExpr.Proofs.Evaluation.Failure

/-!
The trees that an evaluation comes to. Operands are passed over where those before them decide or fail, and
the bodies of custom functions are not entered. A variable is read where the evaluation comes to it, or by a
function that it calls.
-/

namespace CardExpr

variable {α β : Type}

/-- The tree calls by this name, with these operands; the receiver of a method is the first of them. -/
inductive Expr.Calls : Expr → CallKind → String → List Expr → Prop where
  | function (name : String) (args : List Expr) : Calls (.call name args) .function name args
  | method (receiver : Expr) (name : String) (args : List Expr) :
      Calls (.method receiver name args) .method name (receiver :: args)

/-- One level of the evaluation of the first tree evaluates the second one. -/
inductive Visits (below : Expr → Run Value) : Expr → Expr → Prop where
  | operand {op e} : Visits below (.unary op e) e
  | left {op a b} : Visits below (.binary op a b) a
  | right {op a b v} (strict : op.deciding? = none) (ok : (below a).result = .ok v) :
      Visits below (.binary op a b) b
  | undecided {op a b d} (logical : op.deciding? = some d)
      (ok : ((below a).asked op.symbol).result = .ok !d) : Visits below (.binary op a b) b
  | condition {e a b} : Visits below (.ternary e a b) e
  | branch {e a b c} (ok : ((below e).asked "?:").result = .ok c) :
      Visits below (.ternary e a b) (if c then a else b)
  | rescued {a b} : Visits below (.rescue a b) a
  | fallback {a b} (caught : (below a).isCaught = true) : Visits below (.rescue a b) b
  | argument {outer kind name before e after vs} (calls : outer.Calls kind name (before ++ e :: after))
      (ok : (evalAll below before).result = .ok vs) : Visits below outer e
  | target {a b} : Visits below (.index a b) a
  | key {a b v} (ok : (below a).result = .ok v) : Visits below (.index a b) b
  | part {before e after text} (ok : (evalParts below before).result = .ok text) :
      Visits below (.template (before ++ .span e :: after)) e

/-- An evaluation of the first tree, of at most so many levels, comes to the second one with this many left.
-/
inductive Setting.Reaches (s : Setting) : (depth : Nat) → Expr → (room : Nat) → Expr → Prop where
  | here (depth : Nat) (e : Expr) : Reaches s depth e depth e
  | within {depth outer e room inner} (visits : Visits (eval depth s) outer e)
      (further : Reaches s depth e room inner) : Reaches s (depth + 1) outer room inner

/-- The tree occurs in the other one. -/
abbrev Expr.Contains : Expr → Expr → Prop := Relation.ReflTransGen fun outer inner => inner ∈ outer.children

theorem Expr.Calls.children_eq {e : Expr} {kind : CallKind} {name : String} {es : List Expr}
    (calls : e.Calls kind name es) : e.children = es := by
  cases calls <;> rfl

theorem Visits.mem_children {below : Expr → Run Value} {outer inner : Expr}
    (visits : Visits below outer inner) :
    inner ∈ outer.children := by
  cases visits with
  | @branch e a b c ok => cases c <;> simp [Expr.children]
  | argument calls ok => simp [calls.children_eq]
  | part ok => simp [Expr.children]
  | _ => simp [Expr.children]

theorem Setting.Reaches.contains {s : Setting} {depth room : Nat} {e inner : Expr}
    (reaches : s.Reaches depth e room inner) : e.Contains inner := by
  induction reaches with
  | here => exact .refl
  | within visits _ ih => exact .head visits.mem_children ih

section Occurrences

variable {name : String}

theorem Expr.mem_occurrencesOfAll {es : List Expr} :
    name ∈ occurrencesOfAll es ↔ ∃ e ∈ es, name ∈ e.occurrences := by
  induction es with
  | nil => simp [occurrencesOfAll]
  | cons e es ih => simp [occurrencesOfAll, ih]

theorem Expr.mem_occurrencesOfParts {ps : List TemplatePart} :
    name ∈ occurrencesOfParts ps ↔ ∃ e, .span e ∈ ps ∧ name ∈ e.occurrences := by
  induction ps with
  | nil => simp [occurrencesOfParts]
  | cons part rest ih => cases part <;> simp [occurrencesOfParts, ih, or_and_right, exists_or]

theorem Expr.occurrences_of_child {outer inner : Expr} (member : inner ∈ outer.children)
    (occurs : name ∈ inner.occurrences) : name ∈ outer.occurrences := by
  cases outer with
  | integer | number | string | boolean | «variable» => cases member
  | call callee args => exact mem_occurrencesOfAll.mpr ⟨inner, member, occurs⟩
  | method receiver callee args => exact mem_occurrencesOfAll.mpr ⟨inner, member, occurs⟩
  | template parts =>
      obtain ⟨part, listed, same⟩ := List.mem_filterMap.mp member
      cases part with
      | text content => cases same
      | span e =>
          cases same
          exact mem_occurrencesOfParts.mpr ⟨inner, listed, occurs⟩
  | _ =>
      simp only [children, List.mem_cons, List.not_mem_nil, or_false] at member
      simp only [occurrences, List.mem_append]
      grind

theorem Expr.Contains.occurrences {outer inner : Expr} (contains : outer.Contains inner)
    (occurs : name ∈ inner.occurrences) : name ∈ outer.occurrences := by
  induction contains with
  | refl => exact occurs
  | tail _ step ih => exact ih (occurrences_of_child step occurs)

mutual

theorem Expr.contains_of_occurrences (e : Expr) (occurs : name ∈ e.occurrences) :
    e.Contains (.variable name) := by
  cases e with
  | integer | number | string | boolean => cases occurs
  | «variable» other =>
      cases List.mem_singleton.mp occurs
      exact .refl
  | unary op operand => exact .head (by simp [children]) (contains_of_occurrences operand occurs)
  | binary op left right =>
      rcases List.mem_append.mp occurs with first | second
      · exact .head (by simp [children]) (contains_of_occurrences left first)
      · exact .head (by simp [children]) (contains_of_occurrences right second)
  | ternary condition thenBranch elseBranch =>
      rcases List.mem_append.mp occurs with before | third
      · rcases List.mem_append.mp before with first | second
        · exact .head (by simp [children]) (contains_of_occurrences condition first)
        · exact .head (by simp [children]) (contains_of_occurrences thenBranch second)
      · exact .head (by simp [children]) (contains_of_occurrences elseBranch third)
  | rescue operand fallback =>
      rcases List.mem_append.mp occurs with first | second
      · exact .head (by simp [children]) (contains_of_occurrences operand first)
      · exact .head (by simp [children]) (contains_of_occurrences fallback second)
  | call callee args =>
      obtain ⟨inner, member, contains⟩ := exists_contains_of_all args occurs
      exact .head member contains
  | method receiver callee args =>
      rcases List.mem_append.mp occurs with first | others
      · exact .head List.mem_cons_self (contains_of_occurrences receiver first)
      · obtain ⟨inner, member, contains⟩ := exists_contains_of_all args others
        exact .head (List.mem_cons_of_mem _ member) contains
  | index target key =>
      rcases List.mem_append.mp occurs with first | second
      · exact .head (by simp [children]) (contains_of_occurrences target first)
      · exact .head (by simp [children]) (contains_of_occurrences key second)
  | template parts =>
      obtain ⟨inner, member, contains⟩ := exists_contains_of_parts parts occurs
      exact .head (List.mem_filterMap.mpr ⟨.span inner, member, rfl⟩) contains

theorem Expr.exists_contains_of_all (es : List Expr) (occurs : name ∈ occurrencesOfAll es) :
    ∃ e ∈ es, e.Contains (.variable name) := by
  cases es with
  | nil => cases occurs
  | cons e es =>
      rcases List.mem_append.mp occurs with first | others
      · exact ⟨e, List.mem_cons_self, contains_of_occurrences e first⟩
      · obtain ⟨inner, member, contains⟩ := exists_contains_of_all es others
        exact ⟨inner, List.mem_cons_of_mem e member, contains⟩

theorem Expr.exists_contains_of_parts (ps : List TemplatePart) (occurs : name ∈ occurrencesOfParts ps) :
    ∃ e, .span e ∈ ps ∧ e.Contains (.variable name) := by
  cases ps with
  | nil => cases occurs
  | cons part ps =>
      cases part with
      | text content =>
          obtain ⟨inner, member, contains⟩ := exists_contains_of_parts ps occurs
          exact ⟨inner, List.mem_cons_of_mem _ member, contains⟩
      | span e =>
          rcases List.mem_append.mp occurs with first | others
          · exact ⟨e, List.mem_cons_self, contains_of_occurrences e first⟩
          · obtain ⟨inner, member, contains⟩ := exists_contains_of_parts ps others
            exact ⟨inner, List.mem_cons_of_mem _ member, contains⟩

end

theorem Expr.contains_variable_iff (e : Expr) : e.Contains (.variable name) ↔ name ∈ e.occurrences :=
  ⟨fun contains => contains.occurrences List.mem_cons_self, contains_of_occurrences e⟩

end Occurrences

end CardExpr
