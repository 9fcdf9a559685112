import Mathlib.Data.String.Basic
import Mathlib.Data.Prod.Lex
import Mathlib.Data.List.Sort
import Mathlib.Order.WithBot
import CardExpr.Proofs.Evaluation.Tracking

/-! Read-sets are in order, so their members say which they are. -/

namespace CardExpr

/-- Where a read stands among others: by its name, then by its store. -/
def VariableRead.key (read : VariableRead) : String ×ₗ WithBot ScopeId := toLex (read.name, read.scope)

theorem VariableRead.key_injective : Function.Injective VariableRead.key := by
  rintro ⟨name, scope⟩ ⟨name', scope'⟩ same
  cases toLex.injective same
  rfl

theorem VariableRead.before_iff (a b : VariableRead) : a.before b = true ↔ a.key < b.key := by
  obtain ⟨name, scope⟩ := a
  obtain ⟨name', scope'⟩ := b
  unfold before key nameBefore
  rw [Prod.Lex.toLex_lt_toLex]
  dsimp only
  by_cases same : name = name'
  · subst same
    rw [if_pos rfl, or_iff_right (lt_irrefl name), and_iff_right rfl]
    cases scope with
    | none =>
        cases scope' with
        | none => exact iff_of_false Bool.false_ne_true (lt_irrefl _)
        | some t => exact iff_of_true rfl (WithBot.bot_lt_coe t)
    | some s =>
        cases scope' with
        | none => exact iff_of_false Bool.false_ne_true not_lt_bot
        | some t => exact decide_eq_true_iff.trans WithBot.coe_lt_coe.symm
  · rw [if_neg same, decide_eq_true_eq, or_iff_left fun both => same both.1]

section

variable {α κ : Type} [DecidableEq α] [LinearOrder κ] {before : α → α → Bool} {key : α → κ}

theorem pairwise_insertOrdered (injective : Function.Injective key)
    (before_iff : ∀ a b, before a b = true ↔ key a < key b) {ys : List α}
    (ordered : ys.Pairwise fun a b => key a < key b) (x : α) :
    (insertOrdered before x ys).Pairwise fun a b => key a < key b := by
  induction ys with
  | nil => exact List.pairwise_singleton _ _
  | cons first rest ih =>
      obtain ⟨ahead, behind⟩ := List.pairwise_cons.mp ordered
      unfold insertOrdered
      split
      · exact ordered
      next other =>
        split
        next earlier =>
          have earlier := (before_iff x first).mp earlier
          refine List.pairwise_cons.mpr ⟨List.forall_mem_cons.mpr ⟨earlier, fun later member => ?_⟩, ordered⟩
          exact earlier.trans (ahead later member)
        next notBefore =>
          refine List.pairwise_cons.mpr ⟨fun later member => ?_, ih behind⟩
          rcases (mem_insertOrdered _ _ _ _).mp member with rfl | present
          · exact lt_of_le_of_ne (not_lt.mp (mt (before_iff _ _).mpr notBefore))
              fun same => other (injective same.symm)
          · exact ahead later present

/-- A set that is kept in the order of its keys holds each of them once. -/
theorem pairwise_orderedSet (injective : Function.Injective key)
    (before_iff : ∀ a b, before a b = true ↔ key a < key b) (xs : List α) :
    (orderedSet before xs).Pairwise fun a b => key a < key b :=
  List.foldlRecOn xs _ List.Pairwise.nil fun _ ordered x _ =>
    pairwise_insertOrdered injective before_iff ordered x

theorem pairwise_nameSet (names : List String) : (nameSet names).Pairwise (· < ·) :=
  pairwise_orderedSet Function.injective_id (fun _ _ => decide_eq_true_iff) names

end

namespace ReadSet

def Ordered (reads : ReadSet) : Prop := reads.Pairwise fun a b => a.key < b.key

theorem ordered_ofReads (reads : List VariableRead) : Ordered (ofReads reads) :=
  pairwise_orderedSet VariableRead.key_injective VariableRead.before_iff reads

theorem ofReads_congr {reads others : List VariableRead} (same : ∀ read, read ∈ reads ↔ read ∈ others) :
    ofReads reads = ofReads others := by
  have irrefl : Std.Irrefl fun a b : VariableRead => a.key < b.key := ⟨fun a => lt_irrefl a.key⟩
  have antisymm : Std.Antisymm fun a b : VariableRead => a.key < b.key :=
    ⟨fun a b before after => absurd (before.trans after) (lt_irrefl a.key)⟩
  refine List.Pairwise.eq_of_mem_iff (ordered_ofReads reads) (ordered_ofReads others) fun read => ?_
  rw [mem_ofReads, mem_ofReads, same]

/-- Where the name of a read tells its store, the names alone are in order. -/
theorem Ordered.names {reads : ReadSet} (ordered : Ordered reads)
    (told : ∀ a ∈ reads, ∀ b ∈ reads, a.name = b.name → a.scope = b.scope) :
    (reads.map (·.name)).Pairwise (· < ·) := by
  refine List.pairwise_map.mpr (ordered.imp_of_mem fun {a b} memberA memberB before => ?_)
  rcases Prod.Lex.toLex_lt_toLex.mp before with earlier | ⟨same, deeper⟩
  · exact earlier
  · have scope : (a.scope : WithBot ScopeId) = b.scope := told a memberA b memberB same
    exact absurd (scope ▸ deeper) (lt_irrefl _)

end ReadSet

/-- An evaluation records each name once. -/
theorem ascending_names_reads (s : Setting) (e : Expression) :
    ((evaluate s e).reads.map (·.name)).Pairwise (· < ·) := by
  have ordered : ReadSet.Ordered (evaluate s e).reads := by
    unfold evaluate
    split
    · exact List.Pairwise.nil
    · exact ReadSet.ordered_ofReads _
  refine ordered.names fun a memberA b memberB same => ?_
  rw [scope_of_mem_reads s e a memberA, scope_of_mem_reads s e b memberB, same]

end CardExpr
