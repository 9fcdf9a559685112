import Mathlib.Order.Bounds.Basic
import CardExpr.Text.Search
import CardExpr.Text.Utf8

/-!
Where a text occurs in another. The search finds the first place and the last one, by characters as by bytes:
no text occurs in the bytes of another but where a character begins.
-/

namespace CardExpr.Text

def OccursAt {α : Type} (part text : List α) (n : Nat) : Prop := n ≤ text.length ∧ part <+: text.drop n

section Occurrences

variable {α : Type} {part text : List α} {a : α} {n : Nat}

@[simp] theorem occursAt_zero : OccursAt part text 0 ↔ part <+: text := by simp [OccursAt]

@[simp] theorem occursAt_cons_succ : OccursAt part (a :: text) (n + 1) ↔ OccursAt part text n := by
  simp [OccursAt]

theorem occursAt_nil : OccursAt part [] n ↔ part = [] ∧ n = 0 := by
  simp [OccursAt, and_comm]

theorem occursAt_append (before : List α) :
    OccursAt part (before ++ text) (before.length + n) ↔ OccursAt part text n := by
  simp [OccursAt, List.drop_length_add_append]

theorem OccursAt.length_le (occurs : OccursAt part text n) : n + part.length ≤ text.length := by
  have short := occurs.2.length_le
  have within := occurs.1
  rw [List.length_drop] at short
  omega

theorem occursAt_iff_take :
    OccursAt part text n ↔ n + part.length ≤ text.length ∧ (text.drop n).take part.length = part := by
  rw [OccursAt, List.prefix_iff_eq_take, eq_comm]
  constructor
  · rintro ⟨within, same⟩
    exact ⟨OccursAt.length_le ⟨within, List.prefix_iff_eq_take.mpr same.symm⟩, same⟩
  · rintro ⟨fits, same⟩
    exact ⟨by omega, same⟩

end Occurrences

section Search

variable {part text : List Char}

theorem startsWith_iff_isPrefix : startsWith part text = true ↔ part <+: text := by
  rw [startsWith_iff]
  exact exists_congr fun rest => eq_comm

/-- What a search ends with that looks for the place which is before all others by the relation. -/
inductive Finds (part text : List Char) (before : Nat → Nat → Prop) : Option Nat → Prop where
  | nowhere (missing : ∀ m, ¬ OccursAt part text m) : Finds part text before none
  | place {n : Nat} (occurs : OccursAt part text n) (extreme : ∀ m, OccursAt part text m → before n m) :
      Finds part text before (some n)

theorem finds_first (part text : List Char) : Finds part text (· ≤ ·) (find? part text) := by
  induction text with
  | nil =>
      rw [find?]
      cases part with
      | nil => exact .place (occursAt_nil.mpr ⟨rfl, rfl⟩) fun m _ => Nat.zero_le m
      | cons p ps => exact .nowhere fun m occurs => nomatch (occursAt_nil.mp occurs).1
  | cons c cs ih =>
      rw [find?]
      split
      next starts =>
        have first := startsWith_iff_isPrefix.mp starts
        exact .place (occursAt_zero.mpr first) fun m _ => Nat.zero_le m
      next starts =>
        have notFirst : ¬ OccursAt part (c :: cs) 0 := fun occurs =>
          starts (startsWith_iff_isPrefix.mpr (occursAt_zero.mp occurs))
        generalize find? part cs = found at ih
        cases ih with
        | nowhere missing =>
            refine .nowhere fun m occurs => ?_
            cases m with
            | zero => exact notFirst occurs
            | succ m => exact missing m (occursAt_cons_succ.mp occurs)
        | place occurs extreme =>
            refine .place (occursAt_cons_succ.mpr occurs) fun m other => ?_
            cases m with
            | zero => exact absurd other notFirst
            | succ m => exact Nat.succ_le_succ (extreme m (occursAt_cons_succ.mp other))

theorem finds_last (part text : List Char) : Finds part text (· ≥ ·) (findLast? part text) := by
  induction text with
  | nil =>
      rw [findLast?]
      cases part with
      | nil =>
          exact .place (occursAt_nil.mpr ⟨rfl, rfl⟩) fun m occurs => Nat.le_of_eq (occursAt_nil.mp occurs).2
      | cons p ps => exact .nowhere fun m occurs => nomatch (occursAt_nil.mp occurs).1
  | cons c cs ih =>
      rw [findLast?]
      generalize findLast? part cs = found at ih
      cases ih with
      | place occurs extreme =>
          refine .place (occursAt_cons_succ.mpr occurs) fun m other => ?_
          cases m with
          | zero => exact Nat.zero_le _
          | succ m => exact Nat.succ_le_succ (extreme m (occursAt_cons_succ.mp other))
      | nowhere missing =>
          have onlyFirst (m : Nat) (occurs : OccursAt part (c :: cs) m) : m = 0 := by
            cases m with
            | zero => rfl
            | succ m => exact absurd (occursAt_cons_succ.mp occurs) (missing m)
          simp only
          split
          next starts =>
            have first := startsWith_iff_isPrefix.mp starts
            exact .place (occursAt_zero.mpr first) fun m occurs => Nat.le_of_eq (onlyFirst m occurs)
          next starts =>
            refine .nowhere fun m occurs => ?_
            have first := onlyFirst m occurs ▸ occurs
            exact starts (startsWith_iff_isPrefix.mpr (occursAt_zero.mp first))

end Search

section Bytes

variable {part text : List Char} {c d : Char} {n m k : Nat}

@[simp] theorem encode_nil : encode [] = [] := rfl

@[simp] theorem encode_cons (c : Char) (cs : List Char) : encode (c :: cs) = encodeChar c ++ encode cs := rfl

/-- The bytes of a character: one that begins it, and then none that begins one. -/
theorem encodeChar_eq (c : Char) :
    ∃ b bs, encodeChar c = b :: bs ∧ isTail b = false ∧ ∀ t ∈ bs, isTail t = true := by
  unfold encodeChar
  simp only [isTail, decide_eq_true_eq, decide_eq_false_iff_not]
  split
  · exact ⟨_, _, rfl, by omega, by simp⟩
  split
  · exact ⟨_, _, rfl, by omega, by simp; omega⟩
  split
  · exact ⟨_, _, rfl, by omega, by simp; omega⟩
  · exact ⟨_, _, rfl, by omega, by simp; omega⟩

/-- No character begins with the bytes of another. -/
theorem encodeChar_append_inj {xs ys : List Nat} (same : encodeChar c ++ xs = encodeChar d ++ ys) :
    c = d ∧ xs = ys := by
  have both : c.toNat = d.toNat ∧ xs = ys := by
    unfold encodeChar at same
    simp only at same
    split at same <;> split at same <;> grind
  exact ⟨Char.toNat_inj.mp both.1, both.2⟩

theorem encode_append (cs ds : List Char) : encode (cs ++ ds) = encode cs ++ encode ds := List.flatMap_append

theorem encode_eq_cons (nonempty : part ≠ []) : ∃ b bs, encode part = b :: bs ∧ isTail b = false := by
  obtain ⟨p, ps, rfl⟩ := List.exists_cons_of_ne_nil nonempty
  obtain ⟨b, bs, bytes, begins, -⟩ := encodeChar_eq p
  exact ⟨b, bs ++ encode ps, by rw [encode_cons, bytes, List.cons_append], begins⟩

theorem isPrefix_of_encode (starts : encode part <+: encode text) : part <+: text := by
  induction part generalizing text with
  | nil => exact List.nil_prefix
  | cons p ps ih =>
      obtain ⟨rest, same⟩ := starts
      cases text with
      | nil =>
          obtain ⟨b, bs, bytes, -⟩ := encode_eq_cons (List.cons_ne_nil p ps)
          rw [bytes] at same
          cases same
      | cons c cs =>
          rw [encode_cons, encode_cons, List.append_assoc] at same
          obtain ⟨rfl, later⟩ := encodeChar_append_inj same
          exact List.cons_prefix_cons.mpr ⟨rfl, ih ⟨rest, later⟩⟩

def byteOffset (text : List Char) (n : Nat) : Nat := (encode (text.take n)).length

theorem OccursAt.encode (occurs : OccursAt part text n) :
    OccursAt (encode part) (encode text) (byteOffset text n) := by
  obtain ⟨rest, split⟩ := occurs.2
  have whole : CardExpr.Text.encode text =
      CardExpr.Text.encode (text.take n) ++ (CardExpr.Text.encode part ++ CardExpr.Text.encode rest) := by
    rw [← encode_append, split, ← encode_append, List.take_append_drop]
  rw [whole]
  exact (occursAt_append _).mpr (occursAt_zero.mpr (List.prefix_append _ _))

/-- The bytes of a text that is not empty begin with one that begins a character, so they occur nowhere else.
-/
theorem exists_occursAt_of_encode (nonempty : part ≠ []) (occurs : OccursAt (encode part) (encode text) k) :
    ∃ n, OccursAt part text n ∧ byteOffset text n = k := by
  obtain ⟨b, bs, bytes, begins⟩ := encode_eq_cons nonempty
  induction text generalizing k with
  | nil =>
      rw [bytes] at occurs
      exact nomatch (occursAt_nil.mp occurs).1
  | cons c cs ih =>
      by_cases beyond : (encodeChar c).length ≤ k
      · obtain ⟨j, rfl⟩ := Nat.exists_eq_add_of_le beyond
        obtain ⟨n, found, same⟩ := ih ((occursAt_append _).mp occurs)
        refine ⟨n + 1, occursAt_cons_succ.mpr found, ?_⟩
        simp [byteOffset, ← same]
      · cases k with
        | zero => exact ⟨0, occursAt_zero.mpr (isPrefix_of_encode (occursAt_zero.mp occurs)), rfl⟩
        | succ k =>
            obtain ⟨first, tails, spelled, -, tail⟩ := encodeChar_eq c
            rw [spelled, List.length_cons] at beyond
            have inside : k < tails.length := by omega
            have starts := occurs.2
            rw [bytes, encode_cons, spelled, List.cons_append, List.drop_succ_cons,
              List.drop_append_of_le_length (Nat.le_of_lt inside), List.drop_eq_getElem_cons inside,
              List.cons_append, List.cons_prefix_cons] at starts
            have cut := tail _ (List.getElem_mem inside)
            rw [← starts.1, begins] at cut
            cases cut

theorem not_occursAt_encode (missing : ∀ m, ¬ OccursAt part text m) (k : Nat) :
    ¬ OccursAt (encode part) (encode text) k := by
  intro occurs
  have nonempty : part ≠ [] := by
    rintro rfl
    exact missing 0 (occursAt_zero.mpr List.nil_prefix)
  obtain ⟨n, found, -⟩ := exists_occursAt_of_encode nonempty occurs
  exact missing n found

theorem byteOffset_le (ordered : n ≤ m) : byteOffset text n ≤ byteOffset text m := by
  have begins : text.take n <+: text.take m := List.take_prefix_take_left ordered
  obtain ⟨rest, split⟩ := begins
  simp [byteOffset, ← split, encode_append]

theorem isLeast_byteOffset (occurs : OccursAt part text n) (first : ∀ m, OccursAt part text m → n ≤ m) :
    IsLeast {k | OccursAt (encode part) (encode text) k} (byteOffset text n) := by
  refine ⟨occurs.encode, fun k other => ?_⟩
  by_cases empty : part = []
  · have zero : n = 0 := Nat.le_zero.mp (first 0 (by simp [empty]))
    simp [zero, byteOffset]
  · obtain ⟨m, found, same⟩ := exists_occursAt_of_encode empty other
    rw [← same]
    exact byteOffset_le (first m found)

theorem isGreatest_byteOffset (occurs : OccursAt part text n) (last : ∀ m, OccursAt part text m → n ≥ m) :
    IsGreatest {k | OccursAt (encode part) (encode text) k} (byteOffset text n) := by
  refine ⟨occurs.encode, fun k other => ?_⟩
  by_cases empty : part = []
  · have all : text.length ≤ n := last text.length ⟨Nat.le_refl _, by simp [empty]⟩
    rw [byteOffset, List.take_of_length_le all]
    exact other.1
  · obtain ⟨m, found, same⟩ := exists_occursAt_of_encode empty other
    rw [← same]
    exact byteOffset_le (last m found)

theorem length_le_length_encode (text : List Char) : text.length ≤ (encode text).length := by
  induction text with
  | nil => exact Nat.le_refl 0
  | cons c cs ih =>
      obtain ⟨b, bs, bytes, -⟩ := encodeChar_eq c
      simp only [encode_cons, bytes, List.length_append, List.length_cons]
      omega

end Bytes

end CardExpr.Text
