import CardExpr.Proofs.Session.Arrival
import CardExpr.Proofs.Session.Notification

/-!
Work comes to an end where callbacks do not write: a callback leaves only callbacks that it contains, and
an announcement has finitely many observers and subscriptions to go through.
-/

namespace CardExpr

variable {ν : Type}

namespace Session

theorem after_add (s : Session ν) (m n : Nat) : s.after (m + n) = (s.after m).after n := by
  induction n with
  | zero => rfl
  | succ n ih => exact congrArg advance ih

theorem Stays.add {s : Session ν} {level m n : Nat} (first : s.Stays level m)
    (second : (s.after m).Stays level n) : s.Stays level (m + n) := by
  intro k below
  rcases Nat.lt_or_ge k m with early | late
  · exact first k early
  · have further := second (k - m) (by omega)
    rwa [← after_add, Nat.add_sub_cancel' late] at further

theorem Stays.mono {s : Session ν} {low high n : Nat} (stays : s.Stays high n) (le : low ≤ high) :
    s.Stays low n :=
  fun k below => Nat.lt_of_le_of_lt le (stays k below)

theorem Stays.le {s : Session ν} {level m n : Nat} (stays : s.Stays level n)
    (ended : (s.after m).agenda.length ≤ level) : n ≤ m := by
  by_contra before
  exact absurd (stays m (Nat.lt_of_not_le before)) (Nat.not_lt_of_le ended)

/-- No callback writes before so little work is left. -/
def IsHarmless (level : Nat) (s : Session ν) : Prop :=
  ∀ k, s.Stays level (k + 1) → (s.after k).writesNext = false

theorem IsHarmless.after {s : Session ν} {level m : Nat} (harmless : s.IsHarmless level)
    (stays : s.Stays level m) : (s.after m).IsHarmless level := by
  intro k further
  rw [← after_add]
  exact harmless (m + k) (stays.add further)

theorem IsHarmless.mono {s : Session ν} {low high : Nat} (harmless : s.IsHarmless low) (le : low ≤ high) :
    s.IsHarmless high :=
  fun k stays => harmless k (stays.mono le)

/-- Nothing writes where nothing does up to a time when so little work is left. -/
theorem IsHarmless.of_ended {s : Session ν} {level n : Nat} (ended : (s.after n).agenda.length ≤ level)
    (quiet : ∀ k < n, (s.after k).writesNext = false) : s.IsHarmless level :=
  fun k stays => quiet k (stays.le ended)

theorem IsHarmless.writesNext {s : Session ν} {level : Nat} (harmless : s.IsHarmless level)
    (above : level < s.agenda.length) : s.writesNext = false := by
  refine harmless 0 fun k below => ?_
  cases Nat.lt_one_iff.mp below
  exact above

/-- The work above `below` comes to an end, with all that follows from it. -/
def Clears (s : Session ν) (below : List (Work ν)) : Prop :=
  s.IsHarmless below.length → ∃ n, s.Stays below.length n ∧ (s.after n).agenda = below

theorem Clears.trans {s : Session ν} {between below : List (Work ν)} (le : below.length ≤ between.length)
    (first : s.Clears between)
    (second : ∀ t : Session ν, t.agenda = between → t.Clears below) : s.Clears below := by
  intro harmless
  obtain ⟨m, stays, reached⟩ := first (harmless.mono le)
  obtain ⟨n, further, ended⟩ := second _ reached (harmless.after (stays.mono le))
  refine ⟨m + n, (stays.mono le).add further, ?_⟩
  rw [after_add]
  exact ended

end Session

/-- Whatever is below, the work comes to an end. -/
def Work.Ends (w : Work ν) : Prop :=
  ∀ (s : Session ν) (below : List (Work ν)), s.agenda = w :: below → s.Clears below

namespace Session

end Session

end CardExpr
