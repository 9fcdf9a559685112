import CardExpr.Proofs.Session.Moves
import CardExpr.Proofs.Session.UpToDate

/-!
Subscriptions stand in the order of their numbers. A callback that does not write evaluates none of them
again: they stay, end, or join with numbers that were never used.
-/

namespace CardExpr

variable {ν : Type}

namespace Session

/-- The subscriptions of every card stand in the order of their numbers. -/
def Ordered (s : Session ν) : Prop :=
  ∀ i c, s.card? i = some c → (c.subscriptions.map (·.id)).Pairwise (· < ·)

theorem Ordered.occurs {s t : Session ν} (ordered : s.Ordered) (numbered : s.Numbered)
    (occurs : Occurs s t) : t.Ordered := by
  intro i d found
  cases occurs with
  | calm calm =>
      rcases calm.cards i d found with empty | ⟨c, before, -, -, -, fewer⟩
      · rw [empty]
        exact List.Pairwise.nil
      · exact (ordered i c before).sublist (fewer.map _)
  | written m mutates stored =>
      rw [stored] at found
      exact ordered i d found
  | subscribe j c e callback before delivers tickets =>
      rw [delivers.card?_eq] at found
      split at found
      · cases found
        show ((c.subscriptions ++ [s.opening c s.tickets.length e callback]).map (·.id)).Pairwise (· < ·)
        rw [List.map_append, List.pairwise_append]
        refine ⟨ordered j c before, List.pairwise_singleton _ _, fun id old number new => ?_⟩
        obtain ⟨x, member, rfl⟩ := List.mem_map.mp old
        rw [List.mem_singleton.mp new]
        exact numbered.below j c x ⟨before, member⟩
      · exact ordered i d found
  | refresh j c x before _ delivers tickets =>
      rw [delivers.card?_eq] at found
      split at found
      · cases found
        rw [Card.ids_update c x.id (.renewed (s.evaluateOn c x.expression)) fun _ => rfl]
        exact ordered j c before
      · exact ordered i d found

theorem Reached.ordered {s : Session ν} (reached : Reached s) : s.Ordered :=
  reached.of_preserved (fun _ _ _ found => nomatch found)
    fun _ _ before ordered moves => ordered.occurs before.scheduled.numbered moves.occurs

/-- Every subscription of `t` is as it was in `s`, or has a number that its card had not used in `s`. -/
def Arrives (s t : Session ν) : Prop :=
  ∀ i d y, t.Has i d y → (∃ c, s.Has i c y) ∨ ∀ c, s.card? i = some c → c.nextId ≤ y.id

theorem Arrives.of_same_cards {s t : Session ν} (cards : ∀ i, t.card? i = s.card? i) : Arrives s t := by
  intro i d y has
  exact .inl ⟨d, (cards i).symm.trans has.1, has.2⟩

theorem Calm.arrives {s t : Session ν} (calm : Calm s t) : Arrives s t := by
  intro i d y has
  obtain ⟨c, old, -⟩ := calm.origin i d y has
  exact .inl ⟨c, old⟩

theorem perform_arrives (s : Session ν) (step : Step (Callback ν)) : Arrives s (s.perform step).session := by
  cases (s.perform_does step).deed with
  | calm calm => exact calm.arrives
  | write m _ _ stored _ =>
      rw [stored]
      exact .of_same_cards fun _ => rfl
  | subscribe i c e callback _ before delivers =>
      intro j d y has
      rcases delivers.origin_joined before j d y has with ⟨c', old, -⟩ | ⟨rfl, -, rfl⟩
      · exact .inl ⟨c', old⟩
      · refine .inr fun c' found => ?_
        cases before.symm.trans found
        exact Nat.le_refl _

end Session

/-- The work belongs to a callback, and not to an announcement. -/
def Work.IsQuiet : Work ν → Prop
  | .run _ => True
  | .handOver _ _ _ => True
  | _ => False

namespace Session

/-- Whether a callback writes next. -/
def writesNext (s : Session ν) : Bool :=
  match s.agenda with
  | .run (.act step _) :: _ => step.writes
  | _ => false

theorem quiet_perform {s : Session ν} {step : Step (Callback ν)} (harmless : step.writes = false) :
    ∀ w ∈ (s.perform step).works, w.IsQuiet := by
  intro w member
  rcases works_perform harmless member with ⟨callback, v, -, rfl⟩ | ⟨k, i, id, rfl⟩ <;> trivial

theorem quiet_refresh {s : Session ν} {i : ObserverId} {id : Nat} : ∀ w ∈ (s.refresh i id).2, w.IsQuiet := by
  intro w member
  obtain ⟨script, rfl⟩ := exists_of_mem_refresh member
  trivial

/-- Quiet work is followed by quiet work. -/
theorem quiet_step {s : Session ν} {w : Work ν} {rest : List (Work ν)} (next : s.agenda = w :: rest)
    (quiet : w.IsQuiet) (harmless : s.writesNext = false) :
    (∃ works, s.advance.agenda = works ++ rest ∧ ∀ v ∈ works, v.IsQuiet) ∧ Arrives s s.advance := by
  rw [agenda_advance next, advance_eq next]
  cases w with
  | announce => cases quiet
  | refresh => cases quiet
  | handOver ticket card id => exact ⟨⟨[], rfl, fun _ member => nomatch member⟩, .of_same_cards fun _ => rfl⟩
  | run script =>
      cases script with
      | done => exact ⟨⟨[], rfl, fun _ member => nomatch member⟩, .of_same_cards fun _ => rfl⟩
      | ask next' => exact ⟨⟨[_], rfl, fun v member => List.mem_singleton.mp member ▸ trivial⟩,
          .of_same_cards fun _ => rfl⟩
      | note content next' => exact ⟨⟨[_], rfl, fun v member => List.mem_singleton.mp member ▸ trivial⟩,
          .of_same_cards fun _ => rfl⟩
      | act step next' =>
          unfold writesNext at harmless
          rw [next] at harmless
          refine ⟨⟨_, rfl, fun v member => ?_⟩, perform_arrives { s with agenda := rest } step⟩
          rcases List.mem_append.mp member with now | last
          · exact quiet_perform harmless v now
          · rw [List.mem_singleton.mp last]
            trivial

end Session

end CardExpr
