import CardExpr.Proofs.Session.Moves
import CardExpr.Proofs.Session.UpToDate

/-!
Handles and numbers mean one subscription for good: a number is given out once on a card, and the handle
of a ticket points to the subscription that took the ticket.
-/

namespace CardExpr

variable {ν : Type}

/-- The same subscription, whatever its evaluations came to. -/
structure Subscription.Same (x y : Subscription ν) : Prop where
  id_eq : y.id = x.id
  ticket_eq : y.ticket = x.ticket
  expression_eq : y.expression = x.expression
  callback_eq : y.callback = x.callback

theorem Subscription.Same.refl (x : Subscription ν) : x.Same x := ⟨rfl, rfl, rfl, rfl⟩

theorem Subscription.Same.trans {x y z : Subscription ν} (first : x.Same y) (second : y.Same z) : x.Same z :=
  ⟨second.id_eq.trans first.id_eq, second.ticket_eq.trans first.ticket_eq,
    second.expression_eq.trans first.expression_eq, second.callback_eq.trans first.callback_eq⟩

namespace Session

theorem Occurs.tickets_le {s t : Session ν} (occurs : Occurs s t) : s.tickets.length ≤ t.tickets.length := by
  cases occurs with
  | calm calm => exact calm.tickets_le
  | written m mutates stored =>
      exact Nat.le_of_eq (congrArg (·.tickets.length) stored).symm
  | subscribe i c e callback before delivers tickets =>
      rw [tickets]
      exact Nat.le_succ _
  | refresh i c x before found delivers tickets => exact Nat.le_of_eq tickets.symm

/-- Every subscription was there before, or has the next number of its card and the next ticket. -/
theorem Occurs.origin {s t : Session ν} (occurs : Occurs s t) (numbered : s.Numbered) (j : ObserverId)
    (d : Card ν) (y : Subscription ν) (has : t.Has j d y) :
    (∃ c x, s.Has j c x ∧ x.Same y) ∨
      (∃ c, s.card? j = some c ∧ y.id = c.nextId) ∧ y.ticket = s.tickets.length := by
  cases occurs with
  | calm calm =>
      obtain ⟨c, old, -⟩ := calm.origin j d y has
      exact .inl ⟨c, y, old, .refl y⟩
  | written m mutates stored =>
      rw [stored] at has
      exact .inl ⟨d, y, has, .refl y⟩
  | subscribe i c e callback before delivers tickets =>
      rcases delivers.origin_joined before j d y has with ⟨c', old, -⟩ | ⟨rfl, -, rfl⟩
      · exact .inl ⟨c', y, old, .refl y⟩
      · exact .inr ⟨⟨c, before, rfl⟩, rfl⟩
  | refresh i c x before found delivers tickets =>
      have old : s.Has i c x := ⟨before, List.mem_of_find?_eq_some found⟩
      rcases numbered.origin_refresh i c x old _ delivers j d y has with ⟨c', same, -⟩ | ⟨rfl, -, rfl⟩
      · exact .inl ⟨c', y, same, .refl y⟩
      · exact .inl ⟨c, x, old, ⟨rfl, rfl, rfl, rfl⟩⟩

/-- A number that was given out means the same subscription ever after. -/
theorem Later.same_of_id {s t : Session ν} (later : Later s t) (reached : Reached s) {i : ObserverId}
    {c : Card ν} {x : Subscription ν} (has : s.Has i c x) :
    (∃ d, t.card? i = some d ∧ x.id < d.nextId) ∧
      ∀ d y, t.Has i d y → y.id = x.id → x.Same y := by
  induction later with
  | refl =>
      have numbered := reached.scheduled.numbered
      refine ⟨⟨c, has.1, numbered.below i c x has⟩, fun d y other same => ?_⟩
      cases has.1.symm.trans other.1
      rw [numbered.eq_of_id has other same.symm]
      exact .refl y
  | @tail u t before moves ih =>
      obtain ⟨⟨c', between, below⟩, old⟩ := ih
      obtain ⟨d', after, le⟩ := moves.lasts i c' between
      refine ⟨⟨d', after, Nat.lt_of_lt_of_le below le⟩, fun d y other same => ?_⟩
      have numbered := (reached.later before).scheduled.numbered
      rcases moves.occurs.origin numbered i d y other with ⟨c₁, z, kept, like⟩ | ⟨⟨c₁, found, number⟩, -⟩
      · exact (old c₁ z kept (like.id_eq.symm.trans same)).trans like
      · cases between.symm.trans found
        omega

/-- The ticket and the number on the card are those of one subscription, if it is still there. -/
structure Points (s : Session ν) (ticket : Nat) (card : ObserverId) (id : Nat) : Prop where
  issued : ticket < s.tickets.length
  used : ∃ c, s.card? card = some c ∧ id < c.nextId
  means : ∀ i c x, s.Has i c x → (x.ticket = ticket ↔ i = card ∧ x.id = id)

theorem Points.occurs {s t : Session ν} {ticket : Nat} {card : ObserverId} {id : Nat}
    (points : s.Points ticket card id) (numbered : s.Numbered) (occurs : Occurs s t) (lasts : Lasts s t) :
    t.Points ticket card id := by
  obtain ⟨issued, ⟨c, before, below⟩, means⟩ := points
  refine ⟨Nat.lt_of_lt_of_le issued occurs.tickets_le, ?_, fun j d y has => ?_⟩
  · obtain ⟨d, after, le⟩ := lasts card c before
    exact ⟨d, after, Nat.lt_of_lt_of_le below le⟩
  · rcases occurs.origin numbered j d y has with ⟨c', x, old, same⟩ | ⟨⟨c', found, number⟩, ticket⟩
    · rw [same.ticket_eq, same.id_eq]
      exact means j c' x old
    · -- A subscription that is new has neither the ticket nor the number.
      refine ⟨fun same => ?_, fun ⟨here, same⟩ => ?_⟩
      · omega
      · subst here
        cases before.symm.trans found
        omega

theorem Points.setAgenda {s : Session ν} {ticket : Nat} {card : ObserverId} {id : Nat}
    (points : s.Points ticket card id) (works : List (Work ν)) :
    ({ s with agenda := works } : Session ν).Points ticket card id :=
  ⟨points.issued, points.used, points.means⟩

theorem points_opening {s t : Session ν} {i : ObserverId} {c : Card ν} {e : Expression}
    {callback : Callback ν} (numbered : s.Numbered) (before : s.card? i = some c)
    (delivers : Delivers s t i (c.joined (s.opening c s.tickets.length e callback)) s.tickets.length
      (s.evaluateOn c e))
    (tickets : t.tickets.length = s.tickets.length + 1) : t.Points s.tickets.length i c.nextId := by
  refine ⟨tickets ▸ Nat.lt_succ_self _, ⟨_, (delivers.card?_eq i).trans (if_pos rfl), Nat.lt_succ_self _⟩,
    fun j d y has => ?_⟩
  rcases delivers.origin_joined before j d y has with ⟨c', old, -⟩ | ⟨rfl, -, rfl⟩
  · have issued := numbered.issued j c' y old
    refine ⟨fun same => absurd same (Nat.ne_of_lt issued), fun ⟨here, same⟩ => ?_⟩
    subst here
    cases before.symm.trans old.1
    exact absurd same (Nat.ne_of_lt (numbered.below j c y old))
  · exact ⟨fun _ => ⟨rfl, rfl⟩, fun _ => rfl⟩

/-- Every handle, and every handle that is yet to be handed over, points to the subscription that took the
ticket. -/
def Handed (s : Session ν) : Prop :=
  ∀ k i id, s.handle? k = some (i, id) ∨ .handOver k i id ∈ s.agenda → s.Points k i id

/-- Handles come from being handed over only, and only new subscriptions have theirs handed over. -/
structure Hands (s t : Session ν) (w : Option (Work ν)) (works : List (Work ν)) : Prop where
  handle : ∀ k i id, t.handle? k = some (i, id) → s.handle? k = some (i, id) ∨ w = some (.handOver k i id)
  handOver : ∀ k i id, .handOver k i id ∈ works → t.Points k i id

theorem Hands.idle {s t : Session ν} {w : Option (Work ν)} {works : List (Work ν)}
    (handle : ∀ k h, t.handle? k = some h → s.handle? k = some h)
    (idle : ∀ k i id, .handOver k i id ∉ works) : Hands s t w works :=
  ⟨fun k i id held => .inl (handle k (i, id) held), fun k i id member => absurd member (idle k i id)⟩

theorem perform_hands (s : Session ν) (numbered : s.Numbered) (step : Step (Callback ν)) :
    Hands s (s.perform step).session none (s.perform step).works := by
  obtain ⟨deed, keeps, -⟩ := s.perform_does step
  cases deed with
  | calm _ idle => exact .idle keeps.handle fun k i id => by simp [idle]
  | write m _ _ _ announced => exact .idle keeps.handle fun k i id => by simp [announced]
  | subscribe i c e callback _ before delivers tickets started =>
      refine ⟨fun k j id held => .inl (keeps.handle k (j, id) held), fun k j id member => ?_⟩
      rw [started] at member
      rcases List.mem_append.mp member with begun | last
      · obtain ⟨v, same⟩ := exists_of_mem_starts begun
        cases same
      · cases List.mem_singleton.mp last
        exact points_opening numbered before delivers tickets

theorem handle?_handOver (s : Session ν) {ticket : Nat} {card : ObserverId} {id k : Nat}
    {h : ObserverId × Nat} (held : (s.labor (.handOver ticket card id)).1.handle? k = some h) :
    s.handle? k = some h ∨ k = ticket ∧ h = (card, id) := by
  unfold handle? labor at held
  dsimp only at held
  rw [List.getElem?_modify] at held
  by_cases same : ticket = k
  · subst same
    cases found : s.tickets[ticket]? with
    | none => simp [found] at held
    | some t => exact .inr ⟨rfl, by simpa [found] using held.symm⟩
  · exact .inl (by simpa [handle?, same] using held)

theorem labor_hands (s : Session ν) (numbered : s.Numbered) (w : Work ν) :
    Hands s (s.labor w).1 (some w) (s.labor w).2 := by
  cases w with
  | run script =>
      cases script with
      | done => exact .idle (fun _ _ => id) fun k i id => by simp [labor]
      | ask next => exact .idle (fun _ _ => id) fun k i id => by simp [labor]
      | note content next => exact .idle (fun _ _ => id) fun k i id => by simp [labor]
      | act step next =>
          obtain ⟨handle, handOver⟩ := s.perform_hands numbered step
          refine ⟨fun k i id held => ?_, fun k i id member => ?_⟩
          · refine .inl ((handle k i id held).resolve_right fun same => ?_)
            cases same
          · refine handOver k i id ((List.mem_append.mp member).resolve_right fun last => ?_)
            cases List.mem_singleton.mp last
  | announce change listeners =>
      cases listeners with
      | nil => exact .idle (fun _ _ => id) fun k i id => by simp [labor]
      | cons j rest =>
          rw [labor_announce]
          rcases s.announce_cases change j with ⟨react, _, -, told⟩ | ⟨c, -, told⟩ | ⟨-, told⟩
          all_goals
            rw [told]
            exact .idle (fun _ _ => id) fun k i id => by simp
  | refresh card ids =>
      cases ids with
      | nil => exact .idle (fun _ _ => id) fun k i id => by simp [labor]
      | cons n rest =>
          rw [labor_refresh]
          refine .idle (s.refresh_keeps card n).handle fun k i id member => ?_
          rcases List.mem_append.mp member with begun | last
          · obtain ⟨script, same⟩ := exists_of_mem_refresh begun
            cases same
          · cases List.mem_singleton.mp last
  | handOver ticket card id =>
      refine ⟨fun k i n held => ?_, fun k i n member => absurd member List.not_mem_nil⟩
      rcases s.handle?_handOver held with before | ⟨rfl, same⟩
      · exact .inl before
      · cases same
        exact .inr rfl

theorem Handed.push {s t : Session ν} {works : List (Work ν)} (handed : s.Handed)
    (kept : ∀ k i id, s.Points k i id → (t.push works).Points k i id) (agenda : t.agenda = s.agenda)
    {w : Option (Work ν)} (hands : Hands s t w works)
    (given : ∀ k i id, w = some (.handOver k i id) → (t.push works).Points k i id) :
    (t.push works).Handed := by
  rintro k i id (held | member)
  · rcases hands.handle k i id held with before | now
    · exact kept k i id (handed k i id (.inl before))
    · exact given k i id now
  · rcases List.mem_append.mp member with new | old
    · exact (hands.handOver k i id new).setAgenda _
    · rw [agenda] at old
      exact kept k i id (handed k i id (.inr old))

theorem Handed.advance {s : Session ν} (handed : s.Handed) (numbered : s.Numbered) : s.advance.Handed := by
  have kept (k i id) (points : s.Points k i id) : s.advance.Points k i id :=
    points.occurs numbered s.advance_occurs s.advance_lasts
  cases next : s.agenda with
  | nil =>
      rw [advance_of_idle next]
      exact handed
  | cons w rest =>
      rw [advance_eq next] at kept ⊢
      have taken : ({ s with agenda := rest } : Session ν).Handed := by
        rintro k i id (held | member)
        · exact (handed k i id (.inl held)).setAgenda rest
        · exact (handed k i id (.inr (next ▸ List.mem_cons_of_mem w member))).setAgenda rest
      refine taken.push (fun k i id points => kept k i id (points.setAgenda s.agenda)) (agenda_labor _ w)
        (labor_hands { s with agenda := rest } ?_ w)
        fun k i id same => kept k i id (handed k i id (.inr ?_))
      · exact numbered.calm (.setAgenda s rest)
      · rw [next, Option.some.inj same]
        exact List.mem_cons_self

theorem Handed.moves {s t : Session ν} (handed : s.Handed) (numbered : s.Numbered) (moves : Moves s t) :
    t.Handed := by
  have kept (k i id) (points : s.Points k i id) : t.Points k i id :=
    points.occurs numbered moves.occurs moves.lasts
  cases moves with
  | store | watcher | observe => exact fun k i id held => kept k i id (handed k i id held)
  | card store functions config isLogged inside =>
      intro k i id held
      refine kept k i id (handed k i id ?_)
      rw [addCard_eq] at held
      exact held
  | step step =>
      exact handed.push kept (s.perform_does step).agenda_eq (s.perform_hands numbered step)
        fun k i id same => nomatch same
  | work => exact handed.advance numbered

theorem Reached.handed {s : Session ν} (reached : Reached s) : s.Handed := by
  refine reached.of_preserved (fun now k i id held => ?_)
    fun s t before handed moves => handed.moves before.scheduled.numbered moves
  rcases held with held | member
  · cases held
  · cases member

end Session

end CardExpr
