import CardExpr.Proofs.Session.Effect
import Mathlib.Data.List.Nodup

/-! Numbers and tickets tell subscriptions apart, and a subscription holds what was delivered last. -/

namespace CardExpr

variable {ν : Type}

theorem Card.ids_update (c : Card ν) (id : Nat) (f : Subscription ν → Subscription ν)
    (same : ∀ x, (f x).id = x.id) :
    (c.update id f).subscriptions.map (·.id) = c.subscriptions.map (·.id) := by
  unfold Card.update
  rw [List.map_map]
  refine List.map_congr_left fun x _ => ?_
  simp only [Function.comp_apply]
  split
  · exact same x
  · rfl

theorem getLast?_append_toList (values : List Value) (value : Option Value) :
    (values ++ value.toList).getLast? = (value <|> values.getLast?) := by
  cases value with
  | none => simp
  | some v => simp

namespace Session

def Has (s : Session ν) (i : ObserverId) (c : Card ν) (x : Subscription ν) : Prop :=
  s.card? i = some c ∧ x ∈ c.subscriptions

/-- The numbers of a card and the tickets of the session are used once, and every subscription holds the
value that its callback was started on last. -/
structure Numbered (s : Session ν) : Prop where
  nodup : ∀ i c, s.card? i = some c → (c.subscriptions.map (·.id)).Nodup
  below : ∀ i c x, s.Has i c x → x.id < c.nextId
  issued : ∀ i c x, s.Has i c x → x.ticket < s.tickets.length
  apart : ∀ i c x j d y, s.Has i c x → s.Has j d y → x.ticket = y.ticket → i = j ∧ x.id = y.id
  silent : ∀ ticket, s.tickets.length ≤ ticket → deliveries s.log ticket = []
  last_eq : ∀ i c x, s.Has i c x → x.last = (deliveries s.log x.ticket).getLast?

theorem Numbered.eq_of_id {s : Session ν} (numbered : s.Numbered) {i : ObserverId} {c : Card ν}
    {x y : Subscription ν} (left : s.Has i c x) (right : s.Has i c y) (same : x.id = y.id) : x = y :=
  List.inj_on_of_nodup_map (numbered.nodup i c left.1) left.2 right.2 same

theorem Calm.origin {s t : Session ν} (calm : Calm s t) (i : ObserverId) (d : Card ν) (y : Subscription ν)
    (has : t.Has i d y) :
    ∃ c, s.Has i c y ∧ d.nextId = c.nextId ∧ c.Alike d ∧ (t.isHeld i = true → s.isHeld i = true) := by
  rcases calm.cards i d has.1 with empty | ⟨c, before, held, alike, next, fewer⟩
  · have member := has.2
    rw [empty] at member
    cases member
  · exact ⟨c, ⟨before, fewer.subset has.2⟩, next, alike, held⟩

theorem Numbered.calm {s t : Session ν} (numbered : s.Numbered) (calm : Calm s t) : t.Numbered := by
  have origin := calm.origin
  constructor
  · intro i d found
    rcases calm.cards i d found with empty | ⟨c, before, -, -, -, fewer⟩
    · rw [empty]
      exact List.nodup_nil
    · exact (numbered.nodup i c before).sublist (fewer.map _)
  · intro i d y has
    obtain ⟨c, before, next, -⟩ := origin i d y has
    rw [next]
    exact numbered.below i c y before
  · intro i d y has
    obtain ⟨c, before, -⟩ := origin i d y has
    exact Nat.lt_of_lt_of_le (numbered.issued i c y before) calm.tickets_le
  · intro i d y j e z left right same
    obtain ⟨c, first, -⟩ := origin i d y left
    obtain ⟨c', second, -⟩ := origin j e z right
    exact numbered.apart i c y j c' z first second same
  · intro ticket unused
    rw [calm.deliveries_eq]
    exact numbered.silent ticket (Nat.le_trans calm.tickets_le unused)
  · intro i d y has
    obtain ⟨c, before, -⟩ := origin i d y has
    rw [calm.deliveries_eq]
    exact numbered.last_eq i c y before

/-- After a first evaluation, every subscription is one that was there or the new one. -/
theorem Delivers.origin_joined {s t : Session ν} {i : ObserverId} {c : Card ν} {x : Subscription ν}
    {ticket : Nat} {evaluation : Evaluation} (delivers : Delivers s t i (c.joined x) ticket evaluation)
    (before : s.card? i = some c) (j : ObserverId) (d : Card ν) (y : Subscription ν) (after : t.Has j d y) :
    (∃ c', s.Has j c' y ∧ c'.Alike d ∧ c'.nextId ≤ d.nextId) ∨ j = i ∧ d = c.joined x ∧ y = x := by
  obtain ⟨found, member⟩ := after
  rw [delivers.card?_eq] at found
  split at found
  next same =>
    cases found
    rcases List.mem_append.mp member with old | new
    · exact .inl ⟨c, ⟨same ▸ before, old⟩, ⟨rfl, rfl, rfl⟩, Nat.le_succ _⟩
    · exact .inr ⟨same.symm, rfl, List.mem_singleton.mp new⟩
  next => exact .inl ⟨d, ⟨found, member⟩, .refl d, Nat.le_refl _⟩

/-- A subscription with the next number and a new ticket. -/
theorem Numbered.subscribe {s t : Session ν} (numbered : s.Numbered) (i : ObserverId) (c : Card ν)
    (e : Expression) (callback : Callback ν) (before : s.card? i = some c)
    (delivers : Delivers s t i (c.joined (s.opening c s.tickets.length e callback)) s.tickets.length
      (s.evaluateOn c e))
    (tickets : t.tickets.length = s.tickets.length + 1) : t.Numbered := by
  have origin := delivers.origin_joined before
  constructor
  · intro j d found
    rw [delivers.card?_eq] at found
    split at found
    · cases found
      show ((c.subscriptions ++ [s.opening c s.tickets.length e callback]).map (·.id)).Nodup
      rw [List.map_append, List.nodup_append]
      refine ⟨numbered.nodup i c before, List.nodup_singleton _, ?_⟩
      intro id old number new same
      obtain ⟨x, member, rfl⟩ := List.mem_map.mp old
      have next : number = c.nextId := List.mem_singleton.mp new
      have earlier := numbered.below i c x ⟨before, member⟩
      omega
    · exact numbered.nodup j d found
  · intro j d y has
    rcases origin j d y has with ⟨c', old, -, le⟩ | ⟨-, rfl, rfl⟩
    · exact Nat.lt_of_lt_of_le (numbered.below j c' y old) le
    · exact Nat.lt_succ_self c.nextId
  · intro j d y has
    rw [tickets]
    rcases origin j d y has with ⟨c', old, -⟩ | ⟨-, -, rfl⟩
    · exact Nat.lt_succ_of_lt (numbered.issued j c' y old)
    · exact Nat.lt_succ_self s.tickets.length
  · intro j d y k d' z left right same
    rcases origin j d y left with ⟨c₁, first, -⟩ | ⟨rfl, -, rfl⟩
    · rcases origin k d' z right with ⟨c₂, second, -⟩ | ⟨rfl, -, rfl⟩
      · exact numbered.apart j c₁ y k c₂ z first second same
      · exact absurd same (Nat.ne_of_lt (numbered.issued j c₁ y first))
    · rcases origin k d' z right with ⟨c₂, second, -⟩ | ⟨rfl, -, rfl⟩
      · exact absurd same.symm (Nat.ne_of_lt (numbered.issued k c₂ z second))
      · exact ⟨rfl, rfl⟩
  · intro ticket unused
    rw [tickets] at unused
    have other : ticket ≠ s.tickets.length := Nat.ne_of_gt unused
    rw [delivers.deliveries_eq, if_neg other, numbered.silent ticket (Nat.le_of_succ_le unused)]
    rfl
  · intro j d y has
    rw [delivers.deliveries_eq]
    rcases origin j d y has with ⟨c', old, -⟩ | ⟨-, -, rfl⟩
    · have other : y.ticket ≠ s.tickets.length := Nat.ne_of_lt (numbered.issued j c' y old)
      rw [if_neg other, List.append_nil]
      exact numbered.last_eq j c' y old
    · have ticket : (s.opening c s.tickets.length e callback).ticket = s.tickets.length := rfl
      have fresh := numbered.silent s.tickets.length (Nat.le_refl _)
      rw [if_pos ticket, getLast?_append_toList, ticket, fresh]
      show (s.evaluateOn c e).result.toOption = _
      cases (s.evaluateOn c e).result.toOption <;> rfl

/-- After another evaluation, every subscription is one that was there, and only the evaluated one is
changed and has a value delivered. -/
theorem Numbered.origin_refresh {s t : Session ν} (numbered : s.Numbered) (i : ObserverId) (c : Card ν)
    (x : Subscription ν) (has : s.Has i c x) (evaluation : Evaluation)
    (delivers : Delivers s t i (c.update x.id (.renewed evaluation)) x.ticket evaluation)
    (j : ObserverId) (d : Card ν) (y : Subscription ν) (after : t.Has j d y) :
    (∃ c', s.Has j c' y ∧ c'.Alike d ∧ d.nextId = c'.nextId ∧ y.ticket ≠ x.ticket) ∨
      j = i ∧ d = c.update x.id (.renewed evaluation) ∧ y = x.renewed evaluation := by
  obtain ⟨found, member⟩ := after
  rw [delivers.card?_eq] at found
  split at found
  next same =>
    subst same
    cases found
    obtain ⟨z, old, rfl⟩ := List.mem_map.mp member
    split
    next sameId =>
      have same : z = x := numbered.eq_of_id ⟨has.1, old⟩ has sameId
      exact .inr ⟨rfl, rfl, congrArg _ same⟩
    next otherId =>
      refine .inl ⟨c, ⟨has.1, old⟩, ⟨rfl, rfl, rfl⟩, rfl, fun same => otherId ?_⟩
      exact (numbered.apart i c z i c x ⟨has.1, old⟩ has same).2
  next other =>
    refine .inl ⟨d, ⟨found, member⟩, .refl d, rfl, fun same => other ?_⟩
    exact (numbered.apart j d y i c x ⟨found, member⟩ has same).1.symm

theorem Numbered.refresh {s t : Session ν} (numbered : s.Numbered) (i : ObserverId) (c : Card ν)
    (x : Subscription ν) (has : s.Has i c x) (evaluation : Evaluation)
    (delivers : Delivers s t i (c.update x.id (.renewed evaluation)) x.ticket evaluation)
    (tickets : t.tickets.length = s.tickets.length) : t.Numbered := by
  have origin := numbered.origin_refresh i c x has evaluation delivers
  have source : ∀ j d y, t.Has j d y →
      ∃ c' z, s.Has j c' z ∧ d.nextId = c'.nextId ∧ y.id = z.id ∧ y.ticket = z.ticket := by
    intro j d y after
    rcases origin j d y after with ⟨c', old, -, next, -⟩ | ⟨rfl, rfl, rfl⟩
    · exact ⟨c', y, old, next, rfl, rfl⟩
    · exact ⟨c, x, has, rfl, rfl, rfl⟩
  constructor
  · intro j d found
    rw [delivers.card?_eq] at found
    split at found
    · cases found
      rw [Card.ids_update c x.id (.renewed evaluation) fun _ => rfl]
      exact numbered.nodup i c has.1
    · exact numbered.nodup j d found
  · intro j d y after
    obtain ⟨c', z, old, next, id, -⟩ := source j d y after
    rw [next, id]
    exact numbered.below j c' z old
  · intro j d y after
    obtain ⟨c', z, old, -, -, ticket⟩ := source j d y after
    rw [tickets, ticket]
    exact numbered.issued j c' z old
  · intro j d y k d' y' left right same
    obtain ⟨c₁, z, first, -, id, ticket⟩ := source j d y left
    obtain ⟨c₂, z', second, -, id', ticket'⟩ := source k d' y' right
    rw [ticket, ticket'] at same
    rw [id, id']
    exact numbered.apart j c₁ z k c₂ z' first second same
  · intro ticket unused
    rw [tickets] at unused
    have other : ticket ≠ x.ticket := Nat.ne_of_gt (Nat.lt_of_lt_of_le (numbered.issued i c x has) unused)
    rw [delivers.deliveries_eq, if_neg other, numbered.silent ticket unused]
    rfl
  · intro j d y after
    rw [delivers.deliveries_eq]
    rcases origin j d y after with ⟨c', old, -, -, other⟩ | ⟨-, -, rfl⟩
    · rw [if_neg other, List.append_nil]
      exact numbered.last_eq j c' y old
    · have ticket : (x.renewed evaluation).ticket = x.ticket := rfl
      rw [if_pos ticket, getLast?_append_toList, ticket, ← numbered.last_eq i c x has]
      rfl

theorem Numbered.effect {s t : Session ν} {works : List (Work ν)} (numbered : s.Numbered)
    (effect : Effect s t works) : t.Numbered := by
  cases effect with
  | calm calm => exact numbered.calm calm
  | mutate m mutates stored announced =>
      subst stored
      exact ⟨numbered.nodup, numbered.below, numbered.issued, numbered.apart, numbered.silent,
        numbered.last_eq⟩
  | subscribe i c e callback before delivers tickets =>
      exact numbered.subscribe i c e callback before delivers tickets
  | refresh i c x before found delivers tickets =>
      exact numbered.refresh i c x ⟨before, List.mem_of_find?_eq_some found⟩ _ delivers tickets

end Session

end CardExpr
