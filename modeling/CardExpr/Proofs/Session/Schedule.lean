import CardExpr.Proofs.Evaluation.ReadSet
import CardExpr.Proofs.Session.Numbering

/-!
No update is lost: a subscription whose evaluation would come out otherwise by now is always waiting
somewhere in the work that is left, whatever callbacks do in between.
-/

namespace CardExpr

variable {ν : Type}

/-- The work will lead to another evaluation of the subscription of the card `i`. -/
def Work.Awaits (i : ObserverId) (x : Subscription ν) : Work ν → Prop
  | .announce change listeners => i ∈ listeners ∧ x.reads.isAffectedBy change = true
  | .refresh card ids => card = i ∧ x.id ∈ ids
  | _ => False

theorem mem_addOnce (known more : List ObserverId) (i : ObserverId) :
    i ∈ more.foldl (fun known o => if known.contains o then known else known ++ [o]) known ↔
      i ∈ known ∨ i ∈ more := by
  induction more generalizing known with
  | nil => simp
  | cons o rest ih =>
      rw [List.foldl_cons, ih, List.mem_cons]
      split
      next present =>
        have present := List.contains_iff_mem.mp present
        constructor
        · exact fun member => member.imp_right .inr
        · rintro (before | rfl | after)
          · exact .inl before
          · exact .inl present
          · exact .inr after
      next => rw [List.mem_append, List.mem_singleton, or_assoc]

/-- Who is alive and observes a touched store hears of a change, and nobody else. -/
theorem Mutation.mem_listeners_iff (m : Mutation) (isAlive : ObserverId → Bool) (i : ObserverId) :
    i ∈ m.listeners isAlive ↔
      m.change.isEmpty = false ∧ isAlive i = true ∧ ∃ o ∈ m.touched, i ∈ (m.stores.store o).observers := by
  unfold Mutation.listeners
  split
  next empty => simp [empty]
  next changed =>
    have changed : m.change.isEmpty = false := Bool.eq_false_iff.mpr changed
    rw [mem_addOnce]
    simp only [List.not_mem_nil, false_or, List.mem_flatMap, List.mem_filter, changed, true_and]
    constructor
    · rintro ⟨o, touched, observes, alive⟩
      exact ⟨alive, o, touched, observes⟩
    · rintro ⟨alive, o, touched, observes⟩
      exact ⟨o, touched, observes, alive⟩

theorem ReadSet.isEmpty_of_isAffectedBy (reads : ReadSet) (change : StoreChange)
    (affected : reads.isAffectedBy change = true) : change.isEmpty = false := by
  obtain ⟨read, -, hit⟩ := List.any_eq_true.mp affected
  rw [Bool.eq_false_iff]
  intro empty
  unfold StoreChange.isEmpty at empty
  rw [Bool.and_eq_true, List.isEmpty_iff, List.isEmpty_iff] at empty
  simp [ReadSet.isHit, empty.1, empty.2] at hit

namespace Session

/-- The subscription is what an evaluation by now would make it. -/
structure Fresh (s : Session ν) (c : Card ν) (x : Subscription ν) : Prop where
  reads_eq : x.reads = (s.evaluateOn c x.expression).reads
  last_eq : ∀ v, (s.evaluateOn c x.expression).result = .ok v → x.last = some v

theorem Fresh.congr {s t : Session ν} {c d : Card ν} {x : Subscription ν} (fresh : s.Fresh c x)
    (same : t.evaluateOn d x.expression = s.evaluateOn c x.expression) : t.Fresh d x := by
  constructor
  · rw [same]
    exact fresh.reads_eq
  · rw [same]
    exact fresh.last_eq

theorem fresh_opening (s : Session ν) (c : Card ν) (ticket : Nat) (e : Expression)
    (callback : Callback ν) : s.Fresh c (s.opening c ticket e callback) := by
  refine ⟨rfl, fun v done => ?_⟩
  show (s.evaluateOn c e).result.toOption = some v
  rw [show (s.evaluateOn c e).result = .ok v from done]
  rfl

theorem fresh_renewed (s : Session ν) (c : Card ν) (x : Subscription ν) :
    s.Fresh c (x.renewed (s.evaluateOn c x.expression)) := by
  refine ⟨rfl, fun v done => ?_⟩
  show ((s.evaluateOn c x.expression).result.toOption <|> x.last) = some v
  rw [show (s.evaluateOn c x.expression).result = .ok v from done]
  rfl

theorem Delivers.evaluateOn_eq {s t : Session ν} {i : ObserverId} {d₀ : Card ν} {ticket : Nat}
    {evaluation : Evaluation} (delivers : Delivers s t i d₀ ticket evaluation) (c d : Card ν)
    (alike : c.Alike d) (e : Expression) : t.evaluateOn d e = s.evaluateOn c e :=
  s.evaluateOn_alike t c d e alike (by rw [delivers.stores_eq]) delivers.now_eq

theorem Delivers.wired {s t : Session ν} {i : ObserverId} {d₀ : Card ν} {ticket : Nat}
    {evaluation : Evaluation} (delivers : Delivers s t i d₀ ticket evaluation) (wired : s.Wired)
    (c : Card ν) (before : s.card? i = some c) (store : d₀.store = c.store) : t.Wired := by
  refine wired.of_cards delivers.stores_eq fun j d found => ?_
  rw [delivers.card?_eq] at found
  split at found
  next same =>
    cases found
    exact ⟨c, same ▸ before, store⟩
  next => exact ⟨d, found, rfl⟩

/-- Every subscription of a held card is up to date or will be evaluated again by the pending work. -/
structure Scheduled (s : Session ν) (pending : List (Work ν)) : Prop where
  wired : s.Wired
  numbered : s.Numbered
  covered : ∀ i c x, s.isHeld i = true → s.Has i c x → s.Fresh c x ∨ ∃ w ∈ pending, w.Awaits i x

/-- Pending work may be replaced by work that awaits as much. -/
theorem Scheduled.replace {s : Session ν} {pending others : List (Work ν)} (scheduled : s.Scheduled pending)
    (awaited : ∀ i c x, s.isHeld i = true → s.Has i c x → ∀ w ∈ pending, w.Awaits i x →
      s.Fresh c x ∨ ∃ w ∈ others, w.Awaits i x) : s.Scheduled others := by
  refine ⟨scheduled.wired, scheduled.numbered, fun i c x held has => ?_⟩
  rcases scheduled.covered i c x held has with fresh | ⟨w, member, awaits⟩
  · exact .inl fresh
  · exact awaited i c x held has w member awaits

theorem Scheduled.mono {s : Session ν} {pending others : List (Work ν)} (scheduled : s.Scheduled pending)
    (more : ∀ w ∈ pending, w ∈ others) : s.Scheduled others :=
  scheduled.replace fun _ _ _ _ _ w member awaits => .inr ⟨w, more w member, awaits⟩

/-- A piece of work that awaits nothing may be left out. -/
theorem Scheduled.skip {s : Session ν} {w : Work ν} {pending : List (Work ν)}
    (scheduled : s.Scheduled (w :: pending)) (idle : ∀ i x, ¬ w.Awaits i x) : s.Scheduled pending := by
  refine scheduled.replace fun i c x _ _ v member awaits => ?_
  rcases List.mem_cons.mp member with rfl | later
  · exact absurd awaits (idle i x)
  · exact .inr ⟨v, later, awaits⟩

theorem Scheduled.calm {s t : Session ν} {pending : List (Work ν)} (scheduled : s.Scheduled pending)
    (calm : Calm s t) : t.Scheduled pending := by
  refine ⟨calm.wired scheduled.wired, scheduled.numbered.calm calm, fun i d x held has => ?_⟩
  obtain ⟨c, old, -, alike, heldBefore⟩ := calm.origin i d x has
  have placed := scheduled.wired.placed i c old.1
  have same : t.evaluateOn d x.expression = s.evaluateOn c x.expression :=
    s.evaluateOn_alike t c d x.expression alike
      (calm.wider.resolver_eq scheduled.wired.nested c.store placed) calm.now_eq
  rcases scheduled.covered i c x (heldBefore held) old with fresh | awaited
  · exact .inl (fresh.congr same)
  · exact .inr awaited

/-- A change either reaches the card of a subscription that it affects, or it is to no store that the card
may read. -/
theorem Scheduled.mutate {s : Session ν} {works pending : List (Work ν)} (scheduled : s.Scheduled pending)
    (m : Mutation) (mutates : s.stores.Mutates m)
    (announced : .announce m.change (m.listeners s.isAlive) ∈ works) :
    ({ s with stores := m.stores } : Session ν).Scheduled (works ++ pending) := by
  have accounts := mutates.accounts
  refine ⟨scheduled.wired.mutate m accounts, scheduled.numbered.effect (.mutate m mutates rfl announced),
    fun i c x held has => ?_⟩
  rcases scheduled.covered i c x held has with fresh | ⟨w, member, awaits⟩
  · cases affected : x.reads.isAffectedBy m.change with
    | false =>
        rw [fresh.reads_eq] at affected
        exact .inl (fresh.congr
          (s.stores.evaluate_eq_of_not_affected m accounts c.store c.functions c.config s.now _ affected))
    | true =>
        by_cases listens : i ∈ m.listeners s.isAlive
        · exact .inr ⟨_, List.mem_append_left pending announced, listens, affected⟩
        · have alive : s.isAlive i = true := by
            have held : s.isHeld i = true := held
            unfold isAlive
            rw [held, Bool.true_or]
          have untouched : ∀ o ∈ s.stores.chain c.store, o ∉ m.touched := by
            intro o member touched
            have observes := scheduled.wired.observed i c has.1 o member
            rw [← accounts.observers_eq] at observes
            have changed := ReadSet.isEmpty_of_isAffectedBy x.reads m.change affected
            exact listens ((m.mem_listeners_iff s.isAlive i).mpr ⟨changed, alive, o, touched, observes⟩)
          have same := s.stores.resolver_eq_of_untouched m accounts c.store untouched
          exact .inl (fresh.congr (s.evaluateOn_alike _ c c x.expression (.refl c) same rfl))
  · exact .inr ⟨w, List.mem_append_right works member, awaits⟩

theorem Scheduled.delivered {s t : Session ν} {pending : List (Work ν)} (scheduled : s.Scheduled pending)
    {i : ObserverId} {c d₀ : Card ν} {ticket : Nat} {evaluation : Evaluation}
    (delivers : Delivers s t i d₀ ticket evaluation) (before : s.card? i = some c)
    (store : d₀.store = c.store) (numbered : t.Numbered)
    (origin : ∀ j d y, t.Has j d y → (∃ c', s.Has j c' y ∧ c'.Alike d) ∨ t.Fresh d y) :
    t.Scheduled pending := by
  refine ⟨delivers.wired scheduled.wired c before store, numbered, fun j d y held after => ?_⟩
  rw [delivers.isHeld_eq] at held
  rcases origin j d y after with ⟨c', old, alike⟩ | fresh
  · rcases scheduled.covered j c' y held old with fresh | awaited
    · exact .inl (fresh.congr (delivers.evaluateOn_eq c' d alike y.expression))
    · exact .inr awaited
  · exact .inl fresh

theorem Scheduled.subscribe {s t : Session ν} {pending : List (Work ν)} (scheduled : s.Scheduled pending)
    (i : ObserverId) (c : Card ν) (e : Expression) (callback : Callback ν) (before : s.card? i = some c)
    (delivers : Delivers s t i (c.joined (s.opening c s.tickets.length e callback)) s.tickets.length
      (s.evaluateOn c e))
    (tickets : t.tickets.length = s.tickets.length + 1) : t.Scheduled pending := by
  have numbered := scheduled.numbered.subscribe i c e callback before delivers tickets
  refine scheduled.delivered delivers before rfl numbered fun j d y after => ?_
  rcases delivers.origin_joined before j d y after with ⟨c', old, alike, -⟩ | ⟨-, rfl, rfl⟩
  · exact .inl ⟨c', old, alike⟩
  · exact .inr ((s.fresh_opening c _ e callback).congr (delivers.evaluateOn_eq c _ ⟨rfl, rfl, rfl⟩ e))

theorem Scheduled.renew {s t : Session ν} {pending : List (Work ν)} (scheduled : s.Scheduled pending)
    (i : ObserverId) (c : Card ν) (x : Subscription ν) (has : s.Has i c x)
    (delivers : Delivers s t i (c.update x.id (.renewed (s.evaluateOn c x.expression))) x.ticket
      (s.evaluateOn c x.expression))
    (tickets : t.tickets.length = s.tickets.length) : t.Scheduled pending := by
  have numbered := scheduled.numbered.refresh i c x has _ delivers tickets
  refine scheduled.delivered delivers has.1 rfl numbered fun j d y after => ?_
  rcases scheduled.numbered.origin_refresh i c x has _ delivers j d y after with
    ⟨c', old, alike, -, -⟩ | ⟨-, rfl, rfl⟩
  · exact .inl ⟨c', old, alike⟩
  · exact .inr ((s.fresh_renewed c x).congr (delivers.evaluateOn_eq c _ ⟨rfl, rfl, rfl⟩ x.expression))

theorem Scheduled.effect {s t : Session ν} {works pending : List (Work ν)}
    (scheduled : s.Scheduled pending) (effect : Effect s t works) : t.Scheduled (works ++ pending) := by
  have behind : ∀ w ∈ pending, w ∈ works ++ pending := fun w => List.mem_append_right works
  cases effect with
  | calm calm => exact (scheduled.calm calm).mono behind
  | mutate m mutates stored announced =>
      subst stored
      exact scheduled.mutate m mutates announced
  | subscribe i c e callback before delivers tickets =>
      exact (scheduled.subscribe i c e callback before delivers tickets).mono behind
  | refresh i c x before found delivers tickets =>
      have has : s.Has i c x := ⟨before, List.mem_of_find?_eq_some found⟩
      exact (scheduled.renew i c x has delivers tickets).mono behind

end Session

end CardExpr
