import CardExpr.Proofs.Session.Wiring

/-!
What steps and pieces of work can do to a session: write variables, evaluate a subscription that is new
or one that is there, or none of these.
-/

namespace CardExpr

variable {ν : Type}

def Event.value? (ticket : Nat) : Event ν → Option Value
  | .delivered t v => if t = ticket then some v else none
  | _ => none

/-- The values on which the callback of the ticket was started, in order. -/
def deliveries (log : List (Event ν)) (ticket : Nat) : List Value := log.filterMap (Event.value? ticket)

theorem deliveries_append (first second : List (Event ν)) (ticket : Nat) :
    deliveries (first ++ second) ticket = deliveries first ticket ++ deliveries second ticket :=
  List.filterMap_append

theorem deliveries_warned (warnings : List Warning) (ticket : Nat) :
    deliveries (warnings.map (Event.warned (ν := ν))) ticket = [] := by
  induction warnings with
  | nil => rfl
  | cons w rest ih => exact ih

/-- The two cards evaluate alike. -/
structure Card.Alike (c d : Card ν) : Prop where
  store : d.store = c.store
  functions : d.functions = c.functions
  config : d.config = c.config

def Subscription.renewed (evaluation : Evaluation) (x : Subscription ν) : Subscription ν :=
  { x with reads := evaluation.reads, last := evaluation.result.toOption <|> x.last }

def Card.joined (c : Card ν) (x : Subscription ν) : Card ν :=
  { c with nextId := c.nextId + 1, subscriptions := c.subscriptions ++ [x] }

theorem Card.Alike.refl (c : Card ν) : c.Alike c := ⟨rfl, rfl, rfl⟩

namespace Session

theorem evaluateOn_alike (s t : Session ν) (c d : Card ν) (e : Expression) (alike : c.Alike d)
    (resolvers : t.stores.resolver c.store = s.stores.resolver c.store) (now : t.now = s.now) :
    t.evaluateOn d e = s.evaluateOn c e := by
  unfold evaluateOn
  rw [alike.store, alike.functions, alike.config, resolvers, now]

/-- No variable is written and no subscription evaluated. Subscriptions may end, and cards be added
and dropped. -/
structure Calm (s t : Session ν) : Prop where
  now_eq : t.now = s.now
  wired : s.Wired → t.Wired
  wider : s.stores.Extends t.stores
  cards : ∀ i d, t.card? i = some d → d.subscriptions = [] ∨
    ∃ c, s.card? i = some c ∧ (t.isHeld i = true → s.isHeld i = true) ∧ c.Alike d ∧
      d.nextId = c.nextId ∧ d.subscriptions.Sublist c.subscriptions
  tickets_le : s.tickets.length ≤ t.tickets.length
  deliveries_eq : ∀ ticket, deliveries t.log ticket = deliveries s.log ticket

/-- The subscription as its first evaluation makes it. -/
def opening (s : Session ν) (c : Card ν) (ticket : Nat) (e : Expression) (callback : Callback ν) :
    Subscription ν :=
  ⟨c.nextId, ticket, e, callback, (s.evaluateOn c e).reads, (s.evaluateOn c e).result.toOption⟩

/-- Only the card `i` has changed, and the callback of the ticket was started on the outcome of an
evaluation if that has a value. -/
structure Delivers (s t : Session ν) (i : ObserverId) (d : Card ν) (ticket : Nat)
    (evaluation : Evaluation) : Prop where
  now_eq : t.now = s.now
  stores_eq : t.stores = s.stores
  isHeld_eq : ∀ j, t.isHeld j = s.isHeld j
  card?_eq : ∀ j, t.card? j = if i = j then some d else s.card? j
  deliveries_eq : ∀ other, deliveries t.log other =
    deliveries s.log other ++ if other = ticket then evaluation.result.toOption.toList else []

/-- What can happen to the session at once, and the work that follows from it. -/
inductive Effect (s t : Session ν) (works : List (Work ν)) : Prop where
  | calm (calm : Calm s t)
  | mutate (m : Mutation) (mutates : s.stores.Mutates m) (stored : t = { s with stores := m.stores })
      (announced : .announce m.change (m.listeners s.isAlive) ∈ works)
  | subscribe (i : ObserverId) (c : Card ν) (e : Expression) (callback : Callback ν)
      (before : s.card? i = some c)
      (delivers : Delivers s t i (c.joined (s.opening c s.tickets.length e callback)) s.tickets.length
        (s.evaluateOn c e))
      (tickets : t.tickets.length = s.tickets.length + 1)
  | refresh (i : ObserverId) (c : Card ν) (x : Subscription ν) (before : s.card? i = some c)
      (found : c.subscription? x.id = some x)
      (delivers : Delivers s t i (c.update x.id (.renewed (s.evaluateOn c x.expression))) x.ticket
        (s.evaluateOn c x.expression))
      (tickets : t.tickets.length = s.tickets.length)

theorem recordIf_silent (s : Session ν) (isLogged : Bool) (events : List (Event ν))
    (silent : ∀ ticket, deliveries events ticket = []) :
    ∃ log, s.recordIf isLogged events = { s with log := log } ∧
      ∀ ticket, deliveries log ticket = deliveries s.log ticket := by
  unfold recordIf
  split
  · refine ⟨_, rfl, fun ticket => ?_⟩
    rw [deliveries_append, silent, List.append_nil]
  · exact ⟨s.log, rfl, fun _ => rfl⟩

theorem recordWarnings_silent (s : Session ν) (c : Card ν) (evaluation : Evaluation) :
    ∃ log, s.recordWarnings c evaluation = { s with log := log } ∧
      ∀ ticket, deliveries log ticket = deliveries s.log ticket :=
  s.recordIf_silent c.isLogged _ (deliveries_warned evaluation.warnings)

theorem deliver_eq (s : Session ν) (c : Card ν) (ticket : Nat) (callback : Callback ν)
    (evaluation : Evaluation) :
    ∃ log tickets, (s.deliver c ticket callback evaluation).1 = { s with log := log, tickets := tickets } ∧
      tickets.length = s.tickets.length ∧
      ∀ other, deliveries log other =
        deliveries s.log other ++ if other = ticket then evaluation.result.toOption.toList else [] := by
  unfold deliver
  cases evaluation.result with
  | error e =>
      obtain ⟨log, recorded, same⟩ := s.recordIf_silent c.isLogged [.failed e] fun _ => rfl
      refine ⟨log, s.tickets, recorded, rfl, fun other => ?_⟩
      rw [same]
      split <;> exact (List.append_nil _).symm
  | ok v =>
      refine ⟨_, _, rfl, List.length_modify _ _ _, fun other => ?_⟩
      rw [deliveries_append]
      by_cases same : other = ticket
      · subst other
        simp [deliveries, Event.value?, Except.toOption]
      · have apart : ¬ ticket = other := fun h => same h.symm
        simp [deliveries, Event.value?, same, apart]

theorem Calm.of_same_observers {s t : Session ν} (now : t.now = s.now) (stores : t.stores = s.stores)
    (observers : t.observers = s.observers) (tickets : s.tickets.length ≤ t.tickets.length)
    (log : ∀ ticket, deliveries t.log ticket = deliveries s.log ticket) : Calm s t := by
  have cards : ∀ i, t.card? i = s.card? i := fun i => by
    unfold card?
    rw [observers]
  have held : ∀ i, t.isHeld i = s.isHeld i := fun i => by
    unfold isHeld
    rw [observers]
  refine ⟨now, fun wired => wired.of_same_cards stores cards, ?_, ?_, tickets, log⟩
  · rw [stores]
    exact .refl _
  · intro i d found
    rw [cards] at found
    exact .inr ⟨d, found, fun h => (held i).symm.trans h, .refl d, rfl, .refl _⟩

theorem Calm.refl (s : Session ν) : Calm s s :=
  .of_same_observers rfl rfl rfl (Nat.le_refl _) fun _ => rfl

theorem Calm.push (s : Session ν) (works : List (Work ν)) : Calm s (s.push works) :=
  .of_same_observers rfl rfl rfl (Nat.le_refl _) fun _ => rfl

theorem Calm.record (s : Session ν) (event : Event ν) (silent : ∀ ticket, event.value? ticket = none) :
    Calm s (s.record event) := by
  refine .of_same_observers rfl rfl rfl (Nat.le_refl _) fun ticket => ?_
  show deliveries (s.log ++ [event]) ticket = deliveries s.log ticket
  rw [deliveries_append]
  simp [deliveries, silent ticket]

theorem Calm.remove (s : Session ν) (i : ObserverId) (id : Nat) :
    Calm s (s.modifyCard i (·.remove id)) := by
  refine ⟨rfl, fun wired => wired.modifyCard i _ fun _ => rfl, .refl _, ?_, Nat.le_refl _, fun _ => rfl⟩
  intro j d found
  rw [card?_modifyCard] at found
  have held : (s.modifyCard i (·.remove id)).isHeld j = true → s.isHeld j = true := fun h =>
    (s.isHeld_modifyCard i j _).symm.trans h
  split at found
  · obtain ⟨c, before, rfl⟩ := Option.map_eq_some_iff.mp found
    exact .inr ⟨c, before, held, ⟨rfl, rfl, rfl⟩, rfl, List.filter_sublist⟩
  · exact .inr ⟨d, found, held, .refl d, rfl, .refl _⟩

theorem Calm.drop (s : Session ν) (i : ObserverId) : Calm s (s.dropObserver i) := by
  refine ⟨rfl, fun wired => wired.of_same_cards rfl (s.card?_dropObserver i), .refl _, ?_, Nat.le_refl _,
    fun _ => rfl⟩
  intro j d found
  rw [card?_dropObserver] at found
  exact .inr ⟨d, found, s.isHeld_of_dropObserver i j, .refl d, rfl, .refl _⟩

theorem Calm.addStore (s : Session ν) (parent : Option ScopeId)
    (inside : s.Wired → ∀ p ∈ parent, p < s.stores.all.length) : Calm s (s.addStore parent).2 := by
  refine ⟨rfl, fun wired => wired.addStore parent (inside wired), s.stores.extends_create parent, ?_,
    Nat.le_refl _, fun _ => rfl⟩
  intro i d found
  exact .inr ⟨d, found, id, .refl d, rfl, .refl _⟩

theorem Calm.observe (s : Session ν) (store : ScopeId) (observer : ObserverId) :
    Calm s (s.observe store observer) := by
  refine ⟨rfl, fun wired => wired.observe store observer, s.stores.extends_observe store observer, ?_,
    Nat.le_refl _, fun _ => rfl⟩
  intro i d found
  exact .inr ⟨d, found, id, .refl d, rfl, .refl _⟩

theorem Calm.trans {s t u : Session ν} (first : Calm s t) (second : Calm t u) : Calm s u where
  now_eq := second.now_eq.trans first.now_eq
  wired wired := second.wired (first.wired wired)
  wider := first.wider.trans second.wider
  tickets_le := Nat.le_trans first.tickets_le second.tickets_le
  deliveries_eq ticket := (second.deliveries_eq ticket).trans (first.deliveries_eq ticket)
  cards := by
    intro i e found
    rcases second.cards i e found with empty | ⟨d, between, held, alike, numbers, fewer⟩
    · exact .inl empty
    · rcases first.cards i d between with empty | ⟨c, before, heldBefore, alikeBefore, numbersBefore, more⟩
      · rw [empty] at fewer
        exact .inl (List.sublist_nil.mp fewer)
      · refine .inr ⟨c, before, heldBefore ∘ held, ?_, numbers.trans numbersBefore, fewer.trans more⟩
        exact ⟨alike.store.trans alikeBefore.store, alike.functions.trans alikeBefore.functions,
          alike.config.trans alikeBefore.config⟩

theorem Calm.addObserver (s : Session ν) (observer : Observer ν)
    (empty : ∀ c : Card ν, observer = .card c → c.subscriptions = [])
    (wired : s.Wired → (s.addObserver observer).2.Wired) : Calm s (s.addObserver observer).2 := by
  refine ⟨rfl, wired, .refl _, ?_, Nat.le_refl _, fun _ => rfl⟩
  intro i d found
  rw [card?_addObserver] at found
  split at found
  · cases observer with
    | card c =>
        cases found
        exact .inl (empty _ rfl)
    | watcher react => cases found
  · have inside := s.lt_length_of_card? i d found
    exact .inr ⟨d, found, fun h => (s.isHeld_addObserver_of_lt observer i inside).symm.trans h, .refl d,
      rfl, .refl _⟩

theorem Calm.addWatcher (s : Session ν) (react : StoreChange → Script ν) :
    Calm s (s.addObserver (.watcher react)).2 := by
  refine .addObserver s _ (fun c h => nomatch h) fun wired => wired.of_cards rfl fun i d found => ?_
  rw [card?_addObserver] at found
  split at found
  · cases found
  · exact ⟨d, found, rfl⟩

theorem Calm.addCard (s : Session ν) (c : Card ν) (empty : c.subscriptions = [])
    (inside : s.Wired → c.store < s.stores.all.length) : Calm s (s.addCard c).2 where
  now_eq := by rw [addCard_eq]; rfl
  wired wired := wired.addCard c (inside wired)
  wider := by
    rw [addCard_eq]
    exact s.stores.extends_observeAll _ _
  tickets_le := by
    rw [addCard_eq]
    exact Nat.le_refl _
  deliveries_eq ticket := by rw [addCard_eq]; rfl
  cards := by
    intro i d found
    rw [card?_addCard] at found
    split at found
    · cases found
      exact .inl empty
    · refine .inr ⟨d, found, fun h => ?_, .refl d, rfl, .refl _⟩
      rw [addCard_eq] at h
      exact (s.isHeld_addObserver_of_lt (.card c) i (s.lt_length_of_card? i d found)).symm.trans h

/-- What `subscribe` and `refresh` have in common: warnings, a change to the card, and the delivery. -/
theorem delivers_of_deliver (s : Session ν) (i : ObserverId) (c : Card ν) (f : Card ν → Card ν)
    (ticket : Nat) (callback : Callback ν) (evaluation : Evaluation) (before : s.card? i = some c) :
    let t := (((s.recordWarnings c evaluation).modifyCard i f).deliver c ticket callback evaluation).1
    Delivers s t i (f c) ticket evaluation ∧ t.tickets.length = s.tickets.length ∧
      t.agenda = s.agenda := by
  intro t
  obtain ⟨log, recorded, quiet⟩ := s.recordWarnings_silent c evaluation
  obtain ⟨log', tickets, delivered, length, values⟩ :=
    ((s.recordWarnings c evaluation).modifyCard i f).deliver_eq c ticket callback evaluation
  have result : t = _ := delivered
  rw [recorded] at result length values
  refine ⟨⟨?_, ?_, ?_, ?_, ?_⟩, ?_, ?_⟩
  · rw [result]; rfl
  · rw [result]; rfl
  · intro j
    rw [result]
    exact isHeld_modifyCard { s with log := log } i j f
  · intro j
    rw [result]
    refine (card?_modifyCard { s with log := log } i j f).trans ?_
    split
    next same =>
      subst same
      exact congrArg (Option.map f) before
    next => rfl
  · intro other
    rw [result]
    refine (values other).trans ?_
    rw [← quiet other]
    rfl
  · rw [result]
    exact length
  · rw [result]; rfl

theorem refresh_cases (s : Session ν) (i : ObserverId) (id : Nat) :
    (s.refresh i id = (s, []) ∧ ∀ c, s.card? i = some c → ∀ x ∈ c.subscriptions, x.id ≠ id) ∨
      ∃ c x, s.card? i = some c ∧ c.subscription? id = some x ∧ x.id = id ∧
        Delivers s (s.refresh i id).1 i (c.update x.id (.renewed (s.evaluateOn c x.expression))) x.ticket
          (s.evaluateOn c x.expression) ∧
        (s.refresh i id).1.tickets.length = s.tickets.length ∧ (s.refresh i id).1.agenda = s.agenda := by
  unfold refresh
  cases before : s.card? i with
  | none => exact .inl ⟨rfl, fun c found => nomatch found⟩
  | some c =>
      cases found : c.subscription? id with
      | none =>
          refine .inl ⟨by simp only [found], fun d same x member => ?_⟩
          cases same
          unfold Card.subscription? at found
          simpa using List.find?_eq_none.mp found x member
      | some x =>
          have same : x.id = id := by
            unfold Card.subscription? at found
            simpa using List.find?_some found
          subst same
          have delivered := s.delivers_of_deliver i c
            (·.update x.id (.renewed (s.evaluateOn c x.expression))) x.ticket x.callback
            (s.evaluateOn c x.expression) before
          refine .inr ⟨c, x, rfl, found, rfl, ?_⟩
          simp only [found]
          exact delivered

theorem refresh_effect (s : Session ν) (i : ObserverId) (id : Nat) :
    Effect s (s.refresh i id).1 (s.refresh i id).2 := by
  rcases s.refresh_cases i id with ⟨unchanged, -⟩ | ⟨c, x, before, found, rfl, delivers, tickets, -⟩
  · rw [unchanged]
    exact .calm (.refl s)
  · exact .refresh i c x before found delivers tickets

theorem agenda_refresh (s : Session ν) (i : ObserverId) (id : Nat) :
    (s.refresh i id).1.agenda = s.agenda := by
  rcases s.refresh_cases i id with ⟨unchanged, -⟩ | ⟨c, x, -, -, -, -, -, agenda⟩
  · rw [unchanged]
  · exact agenda

end Session

end CardExpr
