import CardExpr.Proofs.Session.Moves
import CardExpr.Proofs.Session.UpToDate
import CardExpr.Proofs.Store.History

/-!
Where cards are registered. A card that nobody registers by hand hears only of changes in stores that it may
read.
-/

namespace CardExpr

variable {ν : Type}

theorem Stores.mem_observers_observe_iff (s : Stores) (id o : ScopeId) (observer i : ObserverId) :
    i ∈ ((s.observe id observer).store o).observers ↔
      i ∈ (s.store o).observers ∨ i = observer ∧ o = id ∧ id < s.all.length := by
  unfold observe
  rw [store_modify]
  split
  next place =>
    obtain ⟨rfl, inside⟩ := place
    simp [inside]
  next elsewhere =>
    constructor
    · exact .inl
    · rintro (old | ⟨-, rfl, inside⟩)
      · exact old
      · exact absurd ⟨rfl, inside⟩ elsewhere

theorem Stores.ancestors_observeAll (s : Stores) (ids : List ScopeId) (observer : ObserverId) (o : ScopeId) :
    ((s.observeAll ids observer).store o).ancestors = (s.store o).ancestors := by
  induction ids generalizing s with
  | nil => rfl
  | cons id rest ih => exact (ih (s.observe id observer)).trans (s.ancestors_observe id o observer)

theorem Stores.mem_or_of_mem_observeAll {s : Stores} {ids : List ScopeId} {observer i : ObserverId}
    {o : ScopeId} (member : i ∈ ((s.observeAll ids observer).store o).observers) :
    i ∈ (s.store o).observers ∨ i = observer ∧ o ∈ ids := by
  induction ids generalizing s with
  | nil => exact .inl member
  | cons id rest ih =>
      rcases @ih (s.observe id observer) member with now | ⟨rfl, later⟩
      · refine ((s.mem_observers_observe_iff id o observer i).mp now).imp_right ?_
        rintro ⟨rfl, rfl, -⟩
        exact ⟨rfl, List.mem_cons_self⟩
      · exact .inr ⟨rfl, List.mem_cons_of_mem id later⟩

namespace Session

/-- The sessions in which cards are registered only where they are added. -/
inductive Arranged : Session ν → Prop where
  | start (now : Calendar.DateTime) : Arranged { now := now }
  | store {s : Session ν} (parent : Option ScopeId) (arranged : Arranged s)
      (inside : ∀ p ∈ parent, p < s.stores.all.length) : Arranged (s.addStore parent).2
  | card {s : Session ν} (store : ScopeId) (functions : Registry) (config : Config) (isLogged : Bool)
      (arranged : Arranged s) (inside : store < s.stores.all.length) :
      Arranged (s.addCard (.fresh store functions config isLogged)).2
  | watcher {s : Session ν} (react : StoreChange → Script ν) (arranged : Arranged s) :
      Arranged (s.addObserver (.watcher react)).2
  | observe {s : Session ν} (store : ScopeId) (observer : ObserverId) (arranged : Arranged s)
      (known : observer < s.observers.length) (watches : s.card? observer = none) :
      Arranged (s.observe store observer)
  | step {s : Session ν} (step : Step (Callback ν)) (arranged : Arranged s) :
      Arranged ((s.perform step).session.push (s.perform step).works)
  | work {s : Session ν} (arranged : Arranged s) : Arranged s.advance

theorem Arranged.reached {s : Session ν} (arranged : Arranged s) : Reached s := by
  induction arranged with
  | start now => exact .start now
  | store parent _ inside ih => exact ih.store parent inside
  | card store functions config isLogged _ inside ih => exact ih.card store functions config isLogged inside
  | watcher react _ ih => exact ih.watcher react
  | observe store observer _ _ _ ih => exact ih.observe store observer
  | step step _ ih => exact ih.step step
  | work _ ih => exact ih.work

theorem Arranged.settle {s : Session ν} (arranged : Arranged s) (fuel : Nat) : Arranged (s.settle fuel) := by
  induction fuel generalizing s with
  | zero => exact arranged
  | succ fuel ih =>
      unfold Session.settle
      split
      · exact arranged
      · exact ih arranged.work

theorem Arranged.take {s : Session ν} (arranged : Arranged s) (fuel : Nat) (step : Step (Callback ν)) :
    Arranged (s.take fuel step).2 :=
  (arranged.step step).settle fuel

/-- Who is registered is an observer, and a card is registered only with stores that it may read. -/
structure Tuned (s : Session ν) : Prop where
  known : ∀ o, ∀ i ∈ (s.stores.store o).observers, i < s.observers.length
  inside : ∀ i c, s.card? i = some c → ∀ o, i ∈ (s.stores.store o).observers → o ∈ s.stores.chain c.store

/-- The observers and their registrations are the same, and so are the stores that the cards lie over. -/
structure Rests (s t : Session ν) : Prop where
  length_eq : t.observers.length = s.observers.length
  observers_eq : ∀ o, (t.stores.store o).observers = (s.stores.store o).observers
  ancestors_eq : ∀ o, (t.stores.store o).ancestors = (s.stores.store o).ancestors
  cards : ∀ i d, t.card? i = some d → ∃ c, s.card? i = some c ∧ d.store = c.store

theorem Rests.of_same {s t : Session ν} (stores : t.stores = s.stores)
    (observers : t.observers = s.observers) :
    Rests s t where
  length_eq := congrArg List.length observers
  observers_eq o := by rw [stores]
  ancestors_eq o := by rw [stores]
  cards i d found := by
    unfold card? at found
    rw [observers] at found
    exact ⟨d, found, rfl⟩

theorem Rests.trans {s t u : Session ν} (first : Rests s t) (second : Rests t u) : Rests s u where
  length_eq := second.length_eq.trans first.length_eq
  observers_eq o := (second.observers_eq o).trans (first.observers_eq o)
  ancestors_eq o := (second.ancestors_eq o).trans (first.ancestors_eq o)
  cards i e found := by
    obtain ⟨d, between, same⟩ := second.cards i e found
    obtain ⟨c, before, store⟩ := first.cards i d between
    exact ⟨c, before, same.trans store⟩

theorem Rests.modifyCard (s : Session ν) (i : ObserverId) {f : Card ν → Card ν}
    (same : ∀ c, (f c).store = c.store) : Rests s (s.modifyCard i f) where
  length_eq := List.length_modify _ _ _
  observers_eq _ := rfl
  ancestors_eq _ := rfl
  cards j d found := by
    rw [card?_modifyCard] at found
    split at found
    · obtain ⟨c, before, rfl⟩ := Option.map_eq_some_iff.mp found
      exact ⟨c, before, same c⟩
    · exact ⟨d, found, rfl⟩

/-- What an evaluation leaves behind: warnings, a card over the same store, and a delivery. -/
theorem Rests.evaluated (s : Session ν) (i : ObserverId) (c : Card ν) {f : Card ν → Card ν}
    (same : ∀ c, (f c).store = c.store) (ticket : Nat) (callback : Callback ν) (evaluation : Evaluation) :
    Rests s (((s.recordWarnings c evaluation).modifyCard i f).deliver c ticket callback evaluation).1 := by
  obtain ⟨log, recorded, -⟩ := s.recordWarnings_silent c evaluation
  obtain ⟨log', tickets, delivered, -⟩ :=
    ((s.recordWarnings c evaluation).modifyCard i f).deliver_eq c ticket callback evaluation
  rw [delivered, recorded]
  have warned : Rests s { s with log := log } := .of_same rfl rfl
  exact (warned.trans (.modifyCard _ i same)).trans (.of_same rfl rfl)

theorem Rests.afterMutation (s : Session ν) (result : Except VariableError Mutation)
    (mutates : ∀ m, result = .ok m → s.stores.Mutates m) : Rests s (s.afterMutation result).session := by
  cases result with
  | error e => exact .of_same rfl rfl
  | ok m =>
      have accounts := (mutates m rfl).accounts
      exact ⟨rfl, accounts.observers_eq, accounts.ancestors_eq, fun i d found => ⟨d, found, rfl⟩⟩

theorem Rests.refresh (s : Session ν) (i : ObserverId) (id : Nat) : Rests s (s.refresh i id).1 := by
  unfold Session.refresh
  cases s.card? i with
  | none => exact .of_same rfl rfl
  | some c =>
      cases found : c.subscription? id with
      | none =>
          simp only [found]
          exact .of_same rfl rfl
      | some x =>
          simp only [found]
          refine .evaluated s i c ?_ x.ticket x.callback _
          exact fun _ => rfl

theorem Rests.subscribe (s : Session ν) (i : ObserverId) (c : Card ν) (ticket : Nat) (e : Expression)
    (callback : Callback ν) : Rests s (s.subscribe i c ticket e callback).session := by
  refine .evaluated s i c ?_ ticket callback _
  exact fun _ => rfl

theorem Tuned.rests {s t : Session ν} (tuned : s.Tuned) (rests : Rests s t) : t.Tuned where
  known o i member := by
    rw [rests.observers_eq] at member
    rw [rests.length_eq]
    exact tuned.known o i member
  inside i d found o member := by
    rw [rests.observers_eq] at member
    obtain ⟨c, before, same⟩ := rests.cards i d found
    unfold Stores.chain
    rw [rests.ancestors_eq, same]
    exact tuned.inside i c before o member

theorem Tuned.addStore {s : Session ν} (tuned : s.Tuned) (wired : s.Wired) (parent : Option ScopeId) :
    (s.addStore parent).2.Tuned := by
  have older : ∀ o i, i ∈ ((s.stores.create parent).2.store o).observers →
    i ∈ (s.stores.store o).observers := by
    intro o i member
    rw [Stores.store_create] at member
    split at member
    · cases member
    · exact member
  refine ⟨fun o i member => tuned.known o i (older o i member), fun i c found o member => ?_⟩
  have wider := (s.stores.extends_create parent).toGrows
  show o ∈ (s.stores.create parent).2.chain c.store
  rw [wider.chain_eq c.store (wired.placed i c found)]
  exact tuned.inside i c found o (older o i member)

theorem Tuned.addCard {s : Session ν} (tuned : s.Tuned) (c : Card ν) : (s.addCard c).2.Tuned := by
  have chain_eq (id : ScopeId) : (s.addCard c).2.stores.chain id = s.stores.chain id := by
    rw [addCard_eq]
    exact congrArg (id :: ·) (s.stores.ancestors_observeAll _ _ id)
  have length : (s.addCard c).2.observers.length = s.observers.length + 1 := by
    rw [addCard_eq]
    exact List.length_append
  have origin {o : ScopeId} {i : ObserverId} (member : i ∈ ((s.addCard c).2.stores.store o).observers) :
      i ∈ (s.stores.store o).observers ∨ i = s.observers.length ∧ o ∈ s.stores.chain c.store := by
    rw [addCard_eq] at member
    exact Stores.mem_or_of_mem_observeAll member
  constructor
  · intro o i member
    rw [length]
    rcases origin member with old | ⟨rfl, -⟩
    · exact Nat.lt_succ_of_lt (tuned.known o i old)
    · exact Nat.lt_succ_self _
  · intro i d found o member
    rw [chain_eq]
    rw [card?_addCard] at found
    rcases origin member with old | ⟨rfl, inside⟩
    · rw [if_neg (Nat.ne_of_lt (tuned.known o i old))] at found
      exact tuned.inside i d found o old
    · rw [if_pos rfl] at found
      cases found
      exact inside

theorem Tuned.addWatcher {s : Session ν} (tuned : s.Tuned) (react : StoreChange → Script ν) :
    (s.addObserver (.watcher react)).2.Tuned where
  known o i member := Nat.lt_of_lt_of_le (tuned.known o i member) (by simp [addObserver])
  inside i d found o member := by
    rw [card?_addObserver, if_neg (Nat.ne_of_lt (tuned.known o i member))] at found
    exact tuned.inside i d found o member

theorem Tuned.observe {s : Session ν} (tuned : s.Tuned) (store : ScopeId) {observer : ObserverId}
    (known : observer < s.observers.length) (watches : s.card? observer = none) :
    (s.observe store observer).Tuned := by
  constructor
  · intro o i member
    rcases (s.stores.mem_observers_observe_iff store o observer i).mp member with old | ⟨rfl, -⟩
    · exact tuned.known o i old
    · exact known
  · intro i d found o member
    have chain_eq : (s.observe store observer).stores.chain d.store = s.stores.chain d.store :=
      congrArg (d.store :: ·) (s.stores.ancestors_observe store d.store observer)
    rw [chain_eq]
    rcases (s.stores.mem_observers_observe_iff store o observer i).mp member with old | ⟨rfl, -⟩
    · exact tuned.inside i d found o old
    · cases watches.symm.trans found

theorem Tuned.onCard {s : Session ν} (tuned : s.Tuned) (i : ObserverId) (f : Card ν → Performed ν)
    (each : ∀ c, s.card? i = some c → (f c).session.Tuned) : (s.onCard i f).session.Tuned := by
  unfold Session.onCard
  cases held : s.heldCard? i with
  | none => exact tuned
  | some c => exact each c ((s.heldCard?_eq_some i c).mp held).2

/-- Only a nested card is registered anew, as every added card is. -/
theorem Tuned.perform {s : Session ν} (tuned : s.Tuned) (wired : s.Wired) (step : Step (Callback ν)) :
    (s.perform step).session.Tuned := by
  have ticketed : Rests s s.addTicket := .of_same rfl rfl
  cases step with
  | declareAll id vs => exact tuned.rests (.afterMutation s _ fun m done => .declared id vs done)
  | batchSet id updates => exact tuned.rests (.afterMutation s _ fun m done => .written id updates done)
  | evaluate card source =>
      refine tuned.onCard card _ fun c _ => ?_
      cases Expression.parse source c.config with
      | error e => exact tuned
      | ok expression =>
          obtain ⟨log, recorded, -⟩ := s.recordWarnings_silent c (s.evaluateOn c expression)
          simp only [recorded]
          exact tuned.rests (.of_same rfl rfl)
  | subscribe card source callback =>
      refine tuned.onCard card _ fun c _ => ?_
      cases Expression.parse source c.config with
      | error e => exact tuned.rests ticketed
      | ok expression => exact tuned.rests (ticketed.trans (.subscribe _ card c _ expression callback))
  | follow card expression callback =>
      exact tuned.onCard card _ fun c _ =>
        tuned.rests (ticketed.trans (.subscribe _ card c _ expression callback))
  | unsubscribe ticket =>
      simp only [Session.perform]
      cases s.tickets[ticket]?.bind (·.handle) with
      | none => exact tuned
      | some handle =>
          have cleared : Rests s { s with
              tickets := s.tickets.modify ticket fun t => { t with handle := none } } := .of_same rfl rfl
          exact tuned.rests (cleared.trans (.modifyCard _ handle.1 fun _ => rfl))
  | nest card => exact tuned.onCard card _ fun c _ => (tuned.addStore wired (some c.store)).addCard _
  | drop card =>
      refine tuned.onCard card _ fun _ _ =>
        tuned.rests ⟨List.length_modify _ _ _, fun _ => rfl, fun _ => rfl, ?_⟩
      intro i d found
      exact ⟨d, (s.card?_dropObserver card i).symm.trans found, rfl⟩

theorem Tuned.labor {s : Session ν} (tuned : s.Tuned) (wired : s.Wired) (w : Work ν) :
    (s.labor w).1.Tuned := by
  cases w with
  | run script =>
      cases script with
      | act step next => exact tuned.perform wired step
      | done | ask | note => exact tuned.rests (.of_same rfl rfl)
  | announce change listeners =>
      cases listeners with
      | nil => exact tuned
      | cons id rest =>
          obtain ⟨log, told, -⟩ := s.announce_silent change id
          rw [labor_announce, told]
          exact tuned.rests (.of_same rfl rfl)
  | refresh card ids =>
      cases ids with
      | nil => exact tuned
      | cons id rest => exact tuned.rests (.refresh s card id)
  | handOver => exact tuned.rests (.of_same rfl rfl)

theorem Arranged.tuned {s : Session ν} (arranged : Arranged s) : s.Tuned := by
  induction arranged with
  | start now => exact ⟨fun _ _ member => (nomatch member), fun _ _ found => nomatch found⟩
  | store parent arranged _ ih => exact ih.addStore arranged.reached.scheduled.wired parent
  | card store functions config isLogged _ _ ih => exact ih.addCard _
  | watcher react _ ih => exact ih.addWatcher react
  | observe store observer _ known watches ih => exact ih.observe store known watches
  | @step s step arranged ih =>
      exact (ih.perform arranged.reached.scheduled.wired step).rests (.of_same rfl rfl)
  | @work s arranged ih =>
      have wired := arranged.reached.scheduled.wired
      cases next : s.agenda with
      | nil =>
          rw [advance_of_idle next]
          exact ih
      | cons w rest =>
          rw [advance_eq next]
          have idle : ({ s with agenda := rest } : Session ν).Tuned := ih.rests (.of_same rfl rfl)
          exact (idle.labor (wired.of_same_cards rfl fun _ => rfl) w).rests (.of_same rfl rfl)

end Session

end CardExpr
