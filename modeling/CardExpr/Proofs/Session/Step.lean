import CardExpr.Proofs.Session.Effect

/-!
All that a step does at once: its effect, the work that it leaves, and what it takes away from nobody.
-/

namespace CardExpr

variable {ν κ : Type}

def Step.writes : Step κ → Bool
  | .declareAll _ _ => true
  | .batchSet _ _ => true
  | _ => false

def Step.Bears (callback : κ) : Step κ → Prop
  | .subscribe _ _ own => own = callback
  | .follow _ _ own => own = callback
  | _ => False

namespace Session

def handle? (s : Session ν) (ticket : Nat) : Option (ObserverId × Nat) := s.tickets[ticket]?.bind (·.handle)

/-- Cards stay and take no number back. -/
def Lasts (s t : Session ν) : Prop :=
  ∀ i c, s.card? i = some c → ∃ d, t.card? i = some d ∧ c.nextId ≤ d.nextId

theorem Lasts.refl (s : Session ν) : Lasts s s := fun _ c before => ⟨c, before, Nat.le_refl _⟩

theorem Lasts.trans {s t u : Session ν} (first : Lasts s t) (second : Lasts t u) : Lasts s u := by
  intro i c before
  obtain ⟨d, between, le⟩ := first i c before
  obtain ⟨e, after, further⟩ := second i d between
  exact ⟨e, after, Nat.le_trans le further⟩

theorem Lasts.of_same_observers {s t : Session ν} (observers : t.observers = s.observers) : Lasts s t := by
  intro i c before
  refine ⟨c, ?_, Nat.le_refl _⟩
  unfold card?
  rw [observers]
  exact before

theorem Lasts.of_delivers {s t : Session ν} {i : ObserverId} {c d : Card ν} {ticket : Nat}
    {evaluation : Evaluation} (delivers : Delivers s t i d ticket evaluation) (before : s.card? i = some c)
    (le : c.nextId ≤ d.nextId) : Lasts s t := by
  intro j e found
  rw [delivers.card?_eq]
  split
  next same =>
    subst same
    cases before.symm.trans found
    exact ⟨d, rfl, le⟩
  next => exact ⟨e, found, Nat.le_refl _⟩

/-- Cards stay and take no number back, and no ticket is taken back or gets another handle. -/
structure Keeps (s t : Session ν) : Prop where
  lasts : Lasts s t
  handle : ∀ ticket h, t.handle? ticket = some h → s.handle? ticket = some h
  tickets_le : s.tickets.length ≤ t.tickets.length

theorem Keeps.of_same_observers {s t : Session ν} (observers : t.observers = s.observers)
    (handle : ∀ ticket h, t.handle? ticket = some h → s.handle? ticket = some h)
    (tickets : s.tickets.length ≤ t.tickets.length) : Keeps s t :=
  ⟨.of_same_observers observers, handle, tickets⟩

theorem Keeps.refl (s : Session ν) : Keeps s s := .of_same_observers rfl (fun _ _ => id) (Nat.le_refl _)

theorem Keeps.trans {s t u : Session ν} (first : Keeps s t) (second : Keeps t u) : Keeps s u where
  lasts := first.lasts.trans second.lasts
  handle ticket h after := first.handle ticket h (second.handle ticket h after)
  tickets_le := Nat.le_trans first.tickets_le second.tickets_le

theorem Keeps.modifyCard (s : Session ν) (i : ObserverId) (f : Card ν → Card ν)
    (le : ∀ c, s.card? i = some c → c.nextId ≤ (f c).nextId) : Keeps s (s.modifyCard i f) := by
  refine ⟨fun j c before => ?_, fun _ _ => id, Nat.le_refl _⟩
  rw [card?_modifyCard, before]
  split
  next same =>
    subst same
    exact ⟨f c, rfl, le c before⟩
  next => exact ⟨c, rfl, Nat.le_refl _⟩

theorem Keeps.addTicket (s : Session ν) : Keeps s s.addTicket := by
  refine .of_same_observers rfl (fun ticket h after => ?_) (by simp [Session.addTicket])
  unfold handle? Session.addTicket at after
  rw [List.getElem?_append] at after
  split at after
  · exact after
  · rw [List.getElem?_singleton] at after
    split at after
    · cases after
    · cases after

theorem Keeps.clear (s : Session ν) (ticket : Nat) :
    Keeps s { s with tickets := s.tickets.modify ticket fun t => { t with handle := none } } := by
  refine .of_same_observers rfl (fun other h after => ?_) (Nat.le_of_eq (List.length_modify _ _ _).symm)
  unfold handle? at after ⊢
  rw [List.getElem?_modify] at after
  cases found : s.tickets[other]? with
  | none => simp [found] at after
  | some t =>
      by_cases same : ticket = other
      · simp [found, same] at after
      · simpa [found, same] using after

theorem Keeps.addCard (s : Session ν) (c : Card ν) : Keeps s (s.addCard c).2 := by
  refine ⟨fun i d before => ⟨d, ?_, Nat.le_refl _⟩, fun ticket h after => ?_, ?_⟩
  · rw [card?_addCard, if_neg (Nat.ne_of_lt (s.lt_length_of_card? i d before))]
    exact before
  · rw [addCard_eq] at after
    exact after
  · rw [addCard_eq]
    exact Nat.le_refl _

theorem Keeps.deliver (s : Session ν) (c : Card ν) (ticket : Nat) (callback : Callback ν)
    (evaluation : Evaluation) : Keeps s (s.deliver c ticket callback evaluation).1 := by
  unfold Session.deliver
  cases evaluation.result with
  | error e =>
      obtain ⟨log, recorded, -⟩ := s.recordIf_silent c.isLogged [.failed e] fun _ => rfl
      simp only [recorded]
      exact .of_same_observers rfl (fun _ _ => id) (Nat.le_refl _)
  | ok v =>
      refine .of_same_observers rfl (fun other h after => ?_) (Nat.le_of_eq (List.length_modify _ _ _).symm)
      unfold handle? at after ⊢
      simp only [record, List.getElem?_modify] at after
      cases found : s.tickets[other]? with
      | none => simp [found] at after
      | some t =>
          by_cases same : ticket = other
          · simpa [found, same] using after
          · simpa [found, same] using after

/-- The callback is started on the value of the evaluation, if that has one. -/
def starts (callback : Callback ν) (evaluation : Evaluation) : List (Work ν) :=
  (evaluation.result.toOption.map fun v => .run (callback v)).toList

theorem exists_of_mem_starts {callback : Callback ν} {evaluation : Evaluation} {w : Work ν}
    (member : w ∈ starts callback evaluation) : ∃ v, w = .run (callback v) := by
  unfold starts at member
  rw [Option.mem_toList, Option.map_eq_some_iff] at member
  obtain ⟨v, -, same⟩ := member
  exact ⟨v, same.symm⟩

theorem works_deliver (s : Session ν) (c : Card ν) (ticket : Nat) (callback : Callback ν)
    (evaluation : Evaluation) :
    (s.deliver c ticket callback evaluation).2 = starts callback evaluation := by
  unfold deliver starts
  cases evaluation.result <;> rfl

/-- What a step can do at once. -/
inductive Deed (s : Session ν) (step : Step (Callback ν)) (p : Performed ν) : Prop where
  | calm (calm : Calm s p.session) (idle : p.works = [])
  | write (m : Mutation) (writes : step.writes = true) (mutates : s.stores.Mutates m)
      (stored : p.session = { s with stores := m.stores })
      (announced : p.works = [.announce m.change (m.listeners s.isAlive)])
  | subscribe (i : ObserverId) (c : Card ν) (e : Expression) (callback : Callback ν)
      (bears : step.Bears callback) (before : s.card? i = some c)
      (delivers : Delivers s p.session i (c.joined (s.opening c s.tickets.length e callback))
        s.tickets.length (s.evaluateOn c e))
      (tickets : p.session.tickets.length = s.tickets.length + 1)
      (started : p.works = starts callback (s.evaluateOn c e) ++ [.handOver s.tickets.length i c.nextId])

/-- All that a step does at once; to the work that was pending it does nothing. -/
structure Does (s : Session ν) (step : Step (Callback ν)) (p : Performed ν) : Prop where
  deed : Deed s step p
  keeps : Keeps s p.session
  agenda_eq : p.session.agenda = s.agenda

theorem Does.none (s : Session ν) (step : Step (Callback ν)) (outcome : Outcome) :
    Does s step { outcome := outcome, session := s } :=
  ⟨.calm (.refl s) rfl, .refl s, rfl⟩

theorem afterMutation_does (s : Session ν) (step : Step (Callback ν)) (writes : step.writes = true)
    (result : Except VariableError Mutation) (mutates : ∀ m, result = .ok m → s.stores.Mutates m) :
    Does s step (s.afterMutation result) := by
  cases result with
  | error e => exact .none s _ _
  | ok m =>
      refine ⟨.write m writes (mutates m rfl) rfl rfl, ?_, rfl⟩
      exact .of_same_observers rfl (fun _ _ => id) (Nat.le_refl _)

theorem onCard_does (s : Session ν) (step : Step (Callback ν)) (i : ObserverId) (f : Card ν → Performed ν)
    (does : ∀ c, s.card? i = some c → Does s step (f c)) : Does s step (s.onCard i f) := by
  unfold onCard
  cases held : s.heldCard? i with
  | none => exact .none s _ _
  | some c => exact does c ((s.heldCard?_eq_some i c).mp held).2

theorem length_addTicket (s : Session ν) : s.addTicket.tickets.length = s.tickets.length + 1 := by
  simp [addTicket]

theorem subscribe_does (s : Session ν) (step : Step (Callback ν)) (i : ObserverId) (c : Card ν)
    (e : Expression) (callback : Callback ν) (bears : step.Bears callback) (before : s.card? i = some c) :
    Does s step (s.addTicket.subscribe i c s.tickets.length e callback) := by
  let join : Card ν → Card ν := fun d =>
    { d with
      nextId := c.nextId + 1
      subscriptions := d.subscriptions ++ [s.opening c s.tickets.length e callback] }
  obtain ⟨delivers, tickets, agenda⟩ :=
    s.addTicket.delivers_of_deliver i c join s.tickets.length callback (s.evaluateOn c e) before
  refine ⟨.subscribe i c e callback bears before ?_ ?_ ?_, ?_, agenda⟩
  · exact ⟨delivers.now_eq, delivers.stores_eq, delivers.isHeld_eq, delivers.card?_eq,
      delivers.deliveries_eq⟩
  · rw [← s.length_addTicket]
    exact tickets
  · exact congrArg (· ++ _) (works_deliver _ c _ callback _)
  · obtain ⟨log, recorded, -⟩ := s.addTicket.recordWarnings_silent c (s.evaluateOn c e)
    have warned : Keeps s (s.addTicket.recordWarnings c (s.evaluateOn c e)) := by
      rw [recorded]
      exact (Keeps.addTicket s).trans (.of_same_observers rfl (fun _ _ => id) (Nat.le_refl _))
    refine warned.trans ((Keeps.modifyCard _ i join fun d found => ?_).trans (.deliver _ c _ callback _))
    rw [recorded] at found
    cases before.symm.trans found
    exact Nat.le_succ _

theorem addTicket_calm (s : Session ν) : Calm s s.addTicket := by
  refine .of_same_observers rfl rfl rfl ?_ fun _ => rfl
  rw [length_addTicket]
  exact Nat.le_succ _

theorem unsubscribe_calm (s : Session ν) (ticket : Nat) (i : ObserverId) (id : Nat) :
    let tickets := s.tickets.modify ticket fun t => { t with handle := none }
    Calm s (({ s with tickets := tickets } : Session ν).modifyCard i (·.remove id)) := by
  intro tickets
  have cleared : Calm s { s with tickets := tickets } :=
    .of_same_observers rfl rfl rfl (Nat.le_of_eq (List.length_modify _ _ _).symm) fun _ => rfl
  exact cleared.trans (.remove _ i id)

theorem nest_calm (s : Session ν) (i : ObserverId) (c : Card ν) (before : s.card? i = some c) :
    Calm s ((s.addStore (some c.store)).2.addCard
      { c with store := (s.addStore (some c.store)).1, subscriptions := [], nextId := 1 }).2 := by
  have nested : Calm s (s.addStore (some c.store)).2 := by
    refine .addStore s _ fun wired p parent => ?_
    cases parent
    exact wired.placed i c before
  refine nested.trans (.addCard _ _ rfl fun _ => ?_)
  show s.stores.all.length < (s.stores.create (some c.store)).2.all.length
  rw [Stores.length_create]
  exact Nat.lt_succ_self _

theorem perform_does (s : Session ν) (step : Step (Callback ν)) :
    Does s step (s.perform step) := by
  cases step with
  | declareAll store vs => exact s.afterMutation_does _ rfl _ fun m done => .declared store vs done
  | batchSet store updates => exact s.afterMutation_does _ rfl _ fun m done => .written store updates done
  | evaluate card source =>
      refine s.onCard_does _ card _ fun c _ => ?_
      cases Expression.parse source c.config with
      | error e => exact .none s _ _
      | ok expression =>
          obtain ⟨log, recorded, quiet⟩ := s.recordWarnings_silent c (s.evaluateOn c expression)
          simp only [recorded]
          exact ⟨.calm (.of_same_observers rfl rfl rfl (Nat.le_refl _) quiet) rfl,
            .of_same_observers rfl (fun _ _ => id) (Nat.le_refl _), rfl⟩
  | subscribe card source callback =>
      refine s.onCard_does _ card _ fun c before => ?_
      cases Expression.parse source c.config with
      | error e => exact ⟨.calm s.addTicket_calm rfl, .addTicket s, rfl⟩
      | ok expression => exact s.subscribe_does _ card c expression callback rfl before
  | follow card expression callback =>
      exact s.onCard_does _ card _ fun c before => s.subscribe_does _ card c expression callback rfl before
  | unsubscribe ticket =>
      simp only [perform]
      cases s.tickets[ticket]?.bind (·.handle) with
      | none => exact .none s _ _
      | some handle =>
          exact ⟨.calm (s.unsubscribe_calm ticket handle.1 handle.2) rfl,
            (Keeps.clear s ticket).trans (.modifyCard _ handle.1 _ fun c _ => Nat.le_refl _), rfl⟩
  | nest card =>
      refine s.onCard_does _ card _ fun c before => ?_
      have stored : Keeps s (s.addStore (some c.store)).2 :=
        .of_same_observers rfl (fun _ _ => id) (Nat.le_refl _)
      refine ⟨.calm (s.nest_calm card c before) rfl, stored.trans (.addCard _ _), ?_⟩
      simp only [addCard_eq]
      rfl
  | drop card =>
      refine s.onCard_does _ card _ fun _ _ => ⟨.calm (.drop s card) rfl, ?_, rfl⟩
      refine ⟨fun i c before => ⟨c, ?_, Nat.le_refl _⟩, fun _ _ => id, Nat.le_refl _⟩
      rw [card?_dropObserver]
      exact before

/-- A step that does not write leaves callbacks that it bears, and handles to hand over. -/
theorem works_perform {s : Session ν} {step : Step (Callback ν)} (harmless : step.writes = false)
    {w : Work ν} (member : w ∈ (s.perform step).works) :
    (∃ callback v, step.Bears callback ∧ w = .run (callback v)) ∨ ∃ k i id, w = .handOver k i id := by
  cases (s.perform_does step).deed with
  | calm _ idle =>
      rw [idle] at member
      cases member
  | write m writes =>
      rw [harmless] at writes
      cases writes
  | subscribe i c e callback bears _ _ _ started =>
      rw [started] at member
      rcases List.mem_append.mp member with begun | last
      · obtain ⟨v, same⟩ := exists_of_mem_starts begun
        exact .inl ⟨callback, v, bears, same⟩
      · exact .inr ⟨_, _, _, List.mem_singleton.mp last⟩

theorem works_refresh {s : Session ν} {i : ObserverId} {c : Card ν} {id : Nat} {x : Subscription ν}
    (before : s.card? i = some c) (found : c.subscription? id = some x) :
    (s.refresh i id).2 = starts x.callback (s.evaluateOn c x.expression) := by
  unfold refresh
  rw [before]
  simp only [found]
  exact works_deliver _ c x.ticket x.callback _

theorem exists_of_mem_refresh {s : Session ν} {i : ObserverId} {id : Nat} {w : Work ν}
    (member : w ∈ (s.refresh i id).2) : ∃ script, w = .run script := by
  rcases s.refresh_cases i id with ⟨unchanged, -⟩ | ⟨c, x, before, found, -⟩
  · rw [unchanged] at member
    cases member
  · rw [works_refresh before found] at member
    obtain ⟨v, same⟩ := exists_of_mem_starts member
    exact ⟨_, same⟩

theorem refresh_keeps (s : Session ν) (i : ObserverId) (id : Nat) : Keeps s (s.refresh i id).1 := by
  unfold refresh
  cases s.card? i with
  | none => exact .refl s
  | some c =>
      cases found : c.subscription? id with
      | none =>
          simp only [found]
          exact .refl s
      | some x =>
          simp only [found]
          obtain ⟨log, recorded, -⟩ := s.recordWarnings_silent c (s.evaluateOn c x.expression)
          have warned : Keeps s (s.recordWarnings c (s.evaluateOn c x.expression)) := by
            rw [recorded]
            exact .of_same_observers rfl (fun _ _ same => same) (Nat.le_refl _)
          have renewed := Keeps.modifyCard (s.recordWarnings c (s.evaluateOn c x.expression)) i
            (·.update id (.renewed (s.evaluateOn c x.expression))) fun _ _ => Nat.le_refl _
          exact warned.trans (renewed.trans (.deliver _ c x.ticket x.callback _))

/-- What a step does at once: its effect, and nothing to the work that was pending. -/
structure Acts (s : Session ν) (p : Performed ν) : Prop where
  effect : Effect s p.session p.works
  agenda_eq : p.session.agenda = s.agenda

theorem perform_acts (s : Session ν) (step : Step (Callback ν)) : Acts s (s.perform step) := by
  obtain ⟨deed, -, agenda⟩ := s.perform_does step
  refine ⟨?_, agenda⟩
  cases deed with
  | calm calm => exact .calm calm
  | write m _ mutates stored announced =>
      exact .mutate m mutates stored (announced ▸ List.mem_singleton.mpr rfl)
  | subscribe i c e callback _ before delivers tickets =>
      exact .subscribe i c e callback before delivers tickets

end Session

end CardExpr
