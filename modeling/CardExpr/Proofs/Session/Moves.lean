import Mathlib.Logic.Relation
import CardExpr.Proofs.Session.Numbering
import CardExpr.Proofs.Session.Step

/-!
The moves of a session. A piece of work acts on the session and puts more work in front of what is
pending; what happens to cards and subscriptions in a move does not depend on the agenda.
-/

namespace CardExpr

variable {ν : Type}

namespace Session

/-- What a piece of work does to the session without it, and the work that it puts in front. -/
def labor (s : Session ν) : Work ν → Session ν × List (Work ν)
  | .run .done => (s, [])
  | .run (.ask next) => (s, [.run (next s.view)])
  | .run (.note content next) => (s.record (.noted content), [.run next])
  | .run (.act step next) =>
    let p := s.perform step
    (p.session, p.works ++ [.run (next p.outcome)])
  | .announce _ [] => (s, [])
  | .announce change (id :: rest) =>
    let (t, works) := s.announce change id
    (t, works ++ [.announce change rest])
  | .refresh _ [] => (s, [])
  | .refresh card (id :: rest) =>
    let (t, works) := s.refresh card id
    (t, works ++ [.refresh card rest])
  | .handOver ticket card id =>
    ({ s with tickets := s.tickets.modify ticket fun t => { t with handle := some (card, id) } }, [])

theorem push_push (s : Session ν) (first second : List (Work ν)) :
    (s.push second).push first = s.push (first ++ second) := by
  unfold push
  rw [List.append_assoc]

theorem announce_push (s : Session ν) (works : List (Work ν)) (change : StoreChange) (id : ObserverId) :
    (s.push works).announce change id = ((s.announce change id).1.push works, (s.announce change id).2) := by
  have same : (s.push works).observers[id]? = s.observers[id]? := rfl
  unfold announce
  rw [same]
  cases s.observers[id]? with
  | none => rfl
  | some slot =>
      obtain ⟨observer, isHeld⟩ := slot
      cases observer <;> rfl

theorem deliver_push (s : Session ν) (works : List (Work ν)) (c : Card ν) (ticket : Nat)
    (callback : Callback ν) (evaluation : Evaluation) :
    (s.push works).deliver c ticket callback evaluation =
      ((s.deliver c ticket callback evaluation).1.push works,
        (s.deliver c ticket callback evaluation).2) := by
  unfold deliver recordIf
  cases evaluation.result with
  | ok v => rfl
  | error e => cases c.isLogged <;> rfl

theorem refresh_push (s : Session ν) (works : List (Work ν)) (card : ObserverId) (id : Nat) :
    (s.push works).refresh card id = ((s.refresh card id).1.push works, (s.refresh card id).2) := by
  have same : (s.push works).card? card = s.card? card := rfl
  unfold refresh
  rw [same]
  cases s.card? card with
  | none => rfl
  | some c =>
      cases found : c.subscription? id with
      | none => simp only [found]
      | some x =>
          have warned : (s.push works).recordWarnings c (s.evaluateOn c x.expression) =
              (s.recordWarnings c (s.evaluateOn c x.expression)).push works := by
            unfold recordWarnings recordIf
            cases c.isLogged <;> rfl
          simp only [found]
          refine Eq.trans ?_ (deliver_push _ works c x.ticket x.callback _)
          show (((s.push works).recordWarnings c (s.evaluateOn c x.expression)).modifyCard card _).deliver
            c _ _ _ = _
          rw [warned]
          rfl

theorem work_eq (s : Session ν) (w : Work ν) : s.work w = (s.labor w).1.push (s.labor w).2 := by
  cases w with
  | run script => cases script <;> rfl
  | announce change listeners =>
      cases listeners with
      | nil => rfl
      | cons id rest =>
          show ((s.push [.announce change rest]).announce change id).1.push
            ((s.push [.announce change rest]).announce change id).2 = _
          rw [announce_push]
          exact push_push _ _ _
  | refresh card ids =>
      cases ids with
      | nil => rfl
      | cons id rest =>
          show ((s.push [.refresh card rest]).refresh card id).1.push
            ((s.push [.refresh card rest]).refresh card id).2 = _
          rw [refresh_push]
          exact push_push _ _ _
  | handOver ticket card id => rfl

theorem advance_of_idle {s : Session ν} (idle : s.agenda = []) : s.advance = s := by
  unfold advance
  rw [idle]

theorem advance_eq {s : Session ν} {w : Work ν} {rest : List (Work ν)} (next : s.agenda = w :: rest) :
    s.advance =
      (({ s with agenda := rest } : Session ν).labor w).1.push
        (({ s with agenda := rest } : Session ν).labor w).2 := by
  unfold advance
  rw [next]
  exact work_eq _ w

theorem announce_cases (s : Session ν) (change : StoreChange) (id : ObserverId) :
    (∃ react isHeld, s.observers[id]? = some ⟨.watcher react, isHeld⟩ ∧
      s.announce change id = (s.record (.changed id change), [.run (react change)])) ∨
    (∃ c, s.card? id = some c ∧ s.announce change id = (s, [.refresh id (c.affected change)])) ∨
    s.card? id = none ∧ s.announce change id = (s, []) := by
  unfold announce card?
  cases s.observers[id]? with
  | none => exact .inr (.inr ⟨rfl, rfl⟩)
  | some slot =>
      obtain ⟨observer, isHeld⟩ := slot
      cases observer with
      | card c => exact .inr (.inl ⟨c, rfl, rfl⟩)
      | watcher react => exact .inl ⟨react, isHeld, rfl, rfl⟩

theorem announce_silent (s : Session ν) (change : StoreChange) (id : ObserverId) :
    ∃ log, (s.announce change id).1 = { s with log := log } ∧
      ∀ ticket, deliveries log ticket = deliveries s.log ticket := by
  rcases s.announce_cases change id with ⟨_, _, -, told⟩ | ⟨_, -, told⟩ | ⟨-, told⟩
  · rw [told]
    exact ⟨_, rfl, (Calm.record s (.changed id change) fun _ => rfl).deliveries_eq⟩
  · rw [told]
    exact ⟨s.log, rfl, fun _ => rfl⟩
  · rw [told]
    exact ⟨s.log, rfl, fun _ => rfl⟩

theorem labor_announce (s : Session ν) (change : StoreChange) (id : ObserverId) (rest : List ObserverId) :
    s.labor (.announce change (id :: rest)) =
      ((s.announce change id).1, (s.announce change id).2 ++ [.announce change rest]) := rfl

theorem labor_refresh (s : Session ν) (card : ObserverId) (id : Nat) (rest : List Nat) :
    s.labor (.refresh card (id :: rest)) =
      ((s.refresh card id).1, (s.refresh card id).2 ++ [.refresh card rest]) := rfl

theorem agenda_labor (s : Session ν) (w : Work ν) : (s.labor w).1.agenda = s.agenda := by
  cases w with
  | run script =>
      cases script with
      | act step next => exact (s.perform_does step).agenda_eq
      | done | ask | note => rfl
  | announce change listeners =>
      cases listeners with
      | nil => rfl
      | cons id rest =>
          obtain ⟨log, told, -⟩ := s.announce_silent change id
          rw [labor_announce, told]
  | refresh card ids =>
      cases ids with
      | nil => rfl
      | cons id rest => exact s.agenda_refresh card id
  | handOver => rfl

theorem agenda_advance {s : Session ν} {w : Work ν} {rest : List (Work ν)} (next : s.agenda = w :: rest) :
    s.advance.agenda = (({ s with agenda := rest } : Session ν).labor w).2 ++ rest := by
  rw [advance_eq next]
  unfold push
  rw [agenda_labor]

theorem Effect.mono {s t : Session ν} {works more : List (Work ν)} (effect : Effect s t works)
    (all : ∀ w ∈ works, w ∈ more) : Effect s t more := by
  cases effect with
  | calm calm => exact .calm calm
  | mutate m mutates stored announced => exact .mutate m mutates stored (all _ announced)
  | subscribe i c e callback before delivers tickets =>
      exact .subscribe i c e callback before delivers tickets
  | refresh i c x before found delivers tickets => exact .refresh i c x before found delivers tickets

theorem labor_effect (s : Session ν) (w : Work ν) : Effect s (s.labor w).1 (s.labor w).2 := by
  cases w with
  | run script =>
      cases script with
      | done => exact .calm (.refl s)
      | ask next => exact .calm (.refl s)
      | note content next => exact .calm (.record s _ fun _ => rfl)
      | act step next => exact (s.perform_acts step).effect.mono fun w => List.mem_append_left _
  | announce change listeners =>
      cases listeners with
      | nil => exact .calm (.refl s)
      | cons id rest =>
          obtain ⟨log, told, quiet⟩ := s.announce_silent change id
          rw [labor_announce, told]
          exact .calm (.of_same_observers rfl rfl rfl (Nat.le_refl _) quiet)
  | refresh card ids =>
      cases ids with
      | nil => exact .calm (.refl s)
      | cons id rest => exact (s.refresh_effect card id).mono fun w => List.mem_append_left _
  | handOver ticket card id =>
      refine .calm (.of_same_observers rfl rfl rfl ?_ fun _ => rfl)
      exact Nat.le_of_eq (List.length_modify _ _ _).symm

theorem labor_lasts (s : Session ν) (w : Work ν) : Lasts s (s.labor w).1 := by
  cases w with
  | run script =>
      cases script with
      | act step next => exact (s.perform_does step).keeps.lasts
      | done | ask | note => exact .of_same_observers rfl
  | announce change listeners =>
      cases listeners with
      | nil => exact .refl s
      | cons id rest =>
          obtain ⟨log, told, -⟩ := s.announce_silent change id
          rw [labor_announce, told]
          exact .of_same_observers rfl
  | refresh card ids =>
      cases ids with
      | nil => exact .refl s
      | cons id rest => exact (s.refresh_keeps card id).lasts
  | handOver => exact .of_same_observers rfl

/-- What can happen to cards and subscriptions, the agenda aside. -/
inductive Occurs (s t : Session ν) : Prop where
  | calm (calm : Calm s t)
  | written (m : Mutation) (mutates : s.stores.Mutates m)
      (stored : t = { s with stores := m.stores, agenda := t.agenda })
  | subscribe (i : ObserverId) (c : Card ν) (e : Expression) (callback : Callback ν)
      (before : s.card? i = some c)
      (delivers : Delivers s t i (c.joined (s.opening c s.tickets.length e callback)) s.tickets.length
        (s.evaluateOn c e))
      (tickets : t.tickets.length = s.tickets.length + 1)
  | refresh (i : ObserverId) (c : Card ν) (x : Subscription ν) (before : s.card? i = some c)
      (found : c.subscription? x.id = some x)
      (delivers : Delivers s t i (c.update x.id (.renewed (s.evaluateOn c x.expression))) x.ticket
        (s.evaluateOn c x.expression))
      (tickets : t.tickets.length = s.tickets.length)

theorem Calm.setAgenda (s : Session ν) (works : List (Work ν)) : Calm s { s with agenda := works } :=
  .of_same_observers rfl rfl rfl (Nat.le_refl _) fun _ => rfl

theorem Effect.occurs {s t : Session ν} {works : List (Work ν)} (before more : List (Work ν))
    (effect : Effect { s with agenda := before } t works) : Occurs s (t.push more) := by
  cases effect with
  | calm calm => exact .calm ((Calm.setAgenda s before).trans (calm.trans (.push t more)))
  | mutate m mutates stored _ =>
      subst stored
      exact .written m mutates rfl
  | subscribe i c e callback before delivers tickets =>
      exact .subscribe i c e callback before ⟨delivers.now_eq, delivers.stores_eq, delivers.isHeld_eq,
        delivers.card?_eq, delivers.deliveries_eq⟩ tickets
  | refresh i c x before found delivers tickets =>
      exact .refresh i c x before found ⟨delivers.now_eq, delivers.stores_eq, delivers.isHeld_eq,
        delivers.card?_eq, delivers.deliveries_eq⟩ tickets

theorem advance_occurs (s : Session ν) : Occurs s s.advance := by
  cases next : s.agenda with
  | nil =>
      rw [advance_of_idle next]
      exact .calm (.refl s)
  | cons w rest =>
      rw [advance_eq next]
      exact (labor_effect _ w).occurs rest _

theorem advance_lasts (s : Session ν) : Lasts s s.advance := by
  cases next : s.agenda with
  | nil =>
      rw [advance_of_idle next]
      exact .refl s
  | cons w rest =>
      rw [advance_eq next]
      exact labor_lasts { s with agenda := rest } w

/-- One move: more stores, cards and observers, a step from outside, or a piece of work. -/
inductive Moves (s : Session ν) : Session ν → Prop where
  | store (parent : Option ScopeId) (inside : ∀ p ∈ parent, p < s.stores.all.length) :
      Moves s (s.addStore parent).2
  | card (store : ScopeId) (functions : Registry) (config : Config) (isLogged : Bool)
      (inside : store < s.stores.all.length) :
      Moves s (s.addCard (.fresh store functions config isLogged)).2
  | watcher (react : StoreChange → Script ν) : Moves s (s.addObserver (.watcher react)).2
  | observe (store : ScopeId) (observer : ObserverId) : Moves s (s.observe store observer)
  | step (step : Step (Callback ν)) : Moves s ((s.perform step).session.push (s.perform step).works)
  | work : Moves s s.advance

abbrev Later : Session ν → Session ν → Prop := Relation.ReflTransGen Moves

theorem Reached.move {s t : Session ν} (reached : Reached s) (moves : Moves s t) : Reached t := by
  cases moves with
  | store parent inside => exact reached.store parent inside
  | card store functions config isLogged inside => exact reached.card store functions config isLogged inside
  | watcher react => exact reached.watcher react
  | observe store observer => exact reached.observe store observer
  | step step => exact reached.step step
  | work => exact reached.work

theorem Reached.later {s t : Session ν} (reached : Reached s) (later : Later s t) : Reached t := by
  induction later with
  | refl => exact reached
  | tail _ moves ih => exact ih.move moves

theorem later_settle (s : Session ν) (fuel : Nat) : Later s (s.settle fuel) := by
  induction fuel generalizing s with
  | zero => exact .refl
  | succ fuel ih =>
      unfold Session.settle
      split
      · exact .refl
      · exact .head .work (ih s.advance)

theorem later_take (s : Session ν) (fuel : Nat) (step : Step (Callback ν)) : Later s (s.take fuel step).2 :=
  .head (.step step) (later_settle _ fuel)

theorem Moves.occurs {s t : Session ν} (moves : Moves s t) : Occurs s t := by
  cases moves with
  | store parent inside => exact .calm (.addStore s parent fun _ => inside)
  | card store functions config isLogged inside => exact .calm (.addCard s _ rfl fun _ => inside)
  | watcher react => exact .calm (.addWatcher s react)
  | observe store observer => exact .calm (.observe s store observer)
  | step step => exact (s.perform_acts step).effect.occurs s.agenda _
  | work => exact s.advance_occurs

theorem Moves.lasts {s t : Session ν} (moves : Moves s t) : Lasts s t := by
  cases moves with
  | store parent inside => exact .of_same_observers rfl
  | card store functions config isLogged inside => exact (Keeps.addCard s _).lasts
  | watcher react =>
      intro i c before
      rw [card?_addObserver, if_neg (Nat.ne_of_lt (s.lt_length_of_card? i c before))]
      exact ⟨c, before, Nat.le_refl _⟩
  | observe store observer => exact .of_same_observers rfl
  | step step => exact (s.perform_does step).keeps.lasts
  | work => exact s.advance_lasts

/-- What every move preserves holds in every session that can come about. -/
theorem Reached.of_preserved {P : Session ν → Prop} (start : ∀ now, P { now := now })
    (preserved : ∀ s t, Reached s → P s → Moves s t → P t) {s : Session ν} (reached : Reached s) : P s := by
  induction reached with
  | start now => exact start now
  | store parent before inside ih => exact preserved _ _ before ih (.store parent inside)
  | card store functions config isLogged before inside ih =>
      exact preserved _ _ before ih (.card store functions config isLogged inside)
  | watcher react before ih => exact preserved _ _ before ih (.watcher react)
  | observe store observer before ih => exact preserved _ _ before ih (.observe store observer)
  | step step before ih => exact preserved _ _ before ih (.step step)
  | work before ih => exact preserved _ _ before ih .work

/-- A step is taken, from outside or by the callback that runs: what it does in the session `u` that it
finds, and the work that it comes before. -/
inductive Takes (s : Session ν) (step : Step (Callback ν)) :
    (u : Session ν) → (pending : List (Work ν)) → Session ν → Prop where
  | outside : Takes s step s s.agenda ((s.perform step).session.push (s.perform step).works)
  | inside {next rest} (running : s.agenda = .run (.act step next) :: rest) :
      Takes s step { s with agenda := rest }
        (.run (next (({ s with agenda := rest } : Session ν).perform step).outcome) :: rest) s.advance

theorem Takes.moves {s u t : Session ν} {step : Step (Callback ν)} {pending : List (Work ν)}
    (takes : Takes s step u pending t) : Moves s t := by
  cases takes with
  | outside => exact .step step
  | inside running => exact .work

/-- Whoever takes the step, its consequences come before all that was pending. -/
theorem Takes.eq {s u t : Session ν} {step : Step (Callback ν)} {pending : List (Work ν)}
    (takes : Takes s step u pending t) :
    (∃ agenda, u = { s with agenda := agenda }) ∧
      t = { (u.perform step).session with agenda := (u.perform step).works ++ pending } := by
  cases takes with
  | outside =>
      refine ⟨⟨s.agenda, rfl⟩, ?_⟩
      unfold push
      rw [(s.perform_does step).agenda_eq]
  | @inside next rest running =>
      refine ⟨⟨rest, rfl⟩, ?_⟩
      rw [advance_eq running]
      unfold push
      rw [agenda_labor]
      simp [labor]

end Session

end CardExpr
