import CardExpr.Session.Basic

/-!
How a session goes on. A step takes effect at once and leaves its consequences on the agenda; each piece
of work there may add more in front of the rest, so what callbacks cause is done before what was pending.
-/

namespace CardExpr

/-- A step that took effect, and the work that it leaves. -/
structure Performed (ν : Type) where
  outcome : Outcome
  session : Session ν
  works : List (Work ν) := []

namespace Session

variable {ν : Type}

def evaluateOn (s : Session ν) (c : Card ν) (e : Expression) : Evaluation :=
  evaluate ⟨s.stores.resolver c.store, c.functions, c.config, s.now⟩ e

def recordIf (s : Session ν) (isLogged : Bool) (events : List (Event ν)) : Session ν :=
  if isLogged then { s with log := s.log ++ events } else s

def recordWarnings (s : Session ν) (c : Card ν) (evaluation : Evaluation) : Session ν :=
  s.recordIf c.isLogged (evaluation.warnings.map .warned)

/-- Starts the callback on a value, or reports why there is none. -/
def deliver (s : Session ν) (c : Card ν) (ticket : Nat) (callback : Callback ν)
    (evaluation : Evaluation) : Session ν × List (Work ν) :=
  match evaluation.result with
  | .ok v =>
    let counted := s.tickets.modify ticket fun t => { t with deliveries := t.deliveries + 1 }
    ({ s with tickets := counted }.record (.delivered ticket v), [.run (callback v)])
  | .error e => (s.recordIf c.isLogged [.failed e], [])

def afterMutation (s : Session ν) (result : Except VariableError Mutation) : Performed ν :=
  match result with
  | .error e => { outcome := .refused e, session := s }
  | .ok m =>
    { outcome := .done
      session := { s with stores := m.stores }
      works := [.announce m.change (m.listeners s.isAlive)] }

def addTicket (s : Session ν) : Session ν := { s with tickets := s.tickets ++ [{}] }

/-- The first value is delivered before the ticket gets its handle. -/
def subscribe (s : Session ν) (card : ObserverId) (c : Card ν) (ticket : Nat)
    (expression : Expression) (callback : Callback ν) : Performed ν :=
  let id := c.nextId
  let evaluation := s.evaluateOn c expression
  let subscription : Subscription ν :=
    ⟨id, ticket, expression, callback, evaluation.reads, evaluation.result.toOption⟩
  let s := s.recordWarnings c evaluation
  let s := s.modifyCard card fun c =>
    { c with nextId := id + 1, subscriptions := c.subscriptions ++ [subscription] }
  let (s, works) := s.deliver c ticket callback evaluation
  { outcome := .subscribed ticket id, session := s, works := works ++ [.handOver ticket card id] }

def onCard (s : Session ν) (id : ObserverId) (f : Card ν → Performed ν) : Performed ν :=
  match s.heldCard? id with
  | some c => f c
  | none => { outcome := .noCard id, session := s }

def perform (s : Session ν) : Step (Callback ν) → Performed ν
  | .declareAll store vs => s.afterMutation (s.stores.declareAll store vs)
  | .batchSet store updates => s.afterMutation (s.stores.batchSet store updates)
  | .evaluate card source =>
    s.onCard card fun c =>
      match Expression.parse source c.config with
      | .error e => { outcome := .malformed e, session := s }
      | .ok expression =>
        let evaluation := s.evaluateOn c expression
        { outcome := .evaluated evaluation, session := s.recordWarnings c evaluation }
  | .subscribe card source callback =>
    s.onCard card fun c =>
      let ticket := s.tickets.length
      let s := s.addTicket
      match Expression.parse source c.config with
      | .error e => { outcome := .malformed e, session := s }
      | .ok expression => s.subscribe card c ticket expression callback
  | .follow card expression callback =>
    s.onCard card fun c =>
      s.addTicket.subscribe card c s.tickets.length expression callback
  | .unsubscribe ticket =>
    match s.tickets[ticket]?.bind (·.handle) with
    | none => { outcome := .noHandle ticket, session := s }
    | some (card, id) =>
      let tickets := s.tickets.modify ticket fun t => { t with handle := none }
      { outcome := .done, session := { s with tickets }.modifyCard card (·.remove id) }
  | .nest card =>
    s.onCard card fun c =>
      let (store, s) := s.addStore (some c.store)
      let (id, s) := s.addCard { c with store, subscriptions := [], nextId := 1 }
      { outcome := .nested id, session := s }
  | .drop card => s.onCard card fun _ => { outcome := .done, session := s.dropObserver card }

/-- Evaluates a subscription again. One that is gone by now is passed over. -/
def refresh (s : Session ν) (card : ObserverId) (id : Nat) : Session ν × List (Work ν) :=
  match s.card? card with
  | none => (s, [])
  | some c =>
    match c.subscription? id with
    | none => (s, [])
    | some x =>
      let evaluation := s.evaluateOn c x.expression
      let s := s.recordWarnings c evaluation
      let s := s.modifyCard card (·.update id fun x =>
        { x with reads := evaluation.reads, last := evaluation.result.toOption <|> x.last })
      s.deliver c x.ticket x.callback evaluation

def announce (s : Session ν) (change : StoreChange) (id : ObserverId) :
    Session ν × List (Work ν) :=
  match s.observers[id]? with
  | none => (s, [])
  | some ⟨.card c, _⟩ => (s, [.refresh id (c.affected change)])
  | some ⟨.watcher react, _⟩ => (s.record (.changed id change), [.run (react change)])

/-- Does one piece of work, `s` being the session without it. -/
def work (s : Session ν) : Work ν → Session ν
  | .run .done => s
  | .run (.ask next) => s.push [.run (next s.view)]
  | .run (.note content next) => (s.record (.noted content)).push [.run next]
  | .run (.act step next) =>
    let p := s.perform step
    p.session.push (p.works ++ [.run (next p.outcome)])
  | .announce _ [] => s
  | .announce change (id :: rest) =>
    let s := s.push [.announce change rest]
    let (s, works) := s.announce change id
    s.push works
  | .refresh _ [] => s
  | .refresh card (id :: rest) =>
    let s := s.push [.refresh card rest]
    let (s, works) := s.refresh card id
    s.push works
  | .handOver ticket card id =>
    { s with tickets := s.tickets.modify ticket fun t => { t with handle := some (card, id) } }

def advance (s : Session ν) : Session ν :=
  match s.agenda with
  | [] => s
  | w :: rest => { s with agenda := rest }.work w

/-- Goes on until nothing is left to do, for at most `fuel` pieces of work. -/
def settle : (fuel : Nat) → Session ν → Session ν
  | 0, s => s
  | fuel + 1, s => if s.agenda.isEmpty then s else settle fuel s.advance

/-- A step from outside, with all that follows from it. -/
def take (fuel : Nat) (s : Session ν) (step : Step (Callback ν)) : Outcome × Session ν :=
  let p := s.perform step
  (p.outcome, settle fuel (p.session.push p.works))

def drain (s : Session ν) : List (Event ν) × Session ν := (s.log, { s with log := [] })

end Session

end CardExpr
