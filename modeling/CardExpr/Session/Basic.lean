import CardExpr.Session.Script

/-!
Sessions: the stores of variables, the cards over them with their subscriptions, and the work that is
still to do after an operation.
-/

namespace CardExpr

/-- An expression whose value a callback follows. -/
structure Subscription (ν : Type) where
  id : Nat
  ticket : Nat
  expression : Expression
  callback : Callback ν
  /-- What the last evaluation looked up. -/
  reads : ReadSet
  /-- The value of the last evaluation that succeeded. -/
  last : Option Value

structure Card (ν : Type) where
  store : ScopeId
  functions : Registry
  config : Config
  /-- Whether its failures and warnings go to the log. -/
  isLogged : Bool
  /-- In the order of their numbers. -/
  subscriptions : List (Subscription ν) := []
  nextId : Nat := 1

inductive Observer (ν : Type) where
  | card (card : Card ν)
  | watcher (react : StoreChange → Script ν)

/-- An observer and whether anybody still holds it. -/
structure Slot (ν : Type) where
  observer : Observer ν
  isHeld : Bool := true

/-- What a subscribe step left behind. -/
structure Ticket where
  deliveries : Nat := 0
  /-- The card and the number of the subscription. -/
  handle : Option (ObserverId × Nat) := none

inductive Event (ν : Type) where
  | delivered (ticket : Nat) (value : Value)
  | failed (error : EvaluationError)
  | warned (warning : Warning)
  | changed (observer : ObserverId) (change : StoreChange)
  | noted (content : ν)

inductive Work (ν : Type) where
  | run (script : Script ν)
  /-- These observers have yet to hear of the change. -/
  | announce (change : StoreChange) (listeners : List ObserverId)
  /-- These subscriptions of the card have yet to be evaluated again. -/
  | refresh (card : ObserverId) (ids : List Nat)
  /-- The ticket gets its handle. -/
  | handOver (ticket : Nat) (card : ObserverId) (id : Nat)

structure Session (ν : Type) where
  now : Calendar.DateTime
  stores : Stores := {}
  observers : List (Slot ν) := []
  tickets : List Ticket := []
  /-- What is to do next comes first. -/
  agenda : List (Work ν) := []
  log : List (Event ν) := []

/-- The observers that pending work keeps alive. -/
def Work.mentions {ν : Type} : Work ν → List ObserverId
  | .run _ => []
  | .announce _ listeners => listeners
  | .refresh card _ => [card]
  | .handOver _ card _ => [card]

namespace Session

variable {ν : Type}

def isHeld (s : Session ν) (id : ObserverId) : Bool :=
  match s.observers[id]? with
  | some slot => slot.isHeld
  | none => false

/-- Whether the observer is held or kept alive by pending work. -/
def isAlive (s : Session ν) (id : ObserverId) : Bool :=
  s.isHeld id || s.agenda.any fun w => w.mentions.contains id

def card? (s : Session ν) (id : ObserverId) : Option (Card ν) :=
  match s.observers[id]? with
  | some ⟨.card c, _⟩ => some c
  | _ => none

def heldCard? (s : Session ν) (id : ObserverId) : Option (Card ν) :=
  if s.isHeld id then s.card? id else none

def modifyCard (s : Session ν) (id : ObserverId) (f : Card ν → Card ν) : Session ν :=
  { s with observers := s.observers.modify id fun slot =>
      match slot.observer with
      | .card c => { slot with observer := .card (f c) }
      | .watcher _ => slot }

def record (s : Session ν) (event : Event ν) : Session ν := { s with log := s.log ++ [event] }

def push (s : Session ν) (works : List (Work ν)) : Session ν := { s with agenda := works ++ s.agenda }

end Session

namespace Card

variable {ν : Type}

def subscription? (c : Card ν) (id : Nat) : Option (Subscription ν) :=
  c.subscriptions.find? fun x => x.id == id

def update (c : Card ν) (id : Nat) (f : Subscription ν → Subscription ν) : Card ν :=
  { c with subscriptions := c.subscriptions.map fun x => if x.id = id then f x else x }

def remove (c : Card ν) (id : Nat) : Card ν :=
  { c with subscriptions := c.subscriptions.filter fun x => x.id != id }

/-- The subscriptions that a change may give another value, in the order of their numbers. -/
def affected (c : Card ν) (change : StoreChange) : List Nat :=
  (c.subscriptions.filter fun x => x.reads.isAffectedBy change).map (·.id)

def view (c : Card ν) : CardView := ⟨c.store, c.functions, c.config, c.subscriptions.length⟩

end Card

namespace Session

variable {ν : Type}

def subscriptionView (s : Session ν) (card : ObserverId) (id : Nat) : SubscriptionView :=
  match (if s.isAlive card then (s.card? card).bind (·.subscription? id) else none) with
  | some x => ⟨id, true, x.reads.names, x.last⟩
  | none => ⟨id, false, [], none⟩

def view (s : Session ν) : View where
  stores := s.stores
  cards := s.observers.map fun slot =>
    match slot with
    | ⟨.card c, true⟩ => some c.view
    | _ => none
  tickets := s.tickets.map fun t =>
    ⟨t.deliveries, t.handle.map fun (card, id) => s.subscriptionView card id⟩

def addStore (s : Session ν) (parent : Option ScopeId) : ScopeId × Session ν :=
  let (id, stores) := s.stores.create parent
  (id, { s with stores })

def addObserver (s : Session ν) (observer : Observer ν) : ObserverId × Session ν :=
  (s.observers.length, { s with observers := s.observers ++ [{ observer := observer }] })

def observe (s : Session ν) (store : ScopeId) (observer : ObserverId) : Session ν :=
  { s with stores := s.stores.observe store observer }

/-- A card hears of changes in every store that it may read from. -/
def addCard (s : Session ν) (card : Card ν) : ObserverId × Session ν :=
  let (id, s) := s.addObserver (.card card)
  (id, (s.stores.chain card.store).foldl (fun s store => s.observe store id) s)

def dropObserver (s : Session ν) (id : ObserverId) : Session ν :=
  { s with observers := s.observers.modify id fun slot => { slot with isHeld := false } }

end Session

end CardExpr
