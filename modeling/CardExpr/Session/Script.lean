import CardExpr.Store.Basic

/-! What callbacks do: steps on a session, questions about it, and notes in its log. -/

namespace CardExpr

/-- A step that changes the session; `κ` are the callbacks of subscriptions. -/
inductive Step (κ : Type) where
  | declareAll (store : ScopeId) (vs : List Variable)
  | batchSet (store : ScopeId) (updates : List (String × Value))
  | evaluate (card : ObserverId) (source : String)
  /-- Takes the next ticket, also when the source is malformed. -/
  | subscribe (card : ObserverId) (source : String) (callback : κ)
  /-- Subscribes to an expression that is parsed already. -/
  | follow (card : ObserverId) (expression : Expression) (callback : κ)
  /-- Drops the handle that the ticket holds. -/
  | unsubscribe (ticket : Nat)
  /-- A card of its own store nested in the store of this one. -/
  | nest (card : ObserverId)
  | drop (card : ObserverId)

inductive Outcome where
  | done
  | evaluated (evaluation : Evaluation)
  | subscribed (ticket id : Nat)
  | nested (card : ObserverId)
  | refused (error : VariableError)
  | malformed (error : ExpressionError)
  | noCard (card : ObserverId)
  | noHandle (ticket : Nat)

structure CardView where
  store : ScopeId
  functions : Registry
  config : Config
  subscriptionCount : Nat

structure SubscriptionView where
  id : Nat
  isActive : Bool
  tracked : List String
  last : Option Value

structure TicketView where
  /-- How often its callback was started. -/
  deliveries : Nat
  /-- The subscription behind its handle, unless the handle is gone or not there yet. -/
  subscription : Option SubscriptionView

/-- A session as callbacks may look at it. -/
structure View where
  stores : Stores
  /-- By observer number; nothing for dropped cards. -/
  cards : List (Option CardView)
  tickets : List TicketView

namespace View

def card? (v : View) (id : ObserverId) : Option CardView := v.cards[id]?.join

def ticket? (v : View) (ticket : Nat) : Option TicketView := v.tickets[ticket]?

def subscription? (v : View) (ticket : Nat) : Option SubscriptionView :=
  (v.ticket? ticket).bind (·.subscription)

def deliveries (v : View) (ticket : Nat) : Nat :=
  match v.ticket? ticket with
  | some t => t.deliveries
  | none => 0

end View

/-- A running callback; `ν` are the notes that it leaves in the log. -/
inductive Script (ν : Type) where
  | done
  | ask (next : View → Script ν)
  | note (content : ν) (next : Script ν)
  | act (step : Step (Value → Script ν)) (next : Outcome → Script ν)

instance {ν : Type} : Inhabited (Script ν) := ⟨.done⟩

abbrev Callback (ν : Type) := Value → Script ν

end CardExpr
