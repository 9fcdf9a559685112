import CardExpr.Proofs.Session.Parts
import CardExpr.Proofs.Store.Extension

/-! The sessions that can come about, and that each card in them observes every store it may read. -/

namespace CardExpr

variable {ν : Type}

/-- A card without subscriptions. -/
def Card.fresh (store : ScopeId) (functions : Registry) (config : Config) (isLogged : Bool) : Card ν :=
  { store, functions, config, isLogged }

namespace Session

/-- The sessions that can come about: stores in stores that exist, cards over stores that exist, other
observers, and steps, each with all or only some of the work that follows from it. -/
inductive Reached : Session ν → Prop where
  | start (now : Calendar.DateTime) : Reached { now := now }
  | store {s : Session ν} (parent : Option ScopeId) (reached : Reached s)
      (inside : ∀ p ∈ parent, p < s.stores.all.length) : Reached (s.addStore parent).2
  | card {s : Session ν} (store : ScopeId) (functions : Registry) (config : Config) (isLogged : Bool)
      (reached : Reached s) (inside : store < s.stores.all.length) :
      Reached (s.addCard (.fresh store functions config isLogged)).2
  | watcher {s : Session ν} (react : StoreChange → Script ν) (reached : Reached s) :
      Reached (s.addObserver (.watcher react)).2
  | observe {s : Session ν} (store : ScopeId) (observer : ObserverId) (reached : Reached s) :
      Reached (s.observe store observer)
  | step {s : Session ν} (step : Step (Callback ν)) (reached : Reached s) :
      Reached ((s.perform step).session.push (s.perform step).works)
  | work {s : Session ν} (reached : Reached s) : Reached s.advance

theorem Reached.settle {s : Session ν} (reached : Reached s) (fuel : Nat) :
    Reached (s.settle fuel) := by
  induction fuel generalizing s with
  | zero => exact reached
  | succ fuel ih =>
      unfold Session.settle
      split
      · exact reached
      · exact ih reached.work

theorem Reached.take {s : Session ν} (reached : Reached s) (fuel : Nat) (step : Step (Callback ν)) :
    Reached (s.take fuel step).2 :=
  (reached.step step).settle fuel

/-- The ancestors of stores are stores, and every card lies over a store and is registered with all the
stores that it may read. -/
structure Wired (s : Session ν) : Prop where
  nested : s.stores.Nested
  placed : ∀ i c, s.card? i = some c → c.store < s.stores.all.length
  observed : ∀ i c, s.card? i = some c → ∀ o ∈ s.stores.chain c.store, i ∈ (s.stores.store o).observers

/-- Wiring is kept when stores are only extended and every card was one over the same store before. -/
theorem Wired.extend {s t : Session ν} (wired : s.Wired) (nested : t.stores.Nested)
    (wider : s.stores.Grows t.stores)
    (cards : ∀ i d, t.card? i = some d → ∃ c, s.card? i = some c ∧ d.store = c.store) : t.Wired where
  nested := nested
  placed := by
    intro i d found
    obtain ⟨c, before, same⟩ := cards i d found
    rw [same]
    exact Nat.lt_of_lt_of_le (wired.placed i c before) wider.length_le
  observed := by
    intro i d found o member
    obtain ⟨c, before, same⟩ := cards i d found
    have inside := wired.placed i c before
    rw [same, wider.chain_eq c.store inside] at member
    exact wider.observers_subset o (s.stores.lt_length_of_mem_chain wired.nested c.store inside o member) i
      (wired.observed i c before o member)

/-- The same stores, and cards of which every one was one over the same store before. -/
theorem Wired.of_cards {s t : Session ν} (wired : s.Wired) (stores : t.stores = s.stores)
    (cards : ∀ i d, t.card? i = some d → ∃ c, s.card? i = some c ∧ d.store = c.store) : t.Wired := by
  refine wired.extend ?_ ?_ cards
  · rw [stores]
    exact wired.nested
  · rw [stores]
    exact (Stores.Extends.refl _).toGrows

theorem Wired.of_same_cards {s t : Session ν} (wired : s.Wired) (stores : t.stores = s.stores)
    (cards : ∀ i, t.card? i = s.card? i) : t.Wired :=
  wired.of_cards stores fun i d found => ⟨d, (cards i).symm.trans found, rfl⟩

theorem Wired.modifyCard {s : Session ν} (wired : s.Wired) (id : ObserverId) (f : Card ν → Card ν)
    (same : ∀ c, (f c).store = c.store) : (s.modifyCard id f).Wired := by
  refine wired.of_cards rfl fun i d found => ?_
  rw [card?_modifyCard] at found
  split at found
  · obtain ⟨c, before, rfl⟩ := Option.map_eq_some_iff.mp found
    exact ⟨c, before, same c⟩
  · exact ⟨d, found, rfl⟩

theorem Wired.mutate {s : Session ν} (wired : s.Wired) (m : Mutation) (accounts : m.Accounts s.stores) :
    ({ s with stores := m.stores } : Session ν).Wired := by
  refine wired.extend ?_ (s.stores.grows_of_accounts m accounts) fun _ d found => ⟨d, found, rfl⟩
  intro id o member
  rw [accounts.ancestors_eq] at member
  rw [accounts.length_eq]
  exact wired.nested id o member

theorem Wired.addStore {s : Session ν} (wired : s.Wired) (parent : Option ScopeId)
    (inside : ∀ p ∈ parent, p < s.stores.all.length) : (s.addStore parent).2.Wired :=
  wired.extend (s.stores.nested_create wired.nested parent inside)
    (s.stores.extends_create parent).toGrows fun _ d found => ⟨d, found, rfl⟩

theorem Wired.observe {s : Session ν} (wired : s.Wired) (store : ScopeId) (observer : ObserverId) :
    (s.observe store observer).Wired :=
  wired.extend (s.stores.nested_observe wired.nested store observer)
    (s.stores.extends_observe store observer).toGrows fun _ d found => ⟨d, found, rfl⟩

theorem addCard_eq (s : Session ν) (c : Card ν) :
    (s.addCard c).2 = { (s.addObserver (.card c)).2 with
      stores := s.stores.observeAll (s.stores.chain c.store) s.observers.length } := by
  have fold : ∀ (ids : List ScopeId) (t : Session ν) (i : ObserverId),
      ids.foldl (fun t store => t.observe store i) t = { t with stores := t.stores.observeAll ids i } := by
    intro ids
    induction ids with
    | nil => intro t i; rfl
    | cons id rest ih => intro t i; exact ih (t.observe id i) i
  exact fold (s.stores.chain c.store) (s.addObserver (.card c)).2 s.observers.length

theorem card?_addCard (s : Session ν) (c : Card ν) (i : ObserverId) :
    (s.addCard c).2.card? i = if i = s.observers.length then some c else s.card? i := by
  rw [addCard_eq]
  exact s.card?_addObserver (.card c) i

theorem Wired.addCard {s : Session ν} (wired : s.Wired) (c : Card ν)
    (inside : c.store < s.stores.all.length) : (s.addCard c).2.Wired := by
  have wider := s.stores.extends_observeAll (s.stores.chain c.store) s.observers.length
  have stores : (s.addCard c).2.stores =
      s.stores.observeAll (s.stores.chain c.store) s.observers.length := by
    rw [addCard_eq]
  constructor
  · rw [stores]
    exact s.stores.nested_observeAll wired.nested _ _
  · intro i d found
    rw [stores]
    rw [card?_addCard] at found
    split at found
    · cases found
      exact Nat.lt_of_lt_of_le inside wider.length_le
    · exact Nat.lt_of_lt_of_le (wired.placed i d found) wider.length_le
  · intro i d found o member
    rw [stores] at member ⊢
    rw [card?_addCard] at found
    split at found
    next new =>
      cases found
      rw [wider.chain_eq c.store inside] at member
      rw [new]
      exact s.stores.mem_observers_observeAll _ _ o
        (s.stores.lt_length_of_mem_chain wired.nested c.store inside o member) member
    next old =>
      have placed := wired.placed i d found
      rw [wider.chain_eq d.store placed] at member
      exact wider.observers_subset o (s.stores.lt_length_of_mem_chain wired.nested d.store placed o member)
        i (wired.observed i d found o member)

end Session

end CardExpr
