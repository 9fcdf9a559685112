import CardExpr.Proofs.Session.Coalescing
import CardExpr.Proofs.Session.Registration
import CardExpr.Proofs.Store.Update

/-!
Why a subscription is evaluated again, where callbacks do not write. Some name that it read finds another
answer, or else the operation comes near the name in one of a few ways without changing what it finds.
-/

namespace CardExpr

variable {ν κ : Type}

/-- What the operation does to a name that is read over a store. It gives the name another answer; or it
declares the name where a nearer store hides it; or, while it changes a variable in the chain, it updates one
outside whose name finds nothing here; or it writes the variable more than once. -/
inductive Step.Disturbs (step : Step κ) (s : Stores) (m : Mutation) (u : ScopeId) (name : String) : Prop where
  | changed (differs : sameAnswer (s.lookup u name) (m.stores.lookup u name) = false)
  | hidden {id : ScopeId} {vs : List Variable} {inner outer : List ScopeId} {nearer : ScopeId}
      (declares : step = .declareAll id vs) (named : name ∈ vs.map (·.name))
      (chain : s.chain u = inner ++ id :: outer) (before : nearer ∈ inner)
      (hides : (s.own? nearer name).isSome)
  | outside {id o p : ScopeId} {updates : List (String × Value)} {other : String}
      (writes : step = .batchSet id updates) (undeclared : s.lookup u name = none) (apart : o ∉ s.chain u)
      (updated : (o, name) ∈ m.change.updated) (inside : p ∈ s.chain u)
      (along : (p, other) ∈ m.change.updated)
  | repeated {id : ScopeId} {updates : List (String × Value)} (writes : step = .batchSet id updates)
      (twice : 1 < (updates.map (·.1)).count name)

namespace Stores

variable {s : Stores} {m : Mutation} {u : ScopeId} {name : String}

theorem disturbs_of_declareAll {id : ScopeId} {vs : List Variable} (done : s.declareAll id vs = .ok m)
    (inside : id < s.all.length) (within : id ∈ s.chain u) (named : name ∈ vs.map (·.name)) :
    (Step.declareAll id vs : Step κ).Disturbs s m u name := by
  obtain ⟨⟨-, fresh⟩, -⟩ := (s.declareAll_eq_ok_iff id vs m).mp done
  have all := s.declaresAll_of_declareAll id done inside
  by_cases sees : s.Sees u id name
  · obtain ⟨v, listed, rfl⟩ := List.mem_map.mp named
    refine .changed ?_
    rw [(all.owns_of_sees listed sees).lookup_eq]
    cases answer : s.lookup u v.name with
    | none => rfl
    | some found =>
        have elsewhere : found.2 ≠ id := ne_of_lookup (fresh v listed) answer
        simp [sameAnswer, elsewhere]
  · obtain ⟨inner, outer, chain⟩ := List.append_of_mem within
    have covered : ∃ nearer ∈ inner, s.own? nearer name ≠ none := by
      by_contra bare
      exact sees ⟨inner, outer, chain, fun o member => by_contra fun declared => bare ⟨o, member, declared⟩⟩
    obtain ⟨nearer, before, hides⟩ := covered
    exact .hidden rfl named chain before (Option.isSome_iff_ne_none.mpr hides)

/-- A write to the variable that the name finds gives the name its new value. -/
theorem Owns.of_accounts (accounts : m.Accounts s) (fresh : name ∉ m.change.declared) {o : ScopeId}
    {held new : Held} (owns : s.Owns u name o held) (after : m.stores.own? o name = some new) :
    m.stores.Owns u name o new := by
  obtain ⟨⟨inner, outer, chain, hidden⟩, -⟩ := owns
  refine ⟨⟨inner, outer, (s.chain_eq m accounts u).trans chain, fun p member => ?_⟩, after⟩
  have same := accounts.isSome_own?_eq p name fresh
  rw [hidden p member] at same
  exact Option.not_isSome_iff_eq_none.mp (by rw [same]; simp)

theorem disturbs_of_batchSet {id o p : ScopeId} {updates : List (String × Value)} {other : String}
    (done : s.batchSet id updates = .ok m) (inside : p ∈ s.chain u) (along : (p, other) ∈ m.change.updated)
    (updated : (o, name) ∈ m.change.updated)
    (reached : ∀ found, s.lookup u name = some found → found.2 = o) :
    (Step.batchSet id updates : Step κ).Disturbs s m u name := by
  obtain ⟨held, owns, change⟩ := updated_of_batchSet done updated
  rcases change with twice | ⟨w, differs, after⟩
  · exact .repeated rfl twice
  cases answer : s.lookup u name with
  | none =>
      refine .outside rfl answer (fun member => ?_) updated inside along
      cases owns.holds.symm.trans (lookup_eq_none_iff.mp answer o member)
  | some found =>
      cases reached found answer
      obtain ⟨here, reads, same⟩ := exists_owns_of_lookup answer
      cases owns.holds.symm.trans reads.holds
      have fresh : name ∉ m.change.declared := declared_of_batchSet done ▸ List.not_mem_nil
      have reads' := reads.of_accounts (accounts_of_batchSet s id updates m done) fresh after
      refine .changed ?_
      rw [answer, reads'.lookup_eq]
      simp [sameAnswer, ← same, differs]

/-- An operation disturbs each name that its change hits, if it concerns a store of the chain. -/
theorem disturbs_of_isHit {step : Step κ} (done : step.mutation? s = some (.ok m))
    (placed : ∀ o ∈ s.chain u, o < s.all.length) (heard : ∃ o ∈ s.chain u, step.Concerns m o)
    (hit : ReadSet.isHit m.change ⟨name, (s.lookup u name).map (·.2)⟩ = true) : step.Disturbs s m u name := by
  obtain ⟨o, within, concerns⟩ := heard
  cases step with
  | declareAll id vs =>
      obtain done : s.declareAll id vs = .ok m := Option.some.inj done
      obtain rfl : o = id := concerns
      refine disturbs_of_declareAll done (placed o within) within ?_
      obtain ⟨-, rfl⟩ := (s.declareAll_eq_ok_iff o vs m).mp done
      rcases Bool.or_eq_true_iff.mp hit with declared | updated
      · exact (mem_orderedSet nameBefore _ _).mp (List.contains_iff_mem.mp declared)
      · cases updated
  | batchSet id updates =>
      obtain done : s.batchSet id updates = .ok m := Option.some.inj done
      obtain ⟨other, along⟩ := concerns
      rcases Bool.or_eq_true_iff.mp hit with declared | updated
      · rw [declared_of_batchSet done] at declared
        cases declared
      · obtain ⟨⟨p, n⟩, member, same⟩ := List.any_eq_true.mp updated
        obtain ⟨named, reached⟩ := Bool.and_eq_true_iff.mp same
        obtain rfl : n = name := beq_iff_eq.mp named
        refine disturbs_of_batchSet done within along member fun found answer => ?_
        rw [answer] at reached
        exact beq_iff_eq.mp reached
  | _ => cases done

end Stores

namespace Session

theorem affected_of_reevaluated {t : Session ν} {change : StoreChange} {listeners : List ObserverId}
    {pending : List (Work ν)} (reached : Reached t) (distinct : listeners.Nodup)
    (started : t.agenda = .announce change listeners :: pending) (harmless : t.IsHarmless pending.length)
    {n : Nat} (stays : t.Stays pending.length n) {i : ObserverId} {x : Subscription ν}
    (member : (i, x) ∈ t.reevaluations n) :
    i ∈ listeners ∧ x.reads.isAffectedBy change = true ∧ t.Known i x := by
  cases underway_run reached distinct started harmless n stays with
  | going works queue rest _ _ progress => exact progress.affected (i, x) member
  | ended _ progress => exact progress.affected (i, x) member

theorem isHeld_of_isAlive {s : Session ν} (idle : s.agenda = []) {i : ObserverId}
    (alive : s.isAlive i = true) :
    s.isHeld i = true := by
  unfold isAlive at alive
  simpa [idle] using alive

/-- Where nothing is left to do, a subscription has read each name as it can be looked up by now. -/
theorem scope_of_mem_idle {s : Session ν} (reached : Reached s) (idle : s.agenda = []) {i : ObserverId}
    {c : Card ν} {x : Subscription ν} (held : s.isHeld i = true) (has : s.Has i c x) {r : VariableRead}
    (member : r ∈ x.reads) : r = ⟨r.name, (s.stores.lookup c.store r.name).map (·.2)⟩ := by
  have fresh : s.Fresh c x := by
    rcases reached.scheduled.covered i c x held has with fresh | ⟨w, pending, -⟩
    · exact fresh
    · rw [idle] at pending
      cases pending
  rw [fresh.reads_eq] at member
  have scope : r.scope = _ := scope_of_mem_reads _ x.expression r member
  rw [s.stores.bind_scope_resolver c.store r.name] at scope
  rw [← scope]

/-- An operation on the variables has a subscription evaluated again only for a name that it had read before
and that the operation disturbs. A refused operation has none evaluated again. -/
theorem reevaluations_disturbed :
    ∀ {ν : Type} (s : Session ν), Arranged s → s.agenda = [] → ∀ (step : Step (Callback ν)),
      let t : Session ν := (s.perform step).session.push (s.perform step).works
      (∀ e, step.mutation? s.stores = some (.error e) → t.agenda = []) ∧
      ∀ m, step.mutation? s.stores = some (.ok m) → t.IsHarmless 0 → ∀ n, t.Stays 0 n →
        ∀ (i : ObserverId) (c : Card ν) (x : Subscription ν), s.Has i c x →
          ∀ y, (i, y) ∈ t.reevaluations n → y.id = x.id →
            y = x ∧ ∃ r ∈ x.reads, step.Disturbs s.stores m c.store r.name := by
  intro ν s arranged idle step t
  have reached := arranged.reached
  have takes : Takes s step s [] t := idle ▸ Takes.outside
  refine ⟨fun e failed => takes.refused failed, ?_⟩
  intro m done harmless n stays i c x has y member same
  obtain ⟨listeners, started, distinct, members⟩ := takes.operation done
  obtain ⟨listens, affected, known⟩ :=
    affected_of_reevaluated (reached.move takes.moves) distinct started harmless stays member
  obtain ⟨-, alive, o, concerns, observes⟩ := (members i).mp listens
  have unchanged : t.card? i = s.card? i := by
    show (s.perform step).session.card? i = s.card? i
    rw [perform_of_mutation done]
    rfl
  have numbered := reached.scheduled.numbered
  have present : y ∈ c.subscriptions := by
    rcases known c (unchanged.trans has.1) with old | new
    · exact old
    · have used := numbered.below i c x has
      omega
  obtain rfl : y = x := numbered.eq_of_id ⟨has.1, present⟩ has same
  refine ⟨rfl, ?_⟩
  obtain ⟨r, read, hit⟩ := List.any_eq_true.mp affected
  rw [scope_of_mem_idle reached idle (isHeld_of_isAlive idle alive) has read] at hit
  have wired := reached.scheduled.wired
  have placed := s.stores.lt_length_of_mem_chain wired.nested c.store (wired.placed i c has.1)
  have inside := arranged.tuned.inside i c has.1 o observes
  exact ⟨r, read, Stores.disturbs_of_isHit done placed ⟨o, inside, concerns⟩ hit⟩

def nestedReader : Session Unit :=
  let nested : Session Unit := ((({ now := .epoch } : Session Unit).addStore none).2.addStore (some 0)).2
  let carded : Session Unit := (nested.addCard (.fresh 1 {} {} false)).2
  let declared : Session Unit := (carded.take 20 (.declareAll 1 [.infer "x" (.integer 1)])).2
  (declared.take 20 (.follow 0 ⟨"@\x7bx\x7d", .tree (.variable "x")⟩ fun _ => .done)).2

theorem arranged_nestedReader : Arranged nestedReader := by
  unfold nestedReader
  exact (((((Arranged.start .epoch).store none nofun).store (some 0) (by decide)).card 1 {} {} false
    (by decide)).take 20 _).take 20 _

theorem agenda_nestedReader : nestedReader.agenda = [] := List.isEmpty_iff.mp (by decide +kernel)

theorem has_nestedReader :
    ∃ c x, nestedReader.Has 0 c x ∧ c.store = 1 ∧ x.id = 1 ∧ x.reads = [⟨"x", some 1⟩] := by
  have seen : (nestedReader.card? 0).map (fun c => (c.store, c.subscriptions.map fun x => (x.id, x.reads))) =
      some (1, [(1, [⟨"x", some 1⟩])]) := by decide +kernel
  obtain ⟨c, found, same⟩ := Option.map_eq_some_iff.mp seen
  obtain ⟨store, subscriptions⟩ := Prod.mk.inj same
  obtain ⟨x, single, same⟩ := List.map_eq_singleton_iff.mp subscriptions
  obtain ⟨number, reads⟩ := Prod.mk.inj same
  exact ⟨c, x, ⟨found, single ▸ List.mem_cons_self⟩, store, number, reads⟩

theorem exists_of_reevaluations {t : Session ν} {n : Nat} {i : ObserverId} {id : Nat}
    (evaluated : (t.reevaluations n).map (fun e => (e.1, e.2.id)) = [(i, id)]) :
    ∃ y, (i, y) ∈ t.reevaluations n ∧ y.id = id := by
  obtain ⟨⟨j, y⟩, only, same⟩ := List.map_eq_singleton_iff.mp evaluated
  obtain ⟨rfl, number⟩ := Prod.mk.inj same
  exact ⟨y, only ▸ List.mem_cons_self, number⟩

/-- A subscription is evaluated again for the declaration of a name in an outer store, though the nested
store hides it and all that was read is found as before. -/
theorem reevaluation_without_difference :
    ∃ (s t : Session Unit) (step : Step (Callback Unit)) (m : Mutation) (c : Card Unit)
    (x y : Subscription Unit),
      Arranged s ∧ s.agenda = [] ∧ step = .declareAll 0 [.infer "x" (.integer 5)] ∧
        step.mutation? s.stores = some (.ok m) ∧
        t = (s.perform step).session.push (s.perform step).works ∧ t.IsHarmless 0 ∧ t.Stays 0 5 ∧
        s.Has 0 c x ∧ (0, y) ∈ t.reevaluations 5 ∧ y.id = x.id ∧
        ∀ r ∈ x.reads, sameAnswer (s.stores.lookup c.store r.name)
        (m.stores.lookup c.store r.name) = true := by
  let step : Step (Callback Unit) := .declareAll 0 [.infer "x" (.integer 5)]
  let t : Session Unit := (nestedReader.perform step).session.push (nestedReader.perform step).works
  obtain ⟨c, x, has, store, number, reads⟩ := has_nestedReader
  have answers : ((nestedReader.stores.declareAll 0 [.infer "x" (.integer 5)]).toOption.map fun m =>
      sameAnswer (nestedReader.stores.lookup 1 "x") (m.stores.lookup 1 "x")) = some true := by decide +kernel
  cases done : nestedReader.stores.declareAll 0 [.infer "x" (.integer 5)] with
  | error e =>
      rw [done] at answers
      cases answers
  | ok m =>
      rw [done] at answers
      have harmless : t.IsHarmless 0 := @IsHarmless.of_ended _ t 0 5 (by decide +kernel) (by decide +kernel)
      have stays : t.Stays 0 5 := by
        have all : ∀ k < 5, 0 < (t.after k).agenda.length := by decide +kernel
        exact all
      obtain ⟨y, member, again⟩ := @exists_of_reevaluations _ t 5 0 1 (by decide +kernel)
      refine ⟨nestedReader, t, step, m, c, x, y, arranged_nestedReader, agenda_nestedReader, rfl,
        congrArg some done, rfl, harmless, stays, has, member, again.trans number.symm, ?_⟩
      rw [reads, store]
      intro r read
      rw [List.mem_singleton.mp read]
      exact Option.some.inj answers

/-- A write to what a subscription reads. -/
theorem reevaluations_disturbed_of_write :
    ∃ (s t : Session Unit) (step : Step (Callback Unit)) (m : Mutation) (c : Card Unit)
    (x y : Subscription Unit),
      Arranged s ∧ s.agenda = [] ∧ step = .batchSet 1 [("x", .integer 2)] ∧
        step.mutation? s.stores = some (.ok m) ∧ t.IsHarmless 0 ∧ t.Stays 0 5 ∧ s.Has 0 c x ∧
        (0, y) ∈ t.reevaluations 5 ∧ y = x ∧ ∃ r ∈ x.reads, step.Disturbs s.stores m c.store r.name := by
  let step : Step (Callback Unit) := .batchSet 1 [("x", .integer 2)]
  let t : Session Unit := (nestedReader.perform step).session.push (nestedReader.perform step).works
  obtain ⟨c, x, has, store, number, reads⟩ := has_nestedReader
  have present : (nestedReader.stores.batchSet 1 [("x", .integer 2)]).toOption.isSome := by decide +kernel
  cases done : nestedReader.stores.batchSet 1 [("x", .integer 2)] with
  | error e =>
      rw [done] at present
      cases present
  | ok m =>
      have harmless : t.IsHarmless 0 := @IsHarmless.of_ended _ t 0 5 (by decide +kernel) (by decide +kernel)
      have stays : t.Stays 0 5 := by
        have all : ∀ k < 5, 0 < (t.after k).agenda.length := by decide +kernel
        exact all
      obtain ⟨y, member, again⟩ := @exists_of_reevaluations _ t 5 0 1 (by decide +kernel)
      have operation : step.mutation? nestedReader.stores = some (.ok m) := congrArg some done
      obtain ⟨kept, disturbed⟩ := (reevaluations_disturbed nestedReader arranged_nestedReader
        agenda_nestedReader step).2 m operation harmless 5 stays 0 c x has y member (again.trans number.symm)
      exact ⟨nestedReader, t, step, m, c, x, y, arranged_nestedReader, agenda_nestedReader, rfl, operation,
        harmless, stays, has, member, kept, disturbed⟩

end Session

end CardExpr
