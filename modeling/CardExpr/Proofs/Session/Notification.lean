import CardExpr.Proofs.Session.Moves
import CardExpr.Proofs.Session.Schedule

/-!
Who hears of a change. Whatever the observers that are called do in between, an announcement calls each
of its listeners once and in order before the work below it goes on.
-/

namespace CardExpr

variable {ν κ : Type}

theorem nodup_addOnce (known more : List ObserverId) (distinct : known.Nodup) :
    (more.foldl (fun known o => if known.contains o then known else known ++ [o]) known).Nodup := by
  induction more generalizing known with
  | nil => exact distinct
  | cons o rest ih =>
      refine ih _ ?_
      dsimp only
      split
      · exact distinct
      next absent =>
        refine List.nodup_append.mpr ⟨distinct, List.nodup_singleton o, ?_⟩
        rintro i member j single rfl
        rw [List.mem_singleton.mp single] at member
        exact absent (List.contains_iff_mem.mpr member)

namespace Mutation

theorem nodup_listeners (m : Mutation) (isAlive : ObserverId → Bool) : (m.listeners isAlive).Nodup := by
  unfold listeners
  split
  · exact List.nodup_nil
  · exact nodup_addOnce [] _ List.nodup_nil

/-- The touched stores are those that own an updated variable. -/
def IsTold (m : Mutation) : Prop := ∀ o, o ∈ m.touched ↔ ∃ name, (o, name) ∈ m.change.updated

theorem IsTold.write {m : Mutation} (told : m.IsTold) (w : Stores.Write) : (m.write w).IsTold := by
  unfold Mutation.write
  split
  · exact told
  · split
    · exact told
    · intro o
      have updated (name : String) : (o, name) ∈ (m.change.update w.owner w.name).updated ↔
          (o, name) = (w.owner, w.name) ∨ (o, name) ∈ m.change.updated :=
        mem_insertOrdered updateBefore _ _ _
      have touched : o ∈ (if m.touched.contains w.owner then m.touched else m.touched ++ [w.owner]) ↔
          o = w.owner ∨ o ∈ m.touched := by
        split
        next known =>
          rw [List.contains_iff_mem] at known
          exact ⟨.inr, fun member => member.elim (fun same => same ▸ known) id⟩
        next => rw [List.mem_append, List.mem_singleton, or_comm]
      simp only [updated, touched, exists_or, told o, Prod.mk.injEq, exists_and_left, exists_eq, and_true]

end Mutation

theorem Stores.isTold_of_batchSet {s : Stores} {id : ScopeId} {updates : List (String × Value)} {m : Mutation}
    (done : s.batchSet id updates = .ok m) : m.IsTold := by
  unfold batchSet at done
  cases checked : updates.mapM (s.check id) with
  | error e =>
      rw [checked] at done
      cases done
  | ok writes =>
      rw [checked] at done
      cases done
      refine List.foldlRecOn writes _ ?_ fun m told w _ => told.write w
      intro o
      simp

def Step.mutation? (s : Stores) : Step κ → Option (Except VariableError Mutation)
  | .declareAll id vs => some (s.declareAll id vs)
  | .batchSet id updates => some (s.batchSet id updates)
  | _ => none

/-- The stores that own what the operation changed: those of the updated variables, or the one that
declares. -/
def Step.Concerns (m : Mutation) (o : ScopeId) : Step κ → Prop
  | .declareAll id _ => o = id
  | .batchSet _ _ => ∃ name, (o, name) ∈ m.change.updated
  | _ => False

theorem Step.mem_touched_iff {step : Step κ} {s : Stores} {m : Mutation}
    (done : step.mutation? s = some (.ok m)) (o : ScopeId) : o ∈ m.touched ↔ step.Concerns m o := by
  cases step with
  | declareAll id vs =>
      obtain done : s.declareAll id vs = .ok m := Option.some.inj done
      unfold Stores.declareAll at done
      split at done
      · cases done
      · cases done
        exact List.mem_singleton
  | batchSet id updates => exact Stores.isTold_of_batchSet (Option.some.inj done) o
  | _ => cases done

theorem Step.mutates {step : Step κ} {s : Stores} {m : Mutation}
    (done : step.mutation? s = some (.ok m)) : s.Mutates m := by
  cases step with
  | declareAll id vs => exact .declared id vs (Option.some.inj done)
  | batchSet id updates => exact .written id updates (Option.some.inj done)
  | _ => cases done

namespace Session

theorem perform_of_mutation {s : Session ν} {step : Step (Callback ν)}
    {result : Except VariableError Mutation} (operation : step.mutation? s.stores = some result) :
    s.perform step = s.afterMutation result := by
  cases step with
  | declareAll id vs =>
      cases operation
      rfl
  | batchSet id updates =>
      cases operation
      rfl
  | _ => cases operation

def after (s : Session ν) : Nat → Session ν
  | 0 => s
  | n + 1 => (s.after n).advance

theorem Reached.after {s : Session ν} (reached : Reached s) (n : Nat) : Reached (s.after n) := by
  induction n with
  | zero => exact reached
  | succ n ih => exact ih.work

/-- The observer that is called next, and the change that it hears of, if it is called by an announcement
with so much work below. -/
def call? (level : Nat) (s : Session ν) : Option (ObserverId × StoreChange) :=
  match s.agenda with
  | .announce change (i :: _) :: below => if below.length = level then some (i, change) else none
  | _ => none

/-- What is seen in the session before each of the first `n` pieces of work. -/
def trace {α : Type} (seen : Session ν → Option α) (s : Session ν) (n : Nat) : List α :=
  (List.range n).filterMap fun k => seen (s.after k)

theorem trace_succ {α : Type} (seen : Session ν → Option α) (s : Session ν) (n : Nat) :
    trace seen s (n + 1) = trace seen s n ++ (seen (s.after n)).toList := by
  unfold trace
  rw [List.range_succ, List.filterMap_append, List.filterMap_cons, List.filterMap_nil]
  cases seen (s.after n) <;> rfl

def calls (level : Nat) (s : Session ν) (n : Nat) : List (ObserverId × StoreChange) :=
  trace (call? level) s n

/-- Before the last of `n` pieces of work, the work at the bottom of the agenda is not reached. -/
def Stays (level : Nat) (s : Session ν) (n : Nat) : Prop := ∀ k < n, level < (s.after k).agenda.length

theorem Takes.isAlive_eq {s u t : Session ν} {step : Step (Callback ν)} {pending : List (Work ν)}
    (takes : Takes s step u pending t) (i : ObserverId) : u.isAlive i = s.isAlive i := by
  cases takes with
  | outside => rfl
  | inside running =>
      unfold isAlive
      rw [running]
      rfl

theorem Takes.operation {s u t : Session ν} {step : Step (Callback ν)} {pending : List (Work ν)}
    (takes : Takes s step u pending t) {m : Mutation} (done : step.mutation? s.stores = some (.ok m)) :
    ∃ listeners, t.agenda = .announce m.change listeners :: pending ∧ listeners.Nodup ∧
      ∀ i, i ∈ listeners ↔ m.change.isEmpty = false ∧ s.isAlive i = true ∧
        ∃ o, step.Concerns m o ∧ i ∈ (s.stores.store o).observers := by
  have alive := takes.isAlive_eq
  obtain ⟨⟨agenda, rfl⟩, same⟩ := takes.eq
  rw [perform_of_mutation (s := { s with agenda := agenda }) done] at same
  refine ⟨_, by rw [same]; rfl, m.nodup_listeners _, fun i => ?_⟩
  rw [Mutation.mem_listeners_iff, alive]
  simp only [Step.mem_touched_iff done, (Step.mutates done).accounts.observers_eq]

theorem Takes.refused {s u t : Session ν} {step : Step (Callback ν)} {pending : List (Work ν)}
    (takes : Takes s step u pending t) {e : VariableError}
    (failed : step.mutation? s.stores = some (.error e)) : t.agenda = pending := by
  obtain ⟨⟨agenda, rfl⟩, same⟩ := takes.eq
  rw [perform_of_mutation (s := { s with agenda := agenda }) failed] at same
  rw [same]
  rfl

end Session

end CardExpr
