import CardExpr.Proofs.Session.Completion
import CardExpr.Proofs.Session.Reevaluation

/-!
An operation on the variables calls each observer that it concerns once, with the whole change. Where
callbacks do not write, it has each affected subscription evaluated again once.
-/

namespace CardExpr

variable {ν : Type}

namespace Session

/-- What is left of an announcement above the work that was pending before it. -/
def remainder (change : StoreChange) (queue : Option (ObserverId × List Nat)) (rest : List ObserverId) :
    List (Work ν) :=
  (queue.map fun (i, ids) => .refresh i ids).toList ++ [.announce change rest]

/-- An announcement in the midst of a run, or at its end. -/
inductive Underway (t : Session ν) (change : StoreChange) (listeners : List ObserverId)
    (pending : List (Work ν)) (u : Session ν) (done : List (ObserverId × Subscription ν)) : Prop where
  | going (works : List (Work ν)) (queue : Option (ObserverId × List Nat)) (rest : List ObserverId)
      (agenda_eq : u.agenda = works ++ (remainder change queue rest ++ pending))
      (quiet : ∀ w ∈ works, w.IsQuiet) (progress : t.Progress change listeners u done queue rest)
  | ended (agenda_eq : u.agenda = pending) (progress : t.Progress change listeners u done none [])

section
variable {t u : Session ν} {change : StoreChange} {listeners rest : List ObserverId}
  {done : List (ObserverId × Subscription ν)} {pending : List (Work ν)}

theorem underway_refresh {i : ObserverId} {ids : List Nat} (start : t.Numbered) (numbered : u.Numbered)
    (next : u.agenda = .refresh i ids :: .announce change rest :: pending)
    (progress : t.Progress change listeners u done (some (i, ids)) rest) :
    t.Underway change listeners pending u.advance (done ++ u.reevaluates?.toList) := by
  have agenda := agenda_advance next
  have lasts := u.advance_lasts
  cases ids with
  | nil =>
      have unseen : u.reevaluates? = none := by
        unfold reevaluates?
        rw [next]
      have same : Arrives u u.advance := by
        rw [advance_eq next]
        exact .of_same_cards fun _ => rfl
      rw [unseen, Option.toList_none, List.append_nil]
      exact .going [] none rest agenda (fun _ member => nomatch member)
        (progress.finish.arrive start same lasts)
  | cons id ids =>
      rw [labor_refresh, List.append_assoc] at agenda
      rcases reevaluation_cases next with ⟨unseen, absent, same⟩ | ⟨c, x, seen, has, rfl, delivers⟩
      · rw [unseen, Option.toList_none, List.append_nil]
        exact .going _ (some (i, ids)) rest agenda quiet_refresh
          ((progress.pass absent).arrive start same lasts)
      · rw [seen]
        exact .going _ (some (i, ids)) rest agenda quiet_refresh (progress.renew numbered has delivers)

theorem advance_announce_arrives {listeners : List ObserverId}
    (next : u.agenda = .announce change listeners :: pending) : Arrives u u.advance := by
  rw [advance_eq next]
  cases listeners with
  | nil => exact .of_same_cards fun _ => rfl
  | cons i rest =>
      obtain ⟨log, told, -⟩ := announce_silent ({ u with agenda := pending } : Session ν) change i
      rw [labor_announce, told]
      exact .of_same_cards fun _ => rfl

theorem underway_announce (start : t.Numbered) (numbered : u.Numbered) (ordered : u.Ordered)
    (next : u.agenda = .announce change rest :: pending)
    (progress : t.Progress change listeners u done none rest) :
    t.Underway change listeners pending u.advance (done ++ u.reevaluates?.toList) := by
  have agenda := agenda_advance next
  have same := advance_announce_arrives next
  have lasts := u.advance_lasts
  have unseen : u.reevaluates? = none := by
    unfold reevaluates?
    rw [next]
  rw [unseen, Option.toList_none, List.append_nil]
  cases rest with
  | nil => exact .ended agenda (progress.arrive start same lasts)
  | cons i rest =>
      rw [labor_announce, List.append_assoc] at agenda
      rcases announce_cases ({ u with agenda := pending } : Session ν) change i with
        ⟨react, _, found, told⟩ | ⟨c, found, told⟩ | ⟨absent, told⟩
      · have absent : u.card? i = none := by
          unfold card?
          rw [show u.observers[i]? = _ from found]
        rw [told] at agenda
        refine .going [.run (react change)] none rest agenda (fun w member => ?_)
          ((progress.ignore absent).arrive start same lasts)
        rw [List.mem_singleton.mp member]
        trivial
      · rw [told] at agenda
        exact .going [] (some (i, c.affected change)) rest agenda (fun _ member => nomatch member)
          ((progress.hear ordered numbered found).arrive start same lasts)
      · rw [told] at agenda
        exact .going [] none rest agenda (fun _ member => nomatch member)
          ((progress.ignore absent).arrive start same lasts)

/-- One piece of work: a callback goes on, a subscription is evaluated again, a card hears of the change,
or the announcement ends. -/
theorem underway_step (start : t.Numbered) (reached : Reached u) (harmless : u.writesNext = false)
    (above : pending.length < u.agenda.length) (underway : t.Underway change listeners pending u done) :
    t.Underway change listeners pending u.advance (done ++ u.reevaluates?.toList) := by
  have numbered := reached.scheduled.numbered
  cases underway with
  | ended agenda =>
      rw [agenda] at above
      exact absurd above (Nat.lt_irrefl _)
  | going works queue rest agenda quiet progress =>
      cases works with
      | nil =>
          cases queue with
          | none => exact underway_announce start numbered reached.ordered agenda progress
          | some entry => exact underway_refresh start numbered agenda progress
      | cons w works =>
          have first := quiet w List.mem_cons_self
          obtain ⟨⟨more, after, quietly⟩, arrives⟩ := quiet_step agenda first harmless
          rw [reevaluates?_of_quiet agenda first, Option.toList_none, List.append_nil]
          refine .going (more ++ works) queue rest (after.trans (List.append_assoc _ _ _).symm)
            (fun v member => ?_) (progress.arrive start arrives u.advance_lasts)
          rcases List.mem_append.mp member with new | old
          · exact quietly v new
          · exact quiet v (List.mem_cons_of_mem w old)

theorem underway_run (reached : Reached t) (distinct : listeners.Nodup)
    (started : t.agenda = .announce change listeners :: pending) (harmless : t.IsHarmless pending.length)
    (n : Nat) (stays : t.Stays pending.length n) :
    t.Underway change listeners pending (t.after n) (t.reevaluations n) := by
  have start := reached.scheduled.numbered
  induction n with
  | zero => exact .going [] none listeners started (fun _ member => nomatch member) (.start start distinct)
  | succ n ih =>
      unfold reevaluations
      rw [trace_succ]
      exact underway_step start (reached.after n) (harmless n stays) (stays n (Nat.lt_succ_self n))
        (ih fun k below => stays k (Nat.lt_succ_of_lt below))

end

end Session

end CardExpr
