import CardExpr.Proofs.Session.Schedule
import CardExpr.Proofs.Session.Step

/-! When nothing is left to do, every subscription is what an evaluation by now would make it. -/

namespace CardExpr.Session

variable {ν : Type}

theorem Scheduled.push {s : Session ν} (works : List (Work ν))
    (scheduled : s.Scheduled (works ++ s.agenda)) : (s.push works).Scheduled (s.push works).agenda :=
  scheduled.calm (.push s works)

theorem Scheduled.perform {s : Session ν} {pending : List (Work ν)} (scheduled : s.Scheduled pending)
    (step : Step (Callback ν)) :
    (s.perform step).session.Scheduled ((s.perform step).works ++ pending) :=
  scheduled.effect (s.perform_acts step).effect

theorem Scheduled.announce {s : Session ν} {change : StoreChange} {id : ObserverId}
    {rest : List ObserverId} {pending : List (Work ν)}
    (scheduled : s.Scheduled (.announce change (id :: rest) :: pending)) :
    (s.announce change id).1.Scheduled
      ((s.announce change id).2 ++ .announce change rest :: pending) := by
  -- Whoever is not `id` is told later or awaits other work, as before.
  have others : ∀ (works : List (Work ν)) (i : ObserverId) (x : Subscription ν) (w : Work ν), i ≠ id →
      w ∈ .announce change (id :: rest) :: pending → w.Awaits i x →
        ∃ w ∈ works ++ .announce change rest :: pending, w.Awaits i x := by
    intro works i x w other member awaits
    rcases List.mem_cons.mp member with rfl | later
    · have listens := (List.mem_cons.mp awaits.1).resolve_left other
      exact ⟨_, List.mem_append_right _ List.mem_cons_self, listens, awaits.2⟩
    · exact ⟨w, List.mem_append_right _ (List.mem_cons_of_mem _ later), awaits⟩
  unfold Session.announce
  cases here : s.observers[id]? with
  | none =>
      refine scheduled.replace fun i c x _ has w member awaits => .inr (others [] i x w ?_ member awaits)
      rintro rfl
      have found := has.1
      simp [card?, here] at found
  | some slot =>
      obtain ⟨observer, held⟩ := slot
      cases observer with
      | card c =>
          refine scheduled.replace fun i d x _ has w member awaits => .inr ?_
          by_cases same : i = id
          · subst same
            have found := has.1
            have card : c = d := by simpa [card?, here] using found
            subst card
            rcases List.mem_cons.mp member with rfl | later
            · have affected : x.id ∈ c.affected change :=
                List.mem_map.mpr ⟨x, List.mem_filter.mpr ⟨has.2, awaits.2⟩, rfl⟩
              exact ⟨_, List.mem_cons_self, rfl, affected⟩
            · exact ⟨w, List.mem_cons_of_mem _ (List.mem_cons_of_mem _ later), awaits⟩
          · exact others [.refresh id (c.affected change)] i x w same member awaits
      | watcher react =>
          refine (scheduled.replace fun i c x _ has w member awaits => .inr (others
            [.run (react change)] i x w ?_ member awaits)).calm (.record s _ fun _ => rfl)
          rintro rfl
          have found := has.1
          simp [card?, here] at found

/-- The subscription evaluated now is up to date, so it need not be evaluated later. -/
theorem fresh_refresh (s : Session ν) (numbered : s.Numbered) (i : ObserverId) (c : Card ν)
    (x : Subscription ν) (has : (s.refresh i x.id).1.Has i c x) : (s.refresh i x.id).1.Fresh c x := by
  rcases s.refresh_cases i x.id with ⟨unchanged, missing⟩ | ⟨c₀, x₀, before, found, same, delivers, -⟩
  · rw [unchanged] at has
    exact absurd rfl (missing c has.1 x has.2)
  · have old : s.Has i c₀ x₀ := ⟨before, List.mem_of_find?_eq_some found⟩
    rcases numbered.origin_refresh i c₀ x₀ old _ delivers i c x has with
      ⟨c', kept, -, -, other⟩ | ⟨-, sameCard, rfl⟩
    · have card : c' = c₀ := Option.some.inj (kept.1.symm.trans before)
      rw [card] at kept
      exact absurd (congrArg Subscription.ticket (numbered.eq_of_id kept old same.symm)) other
    · rw [sameCard]
      exact (s.fresh_renewed c₀ x₀).congr (delivers.evaluateOn_eq c₀ _ ⟨rfl, rfl, rfl⟩ x₀.expression)

theorem Scheduled.refresh {s : Session ν} {i : ObserverId} {id : Nat} {rest : List Nat}
    {pending : List (Work ν)} (scheduled : s.Scheduled (.refresh i (id :: rest) :: pending)) :
    (s.refresh i id).1.Scheduled ((s.refresh i id).2 ++ .refresh i rest :: pending) := by
  refine (scheduled.effect (s.refresh_effect i id)).replace fun j c x _ has w member awaits => ?_
  rcases List.mem_append.mp member with now | later
  · exact .inr ⟨w, List.mem_append_left _ now, awaits⟩
  · rcases List.mem_cons.mp later with rfl | later
    · obtain ⟨rfl, listed⟩ := awaits
      rcases List.mem_cons.mp listed with rfl | listed
      · exact .inl (s.fresh_refresh scheduled.numbered i c x has)
      · exact .inr ⟨_, List.mem_append_right _ List.mem_cons_self, rfl, listed⟩
    · exact .inr ⟨w, List.mem_append_right _ (List.mem_cons_of_mem _ later), awaits⟩

theorem announce_agenda (s : Session ν) (change : StoreChange) (id : ObserverId) :
    (s.announce change id).1.agenda = s.agenda := by
  unfold Session.announce
  split <;> rfl

/-- Doing a piece of work keeps every subscription that is not up to date waiting. -/
theorem Scheduled.work {s : Session ν} (w : Work ν) (scheduled : s.Scheduled (w :: s.agenda)) :
    (s.work w).Scheduled (s.work w).agenda := by
  cases w with
  | run script =>
      have idle : s.Scheduled s.agenda := scheduled.skip fun _ _ awaits => awaits
      cases script with
      | done => exact idle
      | ask next => exact (idle.mono fun _ => List.mem_cons_of_mem _).push [.run (next s.view)]
      | note content next =>
          have recorded : (s.record (.noted content)).Scheduled s.agenda :=
            idle.calm (.record s _ fun _ => rfl)
          exact (recorded.mono fun _ => List.mem_cons_of_mem _).push [.run next]
      | act step next =>
          have agenda := (s.perform_acts step).agenda_eq
          refine ((idle.perform step).mono fun w member => ?_).push _
          rw [agenda]
          rcases List.mem_append.mp member with now | later
          · exact List.mem_append_left _ (List.mem_append_left _ now)
          · exact List.mem_append_right _ later
  | announce change listeners =>
      cases listeners with
      | nil => exact scheduled.skip fun _ _ awaits => List.not_mem_nil awaits.1
      | cons id rest =>
          let t := s.push [.announce change rest]
          have told : (t.announce change id).1.Scheduled
              ((t.announce change id).2 ++ (t.announce change id).1.agenda) := by
            rw [announce_agenda]
            exact (scheduled.calm (.push s [.announce change rest])).announce
          exact told.push _
  | refresh card ids =>
      cases ids with
      | nil => exact scheduled.skip fun _ _ awaits => List.not_mem_nil awaits.2
      | cons id rest =>
          let t := s.push [.refresh card rest]
          have evaluated : (t.refresh card id).1.Scheduled
              ((t.refresh card id).2 ++ (t.refresh card id).1.agenda) := by
            rw [agenda_refresh]
            exact (scheduled.calm (.push s [.refresh card rest])).refresh
          exact evaluated.push _
  | handOver ticket card id =>
      have idle : s.Scheduled s.agenda := scheduled.skip fun _ _ awaits => awaits
      refine idle.calm (.of_same_observers rfl rfl rfl ?_ fun _ => rfl)
      exact Nat.le_of_eq (List.length_modify _ _ _).symm

theorem scheduled_start (now : Calendar.DateTime) :
    ({ now := now } : Session ν).Scheduled ({ now := now } : Session ν).agenda := by
  have empty : ∀ i c, ({ now := now } : Session ν).card? i ≠ some c := fun i c found => nomatch found
  have absent : ∀ i c x, ¬ ({ now := now } : Session ν).Has i c x := fun i c x has => empty i c has.1
  constructor
  · refine ⟨fun id o member => absurd member List.not_mem_nil, ?_, ?_⟩
    · exact fun i c found => absurd found (empty i c)
    · exact fun i c found => absurd found (empty i c)
  · constructor
    · exact fun i c found => absurd found (empty i c)
    · exact fun i c x has => absurd has (absent i c x)
    · exact fun i c x has => absurd has (absent i c x)
    · exact fun i c x j d y has => absurd has (absent i c x)
    · exact fun ticket _ => rfl
    · exact fun i c x has => absurd has (absent i c x)
  · exact fun i c x _ has => absurd has (absent i c x)

/-- In every session that can come about, each subscription that is not up to date is waiting. -/
theorem Reached.scheduled {s : Session ν} (reached : Reached s) : s.Scheduled s.agenda := by
  induction reached with
  | start now => exact scheduled_start now
  | store parent reached inside ih => exact ih.calm (.addStore _ parent fun _ => inside)
  | @card s store functions config isLogged reached inside ih =>
      have agenda : (s.addCard (.fresh store functions config isLogged)).2.agenda = s.agenda := by
        rw [addCard_eq]
        rfl
      rw [agenda]
      exact ih.calm (.addCard s _ rfl fun _ => inside)
  | watcher react reached ih => exact ih.calm (.addWatcher _ react)
  | observe store observer reached ih => exact ih.calm (.observe _ store observer)
  | @step s step reached ih =>
      refine Scheduled.push _ ?_
      rw [(s.perform_acts step).agenda_eq]
      exact ih.perform step
  | @work s reached ih =>
      unfold advance
      cases left : s.agenda with
      | nil => simpa only [left] using ih
      | cons w rest =>
          rw [left] at ih
          have taken : Calm s { s with agenda := rest } :=
            .of_same_observers rfl rfl rfl (Nat.le_refl _) fun _ => rfl
          exact (ih.calm taken).work w

/-- The subscription is what an evaluation by now would make it, and its callback was last started on the
value that it holds. Every evaluation that succeeds starts the callback, so where one by now would fail,
that is the value of the last one that succeeded. -/
structure UpToDate (s : Session ν) (c : Card ν) (x : Subscription ν) : Prop where
  reads_eq : x.reads = (s.evaluateOn c x.expression).reads
  last_eq : ∀ v, (s.evaluateOn c x.expression).result = .ok v → x.last = some v
  delivered : (deliveries s.log x.ticket).getLast? = x.last

/-- No update is lost. Once a step and all that callbacks made of it are done, the subscriptions of every
card that is still held are up to date. -/
theorem subscriptions_upToDate :
    ∀ (s : Session ν), Reached s → ∀ (fuel : Nat) (step : Step (Callback ν)),
      (s.take fuel step).2.agenda = [] →
        ∀ (i : ObserverId) (c : Card ν), (s.take fuel step).2.heldCard? i = some c →
          ∀ x ∈ c.subscriptions, (s.take fuel step).2.UpToDate c x := by
  intro s reached fuel step finished i c held x member
  have scheduled := (reached.take fuel step).scheduled
  obtain ⟨held, found⟩ := ((s.take fuel step).2.heldCard?_eq_some i c).mp held
  rw [finished] at scheduled
  rcases scheduled.covered i c x held ⟨found, member⟩ with fresh | ⟨w, pending, -⟩
  · exact ⟨fresh.reads_eq, fresh.last_eq, (scheduled.numbered.last_eq i c x ⟨found, member⟩).symm⟩
  · cases pending

/-- The first of two callbacks writes what both follow, so the second hears of the later value first. -/
theorem subscriptions_upToDate_of_reentrant_write :
    ∃ (s t : Session Unit) (c : Card Unit), Reached s ∧
      (s.take 20 (.batchSet 0 [("x", .integer 2)])).2 = t ∧ t.agenda = [] ∧ t.heldCard? 0 = some c ∧
      c.subscriptions.map (·.ticket) = [0, 1] ∧
      (deliveries t.log 0).map (·.text) = ["1", "2", "3"] ∧
      (deliveries t.log 1).map (·.text) = ["1", "3", "3"] ∧
      ∀ x ∈ c.subscriptions, t.UpToDate c x := by
  let e : Expression := ⟨"@\x7bx\x7d", .tree (.variable "x")⟩
  let write : Callback Unit := fun v =>
    if v.same (.integer 2) then .act (.batchSet 0 [("x", .integer 3)]) fun _ => .done else .done
  let quiet : Callback Unit := fun _ => .done
  let start : Session Unit := (({ now := .epoch } : Session Unit).addStore none).2
  let carded : Session Unit := (start.addCard (.fresh 0 {} {} false)).2
  let declared : Session Unit := (carded.take 20 (.declareAll 0 [.infer "x" (.integer 1)])).2
  let s : Session Unit := ((declared.take 20 (.follow 0 e write)).2.take 20 (.follow 0 e quiet)).2
  let t : Session Unit := (s.take 20 (.batchSet 0 [("x", .integer 2)])).2
  have reached : Reached s :=
    (((((Reached.start .epoch).store none fun p inside => nomatch inside).card 0 {} {} false
      Nat.zero_lt_one).take 20 _).take 20 _).take 20 _
  have finished : t.agenda = [] := List.isEmpty_iff.mp (by decide +kernel)
  have present : (t.heldCard? 0).isSome = true := by decide +kernel
  obtain ⟨c, held⟩ := Option.isSome_iff_exists.mp present
  have tickets : (t.heldCard? 0).map (fun c => c.subscriptions.map (·.ticket)) = some [0, 1] := by
    decide +kernel
  rw [held] at tickets
  exact ⟨s, t, c, reached, rfl, finished, held, Option.some.inj tickets, by decide +kernel, by decide +kernel,
    subscriptions_upToDate s reached 20 (.batchSet 0 [("x", .integer 2)]) finished 0 c held⟩

end CardExpr.Session
