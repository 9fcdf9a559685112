import CardExpr.Proofs.Session.Handles

/-!
Callbacks are started on current values only and while their subscriptions are there, whatever other
callbacks do in between; once its handle is dropped a subscription hears nothing any more.
-/

namespace CardExpr

variable {ν : Type}

namespace Session

def Silent (s t : Session ν) : Prop := ∀ k, deliveries t.log k = deliveries s.log k

/-- One callback is started, which runs next: that of a subscription in the table of a card that is alive,
on the value that its expression has by now. -/
structure Starts (s t : Session ν) (i : ObserverId) (c : Card ν) (x : Subscription ν) (v : Value) : Prop where
  alive : t.isAlive i = true
  has : t.Has i c x
  current : (t.evaluateOn c x.expression).result = .ok v
  running : ∃ rest, t.agenda = .run (x.callback v) :: rest
  deliveries_eq : ∀ k, deliveries t.log k = deliveries s.log k ++ if k = x.ticket then [v] else []

/-- At most one callback is started, and on a current value. -/
def StartsOne (s t : Session ν) : Prop := Silent s t ∨ ∃ i c x v, Starts s t i c x v

theorem Calm.silent {s t : Session ν} (calm : Calm s t) : Silent s t := calm.deliveries_eq

theorem StartsOne.of_setAgenda {s t : Session ν} {works : List (Work ν)}
    (one : StartsOne { s with agenda := works } t) : StartsOne s t := by
  rcases one with silent | ⟨i, c, x, v, starts⟩
  · exact .inl silent
  · exact .inr ⟨i, c, x, v, starts.alive, starts.has, starts.current, starts.running, starts.deliveries_eq⟩

theorem isAlive_of_mentions {s : Session ν} {w : Work ν} {i : ObserverId} (pending : w ∈ s.agenda)
    (mentions : i ∈ w.mentions) : s.isAlive i = true := by
  unfold isAlive
  rw [Bool.or_eq_true, List.any_eq_true]
  exact .inr ⟨w, pending, List.contains_iff_mem.mpr mentions⟩

theorem Delivers.startsOne {s t : Session ν} {i : ObserverId} {d : Card ν} {x : Subscription ν}
    {evaluation : Evaluation} (delivers : Delivers s t i d x.ticket evaluation)
    (member : x ∈ d.subscriptions) (current : t.evaluateOn d x.expression = evaluation)
    {w : Work ν} (mentions : i ∈ w.mentions) (more : List (Work ν)) :
    StartsOne s (t.push (starts x.callback evaluation ++ w :: more)) := by
  have values := delivers.deliveries_eq
  cases outcome : evaluation.result with
  | error e =>
      refine .inl fun k => (values k).trans ?_
      rw [outcome]
      split <;> exact List.append_nil _
  | ok v =>
      refine .inr ⟨i, d, x, v, isAlive_of_mentions (w := w) ?_ mentions,
        ⟨(delivers.card?_eq i).trans (if_pos rfl), member⟩, ?_, ?_, fun k => (values k).trans ?_⟩
      · exact List.mem_append_left _ (List.mem_append_right _ List.mem_cons_self)
      · show (t.evaluateOn d x.expression).result = .ok v
        rw [current, outcome]
      · refine ⟨w :: more ++ t.agenda, ?_⟩
        unfold push starts
        rw [outcome]
        rfl
      · rw [outcome]
        rfl

theorem perform_startsOne (s : Session ν) (step : Step (Callback ν)) (more : List (Work ν)) :
    StartsOne s ((s.perform step).session.push ((s.perform step).works ++ more)) := by
  cases (s.perform_does step).deed with
  | calm calm => exact .inl calm.silent
  | write m _ _ stored =>
      refine .inl fun k => ?_
      show deliveries (s.perform step).session.log k = _
      rw [stored]
  | subscribe i c e callback _ before delivers tickets started =>
      rw [started, List.append_assoc]
      refine Delivers.startsOne (x := s.opening c s.tickets.length e callback) delivers
        (List.mem_append_right _ List.mem_cons_self) ?_ List.mem_cons_self more
      exact delivers.evaluateOn_eq c _ ⟨rfl, rfl, rfl⟩ e

theorem refresh_startsOne (s : Session ν) (i : ObserverId) (id : Nat) (rest : List Nat) :
    StartsOne s ((s.refresh i id).1.push ((s.refresh i id).2 ++ [.refresh i rest])) := by
  rcases s.refresh_cases i id with ⟨unchanged, -⟩ | ⟨c, x, before, found, same, delivers, -⟩
  · rw [unchanged]
    exact .inl fun _ => rfl
  · rw [works_refresh before found]
    refine Delivers.startsOne (x := x.renewed (s.evaluateOn c x.expression)) delivers ?_ ?_
      List.mem_cons_self []
    · exact List.mem_map.mpr ⟨x, List.mem_of_find?_eq_some found, if_pos rfl⟩
    · exact delivers.evaluateOn_eq c _ ⟨rfl, rfl, rfl⟩ x.expression

theorem advance_startsOne (s : Session ν) : StartsOne s s.advance := by
  cases next : s.agenda with
  | nil =>
      rw [advance_of_idle next]
      exact .inl fun _ => rfl
  | cons w rest =>
      rw [advance_eq next]
      cases w with
      | run script =>
          cases script with
          | done | ask => exact .inl fun _ => rfl
          | note content next' => exact .inl (Calm.record s (.noted content) fun _ => rfl).silent
          | act step next' => exact (perform_startsOne { s with agenda := rest } step _).of_setAgenda
      | announce change listeners =>
          cases listeners with
          | nil => exact .inl fun _ => rfl
          | cons i later =>
              obtain ⟨log, told, quiet⟩ := announce_silent ({ s with agenda := rest } : Session ν) change i
              rw [labor_announce, told]
              exact .inl quiet
      | refresh card ids =>
          cases ids with
          | nil => exact .inl fun _ => rfl
          | cons id later => exact (refresh_startsOne { s with agenda := rest } card id later).of_setAgenda
      | handOver => exact .inl fun _ => rfl

theorem Moves.startsOne {s t : Session ν} (moves : Moves s t) : StartsOne s t := by
  cases moves with
  | store parent inside => exact .inl (Calm.addStore s parent fun _ => inside).silent
  | card store functions config isLogged inside => exact .inl (Calm.addCard s _ rfl fun _ => inside).silent
  | watcher react => exact .inl (Calm.addWatcher s react).silent
  | observe store observer => exact .inl (Calm.observe s store observer).silent
  | step step =>
      have started := s.perform_startsOne step []
      rwa [List.append_nil] at started
  | work => exact s.advance_startsOne

/-- The ticket was taken and its subscription has ended. -/
structure Gone (s : Session ν) (ticket : Nat) : Prop where
  issued : ticket < s.tickets.length
  absent : ∀ i c x, s.Has i c x → x.ticket ≠ ticket

theorem Gone.moves {s t : Session ν} {ticket : Nat} (gone : s.Gone ticket) (numbered : s.Numbered)
    (moves : Moves s t) : t.Gone ticket := by
  refine ⟨Nat.lt_of_lt_of_le gone.issued moves.occurs.tickets_le, fun i d y has => ?_⟩
  rcases moves.occurs.origin numbered i d y has with ⟨c, x, old, same⟩ | ⟨-, new⟩
  · rw [same.ticket_eq]
    exact gone.absent i c x old
  · rw [new]
    exact Nat.ne_of_gt gone.issued

theorem Gone.later {s t : Session ν} {ticket : Nat} (gone : s.Gone ticket) (reached : Reached s)
    (later : Later s t) : t.Gone ticket ∧ deliveries t.log ticket = deliveries s.log ticket := by
  induction later with
  | refl => exact ⟨gone, rfl⟩
  | @tail u t before moves ih =>
      obtain ⟨between, same⟩ := ih
      have after := between.moves (reached.later before).scheduled.numbered moves
      refine ⟨after, Eq.trans ?_ same⟩
      rcases moves.startsOne with silent | ⟨i, c, x, v, starts⟩
      · exact silent ticket
      · have other : ticket ≠ x.ticket := fun same => after.absent i c x starts.has same.symm
        rw [starts.deliveries_eq, if_neg other, List.append_nil]

theorem Takes.drops {s u t : Session ν} {k : Nat} {i : ObserverId} {id : Nat} {pending : List (Work ν)}
    (takes : Takes s (.unsubscribe k) u pending t) (held : s.handle? k = some (i, id)) :
    t.log = s.log ∧ t.tickets.length = s.tickets.length ∧
      ∀ j, t.card? j = if i = j then (s.card? j).map (·.remove id) else s.card? j := by
  obtain ⟨⟨agenda, rfl⟩, same⟩ := takes.eq
  have performed : ({ s with agenda := agenda } : Session ν).perform (.unsubscribe k) =
      { outcome := .done
        session := ({ s with
          agenda := agenda
          tickets := s.tickets.modify k fun t => { t with handle := none } } : Session ν).modifyCard i
            (·.remove id) } := by
    simp only [perform]
    rw [show s.tickets[k]?.bind (·.handle) = some (i, id) from held]
  rw [performed] at same
  rw [same]
  exact ⟨rfl, List.length_modify _ _ _, fun j => card?_modifyCard _ i j _⟩

theorem Takes.has_iff {s u t : Session ν} {k : Nat} {i : ObserverId} {id : Nat} {pending : List (Work ν)}
    (takes : Takes s (.unsubscribe k) u pending t) (held : s.handle? k = some (i, id))
    (points : s.Points k i id) (j : ObserverId) (y : Subscription ν) :
    (∃ d, t.Has j d y) ↔ (∃ c, s.Has j c y) ∧ y.ticket ≠ k := by
  obtain ⟨-, -, cards⟩ := takes.drops held
  constructor
  · rintro ⟨d, found, member⟩
    rw [cards] at found
    split at found
    next here =>
      obtain ⟨c, before, rfl⟩ := Option.map_eq_some_iff.mp found
      obtain ⟨old, other⟩ := List.mem_filter.mp member
      have has : s.Has j c y := ⟨before, old⟩
      refine ⟨⟨c, has⟩, fun same => ?_⟩
      rw [((points.means j c y has).mp same).2] at other
      simp at other
    next elsewhere =>
      refine ⟨⟨d, found, member⟩, fun same => elsewhere ?_⟩
      exact ((points.means j d y ⟨found, member⟩).mp same).1.symm
  · rintro ⟨⟨c, has⟩, other⟩
    by_cases here : i = j
    · subst here
      refine ⟨c.remove id, (cards i).trans ?_, List.mem_filter.mpr ⟨has.2, ?_⟩⟩
      · rw [if_pos rfl, has.1]
        rfl
      · have apart : y.id ≠ id := fun same => other ((points.means i c y has).mpr ⟨rfl, same⟩)
        simpa using apart
    · exact ⟨c, (cards j).trans ((if_neg here).trans has.1), has.2⟩

/-- Deliveries are live and current. Each move starts at most one callback, which runs next: that of a
subscription in the table of a card that is alive, on the value of an evaluation by now. A handle belongs
to the subscription that took its ticket. Dropping it, from outside or in any callback and whatever is
pending, takes that subscription out and leaves all others as they were, and its callback is never started
again. A number of a card never comes to mean another subscription. -/
theorem deliveries_liveAndCurrent :
    ∀ {ν : Type} (s : Session ν), Reached s →
      (∀ t, Moves s t → StartsOne s t) ∧
      (∀ k i id, s.handle? k = some (i, id) →
        (∀ j c x, s.Has j c x → (x.ticket = k ↔ j = i ∧ x.id = id)) ∧
        ∀ u pending t, Takes s (.unsubscribe k) u pending t →
          (∀ j x, (∃ d, t.Has j d x) ↔ (∃ c, s.Has j c x) ∧ x.ticket ≠ k) ∧
          ∀ v, Later t v → deliveries v.log k = deliveries s.log k) ∧
      ∀ i c x, s.Has i c x → ∀ t, Later s t → ∀ d y, t.Has i d y → y.id = x.id → x.Same y := by
  intro ν s reached
  refine ⟨fun t moves => moves.startsOne, fun k i id held => ?_, fun i c x has t later => ?_⟩
  · have points := reached.handed k i id (.inl held)
    refine ⟨points.means, fun u pending t takes => ?_⟩
    have others := takes.has_iff held points
    refine ⟨others, fun v later => ?_⟩
    obtain ⟨log, tickets, -⟩ := takes.drops held
    have gone : t.Gone k :=
      ⟨tickets ▸ points.issued, fun j d y has => ((others j y).mp ⟨d, has⟩).2⟩
    rw [(gone.later (reached.move takes.moves) later).2, log]
  · exact (later.same_of_id reached has).2

/-- The callback that runs drops the handle of a ticket next, and these numbers wait on the card below. -/
def dropsNext? (s : Session ν) : Option (Nat × ObserverId × List Nat) :=
  match s.agenda with
  | .run (.act (.unsubscribe k) _) :: .refresh i ids :: _ => some (k, i, ids)
  | _ => none

theorem dropsNext?_eq_some {s : Session ν} {k : Nat} {i : ObserverId} {ids : List Nat}
    (drops : s.dropsNext? = some (k, i, ids)) :
    ∃ later rest, s.agenda = .run (.act (.unsubscribe k) later) :: .refresh i ids :: rest := by
  unfold dropsNext? at drops
  split at drops
  next later _ _ rest running =>
    cases drops
    exact ⟨later, rest, running⟩
  next => cases drops

/-- The first of two callbacks drops the handle of the second while that waits: the second hears nothing of
the change and, after the next one, still nothing. -/
theorem deliveries_liveAndCurrent_of_reentrant_drop :
    ∃ (s u t v : Session Unit) (pending : List (Work Unit)),
      Reached s ∧ s.handle? 1 = some (0, 2) ∧ .refresh 0 [2] ∈ s.agenda ∧
        Takes s (.unsubscribe 1) u pending t ∧ Later t v ∧ v.agenda = [] ∧
        (deliveries v.log 0).map (·.text) = ["1", "2", "3"] ∧ deliveries v.log 1 = deliveries s.log 1 ∧
        (deliveries v.log 1).map (·.text) = ["1"] := by
  let e : Expression := ⟨"@\x7bx\x7d", .tree (.variable "x")⟩
  let drop : Callback Unit := fun v =>
    if v.same (.integer 2) then .act (.unsubscribe 1) fun _ => .done else .done
  let quiet : Callback Unit := fun _ => .done
  let start : Session Unit := (({ now := .epoch } : Session Unit).addStore none).2
  let carded : Session Unit := (start.addCard (.fresh 0 {} {} false)).2
  let declared : Session Unit := (carded.take 20 (.declareAll 0 [.infer "x" (.integer 1)])).2
  let followed : Session Unit := ((declared.take 20 (.follow 0 e drop)).2.take 20 (.follow 0 e quiet)).2
  let write (value : Int64) : Step (Callback Unit) := .batchSet 0 [("x", .integer value)]
  let written : Session Unit := (followed.perform (write 2)).session.push (followed.perform (write 2)).works
  let s : Session Unit := written.advance.advance
  let t : Session Unit := s.advance
  let v : Session Unit := ((t.settle 20).take 20 (write 3)).2
  have reached : Reached s :=
    (((((((((Reached.start .epoch).store none fun p inside => nomatch inside).card 0 {} {} false
      Nat.zero_lt_one).take 20 _).take 20 _).take 20 _).step _).work).work)
  have held : s.handle? 1 = some (0, 2) := by decide +kernel
  have later : Later t v := (t.later_settle 20).trans (later_take _ 20 _)
  have finished : v.agenda = [] := List.isEmpty_iff.mp (by decide +kernel)
  obtain ⟨next, rest, running⟩ := dropsNext?_eq_some (show s.dropsNext? = some (1, 0, [2]) by decide +kernel)
  have waits : .refresh 0 [2] ∈ s.agenda := by
    rw [running]
    exact List.mem_cons_of_mem _ List.mem_cons_self
  have takes : Takes s (.unsubscribe 1) { s with agenda := .refresh 0 [2] :: rest } _ t := .inside running
  have silent := (((deliveries_liveAndCurrent s reached).2.1 1 0 2 held).2 _ _ t takes).2 v later
  exact ⟨s, _, t, v, _, reached, held, waits, takes, later, finished, by decide +kernel, silent,
    by decide +kernel⟩

end Session

end CardExpr
