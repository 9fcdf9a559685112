import CardExpr.Proofs.Session.Arrival
import CardExpr.Proofs.Session.Notification

/-!
Which subscriptions an operation on the variables has evaluated again, where callbacks do not write: those
of the called cards whose reads the change affects, each once and in the order of their numbers.
-/

namespace CardExpr

variable {ν : Type}

namespace Session

/-- The subscription that is evaluated again next, and its card. -/
def reevaluates? (s : Session ν) : Option (ObserverId × Subscription ν) :=
  match s.agenda with
  | .refresh i (id :: _) :: _ => ((s.card? i).bind (·.subscription? id)).map (i, ·)
  | _ => none

/-- The subscriptions that the first `n` pieces of work evaluate again, as they were until then. -/
def reevaluations (s : Session ν) (n : Nat) : List (ObserverId × Subscription ν) := trace reevaluates? s n

def numbersOf (i : ObserverId) (done : List (ObserverId × Subscription ν)) : List Nat :=
  (done.filter fun e => e.1 == i).map (·.2.id)

/-- The subscription was one of the card in `t`, or its number was not used there. -/
def Known (t : Session ν) (i : ObserverId) (x : Subscription ν) : Prop :=
  ∀ c, t.card? i = some c → x ∈ c.subscriptions ∨ c.nextId ≤ x.id

/-- The numbers that wait on a card, if it is the one whose turn it is. -/
def waiting (queue : Option (ObserverId × List Nat)) (i : ObserverId) : List Nat :=
  match queue with
  | some (j, ids) => if j = i then ids else []
  | none => []

/-- The state of an announcement that was made in `t`: the subscriptions in `done` were evaluated again,
the numbers in the queue wait for it, and the cards in `rest` have not heard yet. -/
structure Progress (t : Session ν) (change : StoreChange) (listeners : List ObserverId) (u : Session ν)
    (done : List (ObserverId × Subscription ν)) (queue : Option (ObserverId × List Nat))
    (rest : List ObserverId) : Prop where
  distinct : rest.Nodup
  subset : ∀ i ∈ rest, i ∈ listeners
  lasts : Lasts t u
  increasing : ∀ i, (numbersOf i done ++ waiting queue i).Pairwise (· < ·)
  untouched : ∀ i ∈ rest, numbersOf i done = [] ∧ waiting queue i = []
  affected : ∀ e ∈ done, e.1 ∈ listeners ∧ e.2.reads.isAffectedBy change = true ∧ t.Known e.1 e.2
  queued : ∀ i ids, queue = some (i, ids) → i ∈ listeners ∧
    (∃ c, u.card? i = some c ∧ ∀ id ∈ ids, id < c.nextId) ∧
    ∀ c y, u.Has i c y → y.id ∈ ids → y.reads.isAffectedBy change = true ∧ t.Known i y
  known : ∀ i ∈ rest, ∀ c y, u.Has i c y → t.Known i y
  due : ∀ i c x, i ∈ listeners → t.Has i c x → x.reads.isAffectedBy change = true →
    ∀ d y, u.Has i d y → y.id = x.id →
      (i, x) ∈ done ∨ y = x ∧ (i ∈ rest ∨ x.id ∈ waiting queue i)

theorem waiting_some (i : ObserverId) (ids : List Nat) : waiting (some (i, ids)) i = ids := if_pos rfl

theorem waiting_of_ne {i j : ObserverId} (ids : List Nat) (other : i ≠ j) : waiting (some (i, ids)) j = [] :=
  if_neg other

theorem numbersOf_concat (i : ObserverId) (done : List (ObserverId × Subscription ν)) (j : ObserverId)
    (x : Subscription ν) :
    numbersOf i (done ++ [(j, x)]) = numbersOf i done ++ if j = i then [x.id] else [] := by
  unfold numbersOf
  rw [List.filter_append, List.map_append]
  by_cases same : j = i
  · simp [same]
  · simp [same]

namespace Progress

variable {t u u' : Session ν} {change : StoreChange} {listeners rest : List ObserverId}
  {done : List (ObserverId × Subscription ν)} {queue : Option (ObserverId × List Nat)}

theorem start (numbered : t.Numbered) (distinct : listeners.Nodup) :
    t.Progress change listeners t [] none listeners where
  distinct := distinct
  subset _ := id
  lasts := .refl t
  increasing _ := .nil
  untouched _ _ := ⟨rfl, rfl⟩
  affected _ member := nomatch member
  queued _ _ none := nomatch none
  known i _ c y has d found := by
    cases has.1.symm.trans found
    exact .inl has.2
  due i c x listens old _ d y has same := by
    cases has.1.symm.trans old.1
    exact .inr ⟨numbered.eq_of_id has old same, .inl listens⟩

/-- Subscriptions that join meanwhile have new numbers and those that end leave no others behind. -/
theorem arrive (progress : t.Progress change listeners u done queue rest) (numbered : t.Numbered)
    (arrives : Arrives u u') (lasts : Lasts u u') : t.Progress change listeners u' done queue rest where
  distinct := progress.distinct
  subset := progress.subset
  lasts := progress.lasts.trans lasts
  increasing := progress.increasing
  untouched := progress.untouched
  affected := progress.affected
  queued i ids same := by
    obtain ⟨listens, ⟨c, before, below⟩, waits⟩ := progress.queued i ids same
    refine ⟨listens, ?_, fun d y has member => ?_⟩
    · obtain ⟨d, found, le⟩ := lasts i c before
      exact ⟨d, found, fun id member => Nat.lt_of_lt_of_le (below id member) le⟩
    · rcases arrives i d y has with ⟨c', old⟩ | new
      · exact waits c' y old member
      · exact absurd (below y.id member) (Nat.not_lt_of_le (new c before))
  known i member d y has := by
    rcases arrives i d y has with ⟨c', old⟩ | new
    · exact progress.known i member c' y old
    · intro c found
      obtain ⟨c', between, le⟩ := progress.lasts i c found
      exact .inr (Nat.le_trans le (new c' between))
  due i c x listens old affected d y has same := by
    rcases arrives i d y has with ⟨c', before⟩ | new
    · exact progress.due i c x listens old affected c' y before same
    · obtain ⟨c', between, le⟩ := progress.lasts i c old.1
      have used := numbered.below i c x old
      have unused := new c' between
      omega

theorem not_mem_rest {i : ObserverId} {id : Nat} {ids : List Nat}
    (progress : t.Progress change listeners u done (some (i, id :: ids)) rest) : i ∉ rest := by
  intro member
  have idle := (progress.untouched i member).2
  rw [waiting_some] at idle
  cases idle

theorem pass {i : ObserverId} {id : Nat} {ids : List Nat}
    (progress : t.Progress change listeners u done (some (i, id :: ids)) rest)
    (absent : ∀ c y, u.Has i c y → y.id ≠ id) :
    t.Progress change listeners u done (some (i, ids)) rest where
  distinct := progress.distinct
  subset := progress.subset
  lasts := progress.lasts
  increasing j := by
    refine (progress.increasing j).sublist (List.Sublist.append (.refl _) ?_)
    unfold waiting
    dsimp only
    split
    · exact List.sublist_cons_self id ids
    · exact .refl _
  untouched j member := by
    refine ⟨(progress.untouched j member).1, waiting_of_ne ids ?_⟩
    rintro rfl
    exact progress.not_mem_rest member
  affected := progress.affected
  queued j others same := by
    cases same
    obtain ⟨listens, ⟨c, found, below⟩, waits⟩ := progress.queued i (id :: ids) rfl
    exact ⟨listens, ⟨c, found, fun n member => below n (List.mem_cons_of_mem id member)⟩,
      fun c y has member => waits c y has (List.mem_cons_of_mem id member)⟩
  known := progress.known
  due j c x listens old affected d y has same := by
    rcases progress.due j c x listens old affected d y has same with evaluated | ⟨kept, later | waits⟩
    · exact .inl evaluated
    · exact .inr ⟨kept, .inl later⟩
    · by_cases turn : i = j
      · subst turn
        rw [waiting_some] at waits ⊢
        rcases List.mem_cons.mp waits with now | later
        · exact absurd (same.trans now) (absent d y has)
        · exact .inr ⟨kept, .inr later⟩
      · rw [waiting_of_ne _ turn] at waits
        cases waits

theorem renew {i : ObserverId} {ids : List Nat} {c : Card ν} {x : Subscription ν} {evaluation : Evaluation}
    (progress : t.Progress change listeners u done (some (i, x.id :: ids)) rest) (numbered : u.Numbered)
    (has : u.Has i c x)
    (delivers : Delivers u u' i (c.update x.id (.renewed evaluation)) x.ticket evaluation) :
    t.Progress change listeners u' (done ++ [(i, x)]) (some (i, ids)) rest := by
  have outside := progress.not_mem_rest
  obtain ⟨listens, ⟨c₀, found, below⟩, waits⟩ := progress.queued i (x.id :: ids) rfl
  have now := waits c x has List.mem_cons_self
  have later : x.id ∉ ids := by
    have order := progress.increasing i
    rw [waiting_some, List.pairwise_append] at order
    exact fun again => Nat.lt_irrefl _ ((List.pairwise_cons.mp order.2.1).1 x.id again)
  have origin := numbered.origin_refresh i c x has evaluation delivers
  have lasts : Lasts u u' := .of_delivers delivers has.1 (Nat.le_refl _)
  refine ⟨progress.distinct, progress.subset, progress.lasts.trans lasts, fun j => ?_, fun j member => ?_,
    fun e member => ?_, fun j others same => ?_, fun j member d y after => ?_,
    fun j d x' listening old affected e y after same => ?_⟩
  · rw [numbersOf_concat]
    by_cases turn : i = j
    · subst turn
      rw [if_pos rfl, waiting_some, List.append_assoc, List.singleton_append]
      simpa only [waiting_some] using progress.increasing i
    · rw [if_neg turn, List.append_nil, waiting_of_ne _ turn]
      simpa only [waiting_of_ne _ turn] using progress.increasing j
  · have other : i ≠ j := fun same => outside (same ▸ member)
    rw [numbersOf_concat, if_neg other, List.append_nil]
    exact ⟨(progress.untouched j member).1, waiting_of_ne ids other⟩
  · rcases List.mem_append.mp member with before | last
    · exact progress.affected e before
    · rw [List.mem_singleton.mp last]
      exact ⟨listens, now⟩
  · cases same
    refine ⟨listens, ?_, fun d y after member => ?_⟩
    · obtain ⟨d, after, le⟩ := lasts i c₀ found
      exact ⟨d, after, fun id member => Nat.lt_of_lt_of_le (below id (List.mem_cons_of_mem _ member)) le⟩
    · rcases origin i d y after with ⟨c', old, -⟩ | ⟨-, -, rfl⟩
      · exact waits c' y old (List.mem_cons_of_mem _ member)
      · exact absurd member later
  · rcases origin j d y after with ⟨c', old, -⟩ | ⟨rfl, -, -⟩
    · exact progress.known j member c' y old
    · exact absurd member outside
  · rcases origin j e y after with ⟨c', before, -, -, apart⟩ | ⟨rfl, -, rfl⟩
    · rcases progress.due j d x' listening old affected c' y before same with
        evaluated | ⟨kept, rests | wait⟩
      · exact .inl (List.mem_append_left _ evaluated)
      · exact .inr ⟨kept, .inl rests⟩
      · by_cases turn : i = j
        · subst turn
          rw [waiting_some] at wait ⊢
          rcases List.mem_cons.mp wait with this | wait
          · cases before.1.symm.trans has.1
            have same : y = x := numbered.eq_of_id before has (same.trans this)
            exact absurd (congrArg Subscription.ticket same) apart
          · exact .inr ⟨kept, .inr wait⟩
        · rw [waiting_of_ne _ turn] at wait
          cases wait
    · rcases progress.due j d x' listening old affected c x has same with evaluated | ⟨kept, -⟩
      · exact .inl (List.mem_append_left _ evaluated)
      · rw [← kept]
        exact .inl (List.mem_append_right _ (List.mem_singleton.mpr rfl))

theorem finish {i : ObserverId} (progress : t.Progress change listeners u done (some (i, [])) rest) :
    t.Progress change listeners u done none rest := by
  have empty (j : ObserverId) : waiting (some (i, [])) j = waiting none j := ite_self _
  refine ⟨progress.distinct, progress.subset, progress.lasts, fun j => ?_, fun j member => ?_,
    progress.affected, fun _ _ none => (nomatch none), progress.known,
    fun j c x listens old affected d y has same => ?_⟩
  · rw [← empty]
    exact progress.increasing j
  · exact ⟨(progress.untouched j member).1, rfl⟩
  · rw [← empty]
    exact progress.due j c x listens old affected d y has same

theorem ignore {i : ObserverId} (progress : t.Progress change listeners u done none (i :: rest))
    (absent : u.card? i = none) : t.Progress change listeners u done none rest where
  distinct := (List.nodup_cons.mp progress.distinct).2
  subset j member := progress.subset j (List.mem_cons_of_mem i member)
  lasts := progress.lasts
  increasing := progress.increasing
  untouched j member := progress.untouched j (List.mem_cons_of_mem i member)
  affected := progress.affected
  queued := progress.queued
  known j member := progress.known j (List.mem_cons_of_mem i member)
  due j c x listens old affected d y has same := by
    refine (progress.due j c x listens old affected d y has same).imp_right fun ⟨kept, later⟩ => ?_
    refine ⟨kept, later.imp_left fun member => (List.mem_cons.mp member).resolve_left ?_⟩
    rintro rfl
    cases absent.symm.trans has.1

theorem hear {i : ObserverId} {c : Card ν} (progress : t.Progress change listeners u done none (i :: rest))
    (ordered : u.Ordered) (numbered : u.Numbered) (found : u.card? i = some c) :
    t.Progress change listeners u done (some (i, c.affected change)) rest := by
  obtain ⟨outside, distinct⟩ := List.nodup_cons.mp progress.distinct
  have affected_of_mem (y : Subscription ν) (has : u.Has i c y) (member : y.id ∈ c.affected change) :
      y.reads.isAffectedBy change = true := by
    obtain ⟨x, present, same⟩ := List.mem_map.mp member
    obtain ⟨present, affected⟩ := List.mem_filter.mp present
    rw [← numbered.eq_of_id ⟨found, present⟩ has same]
    exact affected
  refine ⟨distinct, fun j member => progress.subset j (List.mem_cons_of_mem i member), progress.lasts,
    fun j => ?_, fun j member => ?_, progress.affected, fun j ids same => ?_,
    fun j member => progress.known j (List.mem_cons_of_mem i member),
    fun j d x listens old affected e y has same => ?_⟩
  · by_cases turn : i = j
    · subst turn
      rw [(progress.untouched i List.mem_cons_self).1, waiting_some]
      exact (ordered i c found).sublist (List.filter_sublist.map _)
    · rw [waiting_of_ne _ turn]
      exact progress.increasing j
  · have other : i ≠ j := fun same => outside (same ▸ member)
    exact ⟨(progress.untouched j (List.mem_cons_of_mem i member)).1, waiting_of_ne _ other⟩
  · cases same
    refine ⟨progress.subset i List.mem_cons_self, ⟨c, found, fun id member => ?_⟩,
      fun d y has member => ?_⟩
    · obtain ⟨x, present, rfl⟩ := List.mem_map.mp member
      exact numbered.below i c x ⟨found, List.mem_of_mem_filter present⟩
    · cases found.symm.trans has.1
      exact ⟨affected_of_mem y has member, progress.known i List.mem_cons_self c y has⟩
  · rcases progress.due j d x listens old affected e y has same with evaluated | ⟨rfl, later | waits⟩
    · exact .inl evaluated
    · refine .inr ⟨rfl, ?_⟩
      rcases List.mem_cons.mp later with rfl | later
      · cases found.symm.trans has.1
        rw [waiting_some]
        exact .inr (List.mem_map.mpr ⟨y, List.mem_filter.mpr ⟨has.2, affected⟩, rfl⟩)
      · exact .inl later
    · cases waits

end Progress

theorem reevaluates?_of_quiet {s : Session ν} {w : Work ν} {rest : List (Work ν)}
    (next : s.agenda = w :: rest) (quiet : w.IsQuiet) : s.reevaluates? = none := by
  unfold reevaluates?
  rw [next]
  cases w with
  | run | handOver => rfl
  | announce | refresh => cases quiet

theorem reevaluation_cases {s : Session ν} {i : ObserverId} {id : Nat} {ids : List Nat}
    {below : List (Work ν)} (next : s.agenda = .refresh i (id :: ids) :: below) :
    (s.reevaluates? = none ∧ (∀ c x, s.Has i c x → x.id ≠ id) ∧ Arrives s s.advance) ∨
    ∃ c x, s.reevaluates? = some (i, x) ∧ s.Has i c x ∧ x.id = id ∧
      Delivers s s.advance i (c.update x.id (.renewed (s.evaluateOn c x.expression))) x.ticket
        (s.evaluateOn c x.expression) := by
  have seen : s.reevaluates? = ((s.card? i).bind (·.subscription? id)).map (i, ·) := by
    unfold reevaluates?
    rw [next]
  rw [seen, advance_eq next, labor_refresh]
  rcases refresh_cases ({ s with agenda := below } : Session ν) i id with
    ⟨unchanged, absent⟩ | ⟨c, x, before, found, same, delivers, -⟩
  · refine .inl ⟨?_, fun c x has => absent c has.1 x has.2, ?_⟩
    · rw [Option.map_eq_none_iff, Option.bind_eq_none_iff]
      intro c before
      refine List.find?_eq_none.mpr fun x member => ?_
      simpa using absent c before x member
    · rw [unchanged]
      exact .of_same_cards fun _ => rfl
  · refine .inr ⟨c, x, ?_, ⟨before, List.mem_of_find?_eq_some found⟩, same, ?_⟩
    · rw [show s.card? i = some c from before, Option.bind_some, found]
      rfl
    · exact ⟨delivers.now_eq, delivers.stores_eq, delivers.isHeld_eq, delivers.card?_eq,
        delivers.deliveries_eq⟩

end Session

end CardExpr
