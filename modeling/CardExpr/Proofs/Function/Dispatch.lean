import CardExpr.Proofs.Function.Acceptance
import CardExpr.Proofs.Function.Registration

/-!
Which function a call selects. The levels of a registry are searched in their order, and each in the order of
its registrations.
-/

namespace CardExpr

namespace Registry

/-- What was registered on the levels of a chain: on its own, and on those below it, the nearest first. -/
inductive Registered : Registry → List (CallKind × Function) → List (List (CallKind × Function)) → Prop where
  | empty : Registered {} [] []
  | child {r : Registry} {own : List (CallKind × Function)} {outer : List (List (CallKind × Function))}
      (below : Registered r own outer) : Registered r.child [] (own :: outer)
  | add {r : Registry} {own : List (CallKind × Function)} {outer : List (List (CallKind × Function))}
      (before : Registered r own outer) (kind : CallKind) (f : Function) :
      Registered (r.add kind f) (own ++ [(kind, f)]) outer

/-- The functions or methods of a name, in the order of the levels and of their registrations. -/
def offered (layers : List (List (CallKind × Function))) (kind : CallKind) (name : String) : List Function :=
  (layers.flatten.filter fun entry => entry.1 = kind ∧ entry.2.name = name).map (·.2)

/-- How a call is settled among the functions of its name. -/
inductive Settles (fs : List Function) (kind : CallKind) (name : String) (values : List Value) :
    Except EvalError Function → Prop where
  | selected {before after : List Function} {f : Function} (listed : fs = before ++ f :: after)
      (takes : f.signature.Takes values) (others : ∀ g ∈ before, ¬ g.signature.Takes values) :
      Settles fs kind name values (.ok f)
  | unknown (none : ∀ f ∈ fs, ¬ f.signature.Counts values.length) :
      Settles fs kind name values (.error (.unknownFunction kind name values.length))
  | mismatch {before after : List Function} {f : Function} {e : ArgumentTypeError}
      (listed : fs = before ++ f :: after) (counts : f.signature.Counts values.length)
      (others : ∀ g ∈ before, ¬ g.signature.Counts values.length)
      (none : ∀ g ∈ fs, ¬ g.signature.Takes values) (misfits : f.Misfits values e) :
      Settles fs kind name values (.error (.argumentType e))

variable {r : Registry} {own : List (CallKind × Function)} {outer : List (List (CallKind × Function))}
  {kind : CallKind} {name : String} {values : List Value}

theorem offered_cons (layer : List (CallKind × Function)) (outer : List (List (CallKind × Function)))
    (kind : CallKind) (name : String) :
    offered (layer :: outer) kind name = offered [layer] kind name ++ offered outer kind name := by
  simp [offered]

theorem Registered.overloads_eq (registered : r.Registered own outer) (kind : CallKind) (name : String) :
    r.own.overloads kind name = offered [own] kind name ∧
      r.ancestors.flatMap (·.overloads kind name) = offered outer kind name := by
  induction registered with
  | empty => cases kind <;> exact ⟨rfl, rfl⟩
  | child below ih =>
      refine ⟨by cases kind <;> rfl, ?_⟩
      rw [offered_cons, ← ih.1, ← ih.2]
      exact List.flatMap_cons
  | add before other f ih =>
      refine ⟨?_, ih.2⟩
      refine (Level.overloads_add _ other kind f name).trans ?_
      rw [ih.1]
      by_cases here : other = kind ∧ f.name = name <;> simp [offered, here]

/-- Among the functions of its name a call looks for one that accepts the arguments, then for one that takes
so many. -/
theorem select_eq (registered : r.Registered own outer) :
    r.select kind name values =
      match (offered (own :: outer) kind name).find? (·.accepts values) with
      | some f => .ok f
      | none =>
        match (offered (own :: outer) kind name).find? (·.signature.arity.admits values.length) with
        | some f =>
          match f.checkArgs values with
          | .error e => .error (.argumentType e)
          | .ok _ => .ok f
        | none => .error (.unknownFunction kind name values.length) := by
  have named : r.overloads kind name = offered (own :: outer) kind name := by
    obtain ⟨here, below⟩ := registered.overloads_eq kind name
    rw [Registry.overloads_eq, here, below, ← offered_cons]
  unfold select candidates
  rw [named]
  have both : (fun f : Function => decide (f.signature.arity.admits values.length = true ∧
    f.accepts values = true)) =
      (·.accepts values) := by
    funext f
    simp [Function.accepts]
  have first : (offered (own :: outer) kind name).find? (·.signature.arity.admits values.length) =
      ((offered (own :: outer) kind name).filter (·.signature.arity.admits values.length)).head? :=
    List.head?_filter.symm
  dsimp only
  rw [List.find?_filter, both, first]
  cases (offered (own :: outer) kind name).find? (·.accepts values) with
  | some f => rfl
  | none => cases (offered (own :: outer) kind name).filter (·.signature.arity.admits values.length) <;> rfl

theorem settles_of_registered (registered : r.Registered own outer) (outcome : Except EvalError Function) :
    r.select kind name values = outcome ↔
      Settles (offered (own :: outer) kind name) kind name values outcome := by
  rw [select_eq registered]
  generalize offered (own :: outer) kind name = fs
  constructor
  · rintro rfl
    split
    next f found =>
      obtain ⟨accepts, before, after, listed, others⟩ := List.find?_eq_some_iff_append.mp found
      refine .selected listed (Function.accepts_iff.mp accepts) fun g member takes => ?_
      simpa [Function.accepts_iff.mpr takes] using others g member
    next refused =>
      have none (g : Function) (member : g ∈ fs) : ¬ g.signature.Takes values :=
        mt Function.accepts_iff.mpr (List.find?_eq_none.mp refused g member)
      split
      next f found =>
        obtain ⟨admits, before, after, listed, others⟩ := List.find?_eq_some_iff_append.mp found
        have counts := (Signature.admits_iff _).mp admits
        have fewer (g : Function) (member : g ∈ before) : ¬ g.signature.Counts values.length := by
          intro counts
          simpa [(Signature.admits_iff _).mpr counts] using others g member
        split
        next e failed =>
          have misfits := (Function.checkArgs_eq_error_iff counts e).mp failed
          exact .mismatch listed counts fewer none misfits
        next args checked =>
          have accepts := Function.accepts_iff_checkArgs.mpr ⟨counts, args, checked⟩
          exact absurd (Function.accepts_iff.mp accepts) (none f (by simp [listed]))
      next uncounted =>
        exact .unknown fun f member =>
          mt (Signature.admits_iff _).mpr (List.find?_eq_none.mp uncounted f member)
  · have refused (none : ∀ g ∈ fs, ¬ g.signature.Takes values) : fs.find? (·.accepts values) = .none :=
      List.find?_eq_none.mpr fun g member => mt Function.accepts_iff.mp (none g member)
    intro settles
    cases settles with
    | @selected before after f listed takes others =>
        have found : fs.find? (·.accepts values) = some f :=
          List.find?_eq_some_iff_append.mpr ⟨Function.accepts_iff.mpr takes, before, after, listed,
            fun g member => by simpa using mt Function.accepts_iff.mp (others g member)⟩
        rw [found]
    | unknown none =>
        have uncounted : fs.find? (·.signature.arity.admits values.length) = .none :=
          List.find?_eq_none.mpr fun g member => mt (Signature.admits_iff _).mp (none g member)
        rw [refused fun g member takes => none g member takes.counts, uncounted]
    | @mismatch before after f e listed counts others none misfits =>
        have found : fs.find? (·.signature.arity.admits values.length) = some f :=
          List.find?_eq_some_iff_append.mpr ⟨(Signature.admits_iff _).mpr counts, before, after, listed,
            fun g member => by simpa using mt (Signature.admits_iff _).mp (others g member)⟩
        rw [refused none, found]
        simp only [(Function.checkArgs_eq_error_iff counts e).mpr misfits]

theorem Registered.builtins :
    builtins.Registered (Builtin.entries.map fun e => (e.kind, e.function)) [] := by
  unfold Registry.builtins
  generalize Builtin.entries = entries
  have step (entries : List Builtin.Entry) (r : Registry) (own : List (CallKind × Function))
      (before : r.Registered own []) :
      (entries.foldl (fun r e => r.add e.kind e.function) r).Registered
        (own ++ entries.map fun e => (e.kind, e.function)) [] := by
    induction entries generalizing r own with
    | nil => simpa using before
    | cons e rest ih => simpa using ih _ _ (before.add e.kind e.function)
  exact step entries {} [] .empty

theorem Reachable.registered (reachable : r.Reachable) : ∃ own outer, r.Registered own outer := by
  refine @Reachable.induction r (fun r => ∃ own outer, r.Registered own outer) ⟨[], [], .empty⟩
    ⟨_, _, .builtins⟩ ?_ ?_ reachable
  · rintro r ⟨own, outer, registered⟩
    exact ⟨_, _, registered.child⟩
  · rintro r op f ⟨own, outer, registered⟩ - -
    exact ⟨_, _, registered.add .function f⟩

/-- Every registry that comes about has a list of what was registered on its levels. By it, a call selects
the first function of its name that takes the arguments; without one, it fails as unknown where none takes so
many arguments, and else for the first argument that the first one to take so many has another type for. What
accepts arguments is what takes so many and passes them in its check. The check hands them on as they are, but
for integers where a number is declared, and what it hands on it leaves alone. -/
theorem dispatch_exact :
    (∀ r : Registry, r.Reachable → ∃ own outer, r.Registered own outer) ∧
      (∀ (r : Registry) (own : List (CallKind × Function)) (outer : List (List (CallKind × Function))),
        r.Registered own outer → ∀ kind name values outcome, r.select kind name values = outcome ↔
          Settles (offered (own :: outer) kind name) kind name values outcome) ∧
      (∀ (f : Function) (values : List Value), f.accepts values = true ↔
        f.signature.Counts values.length ∧ ∃ args, f.checkArgs values = .ok args) ∧
      ∀ (f : Function) (values : List Value) (args : Args), f.checkArgs values = .ok args →
        f.Widens values args ∧ f.checkArgs args.values = .ok args :=
  ⟨fun _ reachable => reachable.registered,
    fun _ _ _ registered _ _ _ outcome => settles_of_registered registered outcome,
    fun _ _ => Function.accepts_iff_checkArgs,
    fun _ _ _ checked => ⟨Function.widens_of_checkArgs checked, Function.checkArgs_again checked⟩⟩

/-- An integer passes by a nearer function of booleans and is widened for one of numbers below it; a text is
refused in the words of the nearer one. -/
theorem dispatch_exact_of_widening :
    ∃ (r : Registry) (own : List (CallKind × Function)) (outer : List (List (CallKind × Function)))
      (f g : Function) (args : Args),
      r.Registered own outer ∧
        Settles (offered (own :: outer) .function "f") .function "f" [.integer 1] (.ok g) ∧
        Settles (offered (own :: outer) .function "f") .function "f" [.string "a"]
          (.error (.argumentType ⟨"f", 1, "boolean", .string⟩)) ∧
        f ∈ offered (own :: outer) .function "f" ∧ f.accepts [.integer 1] = false ∧
        g.signature.Counts 1 ∧ g.Widens [.integer 1] args ∧
        args.values = [.number (Int64.toFloat 1)] ∧ g.checkArgs args.values = .ok args := by
  let body : NativeBody := .pure fun _ => .ok (.boolean true)
  let f : Function := ⟨"f", ⟨[.of .boolean], none, .boolean⟩, .native body⟩
  let g : Function := ⟨"f", ⟨[.of .number], none, .boolean⟩, .native body⟩
  let r : Registry := (Registry.child (({} : Registry).add .function g)).add .function f
  let args : Args := ⟨"f", [.number (Int64.toFloat 1)]⟩
  have registered : r.Registered [(.function, f)] [[(.function, g)]] :=
    .add (.child (.add .empty .function g)) .function f
  obtain ⟨-, settles, accepts, checked⟩ := dispatch_exact
  have settled := settles r _ _ registered .function "f"
  obtain ⟨widens, again⟩ := checked g [.integer 1] args rfl
  exact ⟨r, _, _, f, g, args, registered, (settled [.integer 1] _).mp rfl, (settled [.string "a"] _).mp rfl,
    List.mem_cons_self, rfl, ((accepts g [.integer 1]).mp rfl).1, widens, rfl, again⟩

end Registry

end CardExpr
