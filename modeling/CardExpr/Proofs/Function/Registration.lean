import Mathlib.Data.List.Pairwise
import CardExpr.Builtin.Registry
import CardExpr.Proofs.Function.Overloads

/-!
The registries that can come about. A registration never changes what an existing call selects: it is
refused where its argument counts meet those of a function of the same name.
-/

namespace CardExpr

theorem Arity.overlaps_comm (a b : Arity) : a.overlaps b = b.overlaps a := by
  apply Bool.eq_iff_iff.mpr
  rw [overlaps_iff, overlaps_iff]
  exact exists_congr fun n => and_comm

theorem exists_of_isSome {ε α : Type} {x : Except ε α} (done : x.toOption.isSome = true) :
    ∃ a, x = .ok a := by
  cases x with
  | error e => cases done
  | ok a => exact ⟨a, rfl⟩

namespace CustomFunction

theorem nodup_of_firstRepeated {seen names : List String} (none : firstRepeated seen names = none) :
    names.Nodup ∧ ∀ name ∈ names, name ∉ seen := by
  induction names generalizing seen with
  | nil => simp
  | cons name rest ih =>
      unfold firstRepeated at none
      split at none
      next => cases none
      next unseen =>
        obtain ⟨nodup, fresh⟩ := ih none
        have once : name ∉ rest := fun again => fresh name again List.mem_cons_self
        refine ⟨List.nodup_cons.mpr ⟨once, nodup⟩, List.forall_mem_cons.mpr ⟨by simpa using unseen, ?_⟩⟩
        exact fun n member known => fresh n member (List.mem_cons_of_mem name known)

/-- A declaration compiles if its arguments have names of their own, and its body can be read and refers to
no other name. -/
theorem compile_eq_ok {d : FunctionDeclaration} {g : CustomFunction} (compiles : compile d = .ok g) :
    (g.arguments.map (·.name)).Nodup ∧ (∀ name ∈ g.body.variableNames, name ∈ g.arguments.map (·.name)) ∧
      Expression.parse d.body = .ok g.body ∧
      g.name = d.name ∧ g.arguments = d.arguments ∧ g.returnType = d.returnType := by
  unfold compile at compiles
  extract_lets names at compiles
  split at compiles
  next => cases compiles
  next distinct =>
    split at compiles
    next => cases compiles
    next body parsed =>
      split at compiles
      next => cases compiles
      next known =>
        cases compiles
        refine ⟨(nodup_of_firstRepeated distinct).1, ?_, parsed, rfl, rfl, rfl⟩
        intro name referred
        have declared := List.find?_eq_none.mp known name referred
        simpa [names] using declared

end CustomFunction

/-- One of the functions or methods that exist before any registration. -/
def Function.IsBuiltin (kind : CallKind) (f : Function) : Prop := ⟨kind, f⟩ ∈ Builtin.entries

def FunctionDeclaration.compiled (d : FunctionDeclaration) (g : CustomFunction) : Function :=
  ⟨d.name, g.signature, .custom g⟩

/-- What is done to a registry: registering a function, one of a card, or beginning a level over it. -/
inductive Operation where
  | register (name : String) (signature : Signature) (body : NativeBody)
  | registerCustom (declaration : FunctionDeclaration)
  | child

/-- The operation registers this function, unless its name is taken. -/
inductive Operation.Offers : Operation → Function → Prop where
  | native {name signature body} :
      Offers (.register name signature body) ⟨name, signature, .native body⟩
  | custom {d g} (compiles : CustomFunction.compile d = .ok g) :
      Offers (.registerCustom d) (d.compiled g)

namespace Registry

def attempt (r : Registry) : Operation → Except RegistryError Registry
  | .register name signature body => r.register name signature body
  | .registerCustom d => r.registerCustom d
  | .child => .ok r.child

/-- The registry that an operation leaves. A refused one leaves the registry that there was. -/
def after (r : Registry) (op : Operation) : Registry :=
  match r.attempt op with
  | .ok t => t
  | .error _ => r

/-- The registries that come about by operations, from the built-in functions or from none. -/
inductive Reachable : Registry → Prop where
  | empty : Reachable {}
  | builtins : Reachable .builtins
  | step {r : Registry} (op : Operation) (reachable : Reachable r) : Reachable (r.after op)

/-- Some function of the name, in the registry or below it, takes as many arguments as the arity
admits. -/
def Takes (r : Registry) (name : String) (arity : Arity) : Prop :=
  ∃ l ∈ r.levels, ∃ f ∈ l.overloads .function name,
    ∃ n, f.signature.arity.admits n = true ∧ arity.admits n = true

variable {r t : Registry} {f : Function}

theorem isFree_iff (r : Registry) (name : String) (arity : Arity) :
    r.isFree name arity = true ↔ ¬ r.Takes name arity := by
  simp only [isFree, List.all_eq_true, Bool.not_eq_true', Takes, overloads, List.mem_flatMap]
  constructor
  · rintro free ⟨l, level, f, member, common⟩
    have apart := free f ⟨l, level, member⟩
    rw [(Arity.overlaps_iff _ _).mpr common] at apart
    cases apart
  · rintro untaken f ⟨l, level, member⟩
    apply Bool.eq_false_iff.mpr
    intro overlaps
    exact untaken ⟨l, level, f, member, (Arity.overlaps_iff _ _).mp overlaps⟩

theorem takes_of_candidate {name : String} {count : Nat} {arity : Arity}
    (candidate : f ∈ r.candidates .function name count) (admits : arity.admits count = true) :
    r.Takes name arity := by
  obtain ⟨member, admitted⟩ := List.mem_filter.mp candidate
  obtain ⟨l, level, listed⟩ := List.mem_flatMap.mp member
  exact ⟨l, level, f, listed, count, admitted, admits⟩

theorem insert_eq_ok_iff : r.insert f = .ok t ↔
    ¬ r.Takes f.name f.signature.arity ∧ t = r.add .function f := by
  unfold insert
  by_cases free : r.isFree f.name f.signature.arity = true
  · have untaken := (isFree_iff r f.name f.signature.arity).mp free
    simp [free, untaken, eq_comm]
  · have taken := not_imp_comm.mp (isFree_iff r f.name f.signature.arity).mpr free
    simp [free, taken]

theorem insert_eq_error_iff (e : RegistryError) : r.insert f = .error e ↔
    r.Takes f.name f.signature.arity ∧ e = .duplicateFunction f.name f.signature.arity.least := by
  unfold insert
  by_cases free : r.isFree f.name f.signature.arity = true
  · have untaken := (isFree_iff r f.name f.signature.arity).mp free
    simp [free, untaken]
  · have taken := not_imp_comm.mp (isFree_iff r f.name f.signature.arity).mpr free
    simp [free, taken, eq_comm]

theorem attempt_of_offers {op : Operation} (offers : op.Offers f) : r.attempt op = r.insert f := by
  cases offers with
  | native => rfl
  | custom compiles =>
      simp only [attempt, registerCustom, compiles]
      rfl

theorem attempt_cases {op : Operation} (done : r.attempt op = .ok t) :
    t = r.child ∨
      ∃ f, op.Offers f ∧ ¬ r.Takes f.name f.signature.arity ∧ t = r.add .function f := by
  have registered (f : Function) (offers : op.Offers f) :
      ∃ f, op.Offers f ∧ ¬ r.Takes f.name f.signature.arity ∧ t = r.add .function f := by
    rw [attempt_of_offers offers] at done
    exact ⟨f, offers, insert_eq_ok_iff.mp done⟩
  cases op with
  | register name signature body => exact .inr (registered _ .native)
  | registerCustom d =>
      cases compiled : CustomFunction.compile d with
      | error e =>
          simp only [attempt, registerCustom, compiled] at done
          cases done
      | ok g => exact .inr (registered _ (.custom compiled))
  | child =>
      cases done
      exact .inl rfl

/-- An invariant of all registries: it holds at both beginnings, on new levels, and with one more function
whose name was free. -/
theorem Reachable.induction {holds : Registry → Prop} (empty : holds {}) (builtins : holds .builtins)
    (child : ∀ r, holds r → holds r.child)
    (add : ∀ r (op : Operation) f, holds r → op.Offers f → ¬ r.Takes f.name f.signature.arity →
      holds (r.add .function f))
    (reachable : r.Reachable) : holds r := by
  induction reachable with
  | empty => exact empty
  | builtins => exact builtins
  | @step r op _ ih =>
      unfold Registry.after
      split
      next t done =>
        rcases attempt_cases done with rfl | ⟨f, offers, untaken, rfl⟩
        · exact child r ih
        · exact add r op f ih offers untaken
      next => exact ih

theorem overloads_add (r : Registry) (kind other : CallKind) (f : Function) (name : String) :
    (r.add kind f).overloads other name =
      r.own.overloads other name ++ (if kind = other ∧ f.name = name then [f] else []) ++
        r.ancestors.flatMap (·.overloads other name) := by
  rw [overloads_eq]
  exact congrArg (· ++ _) (Level.overloads_add r.own kind other f name)

theorem overloads_add_of_other {kind other : CallKind} {name : String}
    (elsewhere : ¬ (kind = other ∧ f.name = name)) :
    (r.add kind f).overloads other name = r.overloads other name := by
  rw [overloads_add, overloads_eq, if_neg elsewhere, List.append_nil]

theorem mem_overloads_foldl (entries : List Builtin.Entry) (r : Registry) (kind : CallKind)
    (name : String) (g : Function) :
    g ∈ (entries.foldl (fun r e => r.add e.kind e.function) r).overloads kind name ↔
      g ∈ r.overloads kind name ∨ (⟨kind, g⟩ ∈ entries ∧ g.name = name) := by
  induction entries generalizing r with
  | nil => simp
  | cons entry rest ih =>
      obtain ⟨other, f⟩ := entry
      rw [List.foldl_cons, ih, mem_overloads_add, List.mem_cons, Builtin.Entry.mk.injEq]
      constructor
      · rintro ((old | ⟨⟨rfl, rfl⟩, rfl⟩) | ⟨later, named⟩)
        · exact .inl old
        · exact .inr ⟨.inl ⟨rfl, rfl⟩, rfl⟩
        · exact .inr ⟨.inr later, named⟩
      · rintro (old | ⟨⟨rfl, rfl⟩ | later, rfl⟩)
        · exact .inl (.inl old)
        · exact .inl (.inr ⟨⟨rfl, rfl⟩, rfl⟩)
        · exact .inr ⟨later, rfl⟩

theorem mem_overloads_builtins (kind : CallKind) (name : String) (g : Function) :
    g ∈ builtins.overloads kind name ↔ g.IsBuiltin kind ∧ g.name = name := by
  have none : g ∉ ({} : Registry).overloads kind name := by
    cases kind <;> exact List.not_mem_nil
  rw [builtins, mem_overloads_foldl]
  simp only [none, false_or]
  rfl

end Registry

/-- Two functions of one name are built in or are never called with the same number of arguments. -/
def Function.Coexists (kind : CallKind) (f g : Function) : Prop :=
  (f.IsBuiltin kind ∧ g.IsBuiltin kind) ∨ f.signature.arity.overlaps g.signature.arity = false

theorem Function.Coexists.symm {kind : CallKind} {f g : Function} (coexists : f.Coexists kind g) :
    g.Coexists kind f := by
  rcases coexists with builtin | apart
  · exact .inl builtin.symm
  · exact .inr ((Arity.overlaps_comm _ _).trans apart)

namespace Registry

variable {r t : Registry} {f : Function}

def Coexist (r : Registry) : Prop :=
  ∀ kind name, (r.overloads kind name).Pairwise (Function.Coexists kind)

theorem Coexist.add (coexist : r.Coexist) (untaken : ¬ r.Takes f.name f.signature.arity) :
    (r.add .function f).Coexist := by
  intro kind name
  by_cases here : CallKind.function = kind ∧ f.name = name
  · obtain ⟨rfl, rfl⟩ := here
    have fresh : ∀ g ∈ r.overloads .function f.name, f.Coexists .function g := by
      intro g member
      have free := List.all_eq_true.mp ((isFree_iff r f.name f.signature.arity).mpr untaken) g member
      exact .inr ((Arity.overlaps_comm _ _).trans (by simpa using free))
    have old := coexist .function f.name
    rw [overloads_eq] at fresh old
    rw [overloads_add, if_pos ⟨rfl, rfl⟩, List.append_assoc, List.singleton_append]
    exact (List.pairwise_middle Function.Coexists.symm).mpr (List.pairwise_cons.mpr ⟨fresh, old⟩)
  · rw [overloads_add_of_other here]
    exact coexist kind name

theorem Reachable.coexist (reachable : r.Reachable) : r.Coexist := by
  refine reachable.induction ?_ ?_ ?_ ?_
  · intro kind name
    cases kind <;> exact List.Pairwise.nil
  · intro kind name
    apply List.pairwise_of_forall_mem_list
    intro f first g second
    have builtin := fun g member => ((mem_overloads_builtins kind name g).mp member).1
    exact .inl ⟨builtin f first, builtin g second⟩
  · intro r coexist kind name
    rw [overloads_child]
    exact coexist kind name
  · exact fun r op f coexist _ untaken => coexist.add untaken

theorem Coexist.candidates (coexist : r.Coexist) (kind : CallKind) (name : String) (count : Nat) :
    (∀ f ∈ r.candidates kind name count, f.IsBuiltin kind) ∨
      ∃ f, r.candidates kind name count = [f] := by
  have both : (r.candidates kind name count).Pairwise fun f g => f.IsBuiltin kind ∧ g.IsBuiltin kind := by
    have listed : (r.candidates kind name count).Pairwise (Function.Coexists kind) :=
      (coexist kind name).filter _
    refine listed.imp_of_mem fun {f g} first second coexists => coexists.resolve_right fun apart => ?_
    have common := (Arity.overlaps_iff f.signature.arity g.signature.arity).mpr
      ⟨count, (List.mem_filter.mp first).2, (List.mem_filter.mp second).2⟩
    rw [apart] at common
    cases common
  cases split : r.candidates kind name count with
  | nil => exact .inl fun f member => nomatch member
  | cons f rest =>
      cases rest with
      | nil => exact .inr ⟨f, rfl⟩
      | cons g rest =>
          rw [split, List.pairwise_cons] at both
          refine .inl fun h member => ?_
          rcases List.mem_cons.mp member with rfl | later
          · exact (both.1 g List.mem_cons_self).1
          · exact (both.1 h later).2

theorem select_congr {kind : CallKind} {name : String} {values : List Value}
    (same : t.candidates kind name values.length = r.candidates kind name values.length) :
    t.select kind name values = r.select kind name values := by
  unfold select
  rw [same]

theorem select_eq_unknown_iff (r : Registry) (kind : CallKind) (name : String) (values : List Value) :
    r.select kind name values = .error (.unknownFunction kind name values.length) ↔
      r.candidates kind name values.length = [] := by
  unfold select
  constructor
  · intro unknown
    cases listed : r.candidates kind name values.length with
    | nil => rfl
    | cons f rest =>
        simp only [listed] at unknown
        split at unknown
        · cases unknown
        · split at unknown <;> cases unknown
  · intro none
    rw [none]
    rfl

theorem candidates_child (r : Registry) (kind : CallKind) (name : String) (count : Nat) :
    r.child.candidates kind name count = r.candidates kind name count := by
  unfold candidates
  rw [overloads_child]

theorem candidates_add (untaken : ¬ r.Takes f.name f.signature.arity) {kind : CallKind} {name : String}
    {count : Nat} {g : Function} (candidate : g ∈ r.candidates kind name count) :
    (r.add .function f).candidates kind name count = r.candidates kind name count := by
  by_cases here : CallKind.function = kind ∧ f.name = name
  · obtain ⟨rfl, rfl⟩ := here
    have refused : f.signature.arity.admits count = false := by
      apply Bool.eq_false_iff.mpr
      exact fun admits => untaken (takes_of_candidate candidate admits)
    unfold candidates
    rw [overloads_add, overloads_eq, if_pos ⟨rfl, rfl⟩]
    simp [refused]
  · unfold candidates
    rw [overloads_add_of_other here]

theorem select_of_attempt {op : Operation} (done : r.attempt op = .ok t) {kind : CallKind} {name : String}
    {values : List Value}
    (known : r.select kind name values ≠ .error (.unknownFunction kind name values.length)) :
    t.select kind name values = r.select kind name values := by
  apply select_congr
  rcases attempt_cases done with rfl | ⟨f, -, untaken, rfl⟩
  · exact candidates_child r kind name values.length
  · obtain ⟨g, candidate⟩ : ∃ g, g ∈ r.candidates kind name values.length := by
      apply List.exists_mem_of_ne_nil
      intro none
      exact known ((select_eq_unknown_iff r kind name values).mpr none)
    exact candidates_add untaken candidate

theorem attempt_eq_error_iff {op : Operation} (offers : op.Offers f) (e : RegistryError) :
    r.attempt op = .error e ↔
      r.Takes f.name f.signature.arity ∧ e = .duplicateFunction f.name f.signature.arity.least := by
  rw [attempt_of_offers offers]
  exact insert_eq_error_iff e

/-- Registering a function never changes an existing call. In every registry that comes about by operations,
either all candidates for a call by name are built in or there is one candidate; what a call selects, or
why it selects nothing other than for want of a candidate, outlasts every operation, and an operation that
is refused changes nothing. A function is refused if and only if some function of its name, there or in a
level below, takes as many arguments as it may take. -/
theorem registrations_keepCalls (r : Registry) (reachable : r.Reachable) :
    (∀ kind name count, (∀ f ∈ r.candidates kind name count, f.IsBuiltin kind) ∨
      ∃ f, r.candidates kind name count = [f]) ∧
    (∀ op,
      (∀ t, r.attempt op = .ok t → ∀ kind name values,
        r.select kind name values ≠ .error (.unknownFunction kind name values.length) →
          t.select kind name values = r.select kind name values) ∧
        ∀ e, r.attempt op = .error e → r.after op = r) ∧
    ∀ (op : Operation) f, op.Offers f → ∀ e,
      r.attempt op = .error e ↔
        r.Takes f.name f.signature.arity ∧ e = .duplicateFunction f.name f.signature.arity.least := by
  refine ⟨?_, fun op => ⟨?_, ?_⟩, ?_⟩
  · exact reachable.coexist.candidates
  · intro t done kind name values known
    exact select_of_attempt done known
  · intro e refused
    unfold after
    rw [refused]
  · intro op f offers e
    exact attempt_eq_error_iff offers e

/-- Over the built-in functions a card declares one that doubles an integer: it becomes the one candidate of
its name, calls of `max` select what they did before, and neither name is free again. -/
theorem registrations_keepCalls_of_card :
    ∃ (d : FunctionDeclaration) (g : CustomFunction) (r t : Registry),
      CustomFunction.compile d = .ok g ∧ r = Registry.builtins.child ∧
        r.attempt (.registerCustom d) = .ok t ∧ t.Reachable ∧
        t.candidates .function d.name 1 = [d.compiled g] ∧
        (r.candidates .function "max" 1).length ≠ 0 ∧
        t.select .function "max" [.integer 3] = r.select .function "max" [.integer 3] ∧
        t.attempt (.registerCustom d) = .error (.duplicateFunction "twice" 1) ∧
        t.after (.registerCustom d) = t ∧
        ∀ body, t.attempt (.register "max" ⟨[.any, .any, .any], none, .integer⟩ body) =
          .error (.duplicateFunction "max" 3) := by
  let d : FunctionDeclaration := ⟨"twice", [⟨"n", .integer⟩], .integer, "@\x7bn + n\x7d"⟩
  obtain ⟨g, compiles⟩ : ∃ g, CustomFunction.compile d = .ok g := exists_of_isSome (by decide +kernel)
  have arity : (d.compiled g).signature.arity = .exact 1 := by
    obtain ⟨-, -, -, -, same, -⟩ := CustomFunction.compile_eq_ok compiles
    simp [FunctionDeclaration.compiled, CustomFunction.signature, Signature.arity, same, d]
  have unnamed : ∀ e ∈ Builtin.entries, e.function.name ≠ "twice" := by decide +kernel
  have free : ¬ Registry.builtins.child.Takes d.name (d.compiled g).signature.arity := by
    apply (isFree_iff _ _ _).mp
    apply List.all_eq_true.mpr
    intro f member
    rw [overloads_child, mem_overloads_builtins] at member
    exact absurd member.2 (unnamed _ member.1)
  obtain ⟨m, builtin, named, many⟩ : ∃ m : Function, m.IsBuiltin .function ∧ m.name = "max" ∧
      m.signature.arity = .atLeast 1 := by
    have listed : (Builtin.entries.any fun e => e.kind == .function && e.function.name == "max" &&
        e.function.signature.arity == .atLeast 1) = true := by decide +kernel
    obtain ⟨⟨kind, m⟩, member, known⟩ := List.any_eq_true.mp listed
    simp only [Bool.and_eq_true, beq_iff_eq] at known
    obtain ⟨⟨rfl, named⟩, many⟩ := known
    exact ⟨m, member, named, many⟩
  let r : Registry := Registry.builtins.child
  let t : Registry := r.add .function (d.compiled g)
  have done : r.attempt (.registerCustom d) = .ok t :=
    (attempt_of_offers (.custom compiles)).trans (insert_eq_ok_iff.mpr ⟨free, rfl⟩)
  have reachable : r.Reachable := .step .child .builtins
  have further : t.Reachable := by
    have next := Reachable.step (.registerCustom d) reachable
    unfold Registry.after at next
    rwa [done] at next
  obtain ⟨-, keeps, -⟩ := registrations_keepCalls r reachable
  obtain ⟨single, stays, refuses⟩ := registrations_keepCalls t further
  have candidate : d.compiled g ∈ t.candidates .function d.name 1 := by
    refine List.mem_filter.mpr ⟨?_, ?_⟩
    · exact (mem_overloads_add _ _ _ _ _ _).mpr (.inr ⟨⟨rfl, rfl⟩, rfl⟩)
    · rw [arity]
      rfl
  have only : t.candidates .function d.name 1 = [d.compiled g] := by
    rcases single .function d.name 1 with allBuiltin | ⟨f, one⟩
    · exact absurd rfl (unnamed _ (allBuiltin _ candidate))
    · rw [one] at candidate ⊢
      rw [List.mem_singleton.mp candidate]
  have greatest (count : Nat) (positive : 1 ≤ count) : m ∈ r.candidates .function "max" count := by
    refine List.mem_filter.mpr ⟨?_, ?_⟩
    · rw [overloads_child, mem_overloads_builtins]
      exact ⟨builtin, named⟩
    · rw [many]
      exact decide_eq_true positive
  have still (count : Nat) (positive : 1 ≤ count) : m ∈ t.candidates .function "max" count := by
    rw [candidates_add free (greatest count positive)]
    exact greatest count positive
  have selected : t.select .function "max" [.integer 3] = r.select .function "max" [.integer 3] := by
    apply (keeps _).1 t done
    intro unknown
    have none := (select_eq_unknown_iff r .function "max" [.integer 3]).mp unknown
    exact List.ne_nil_of_mem (greatest 1 (Nat.le_refl 1)) none
  have refused : t.attempt (.registerCustom d) = .error (.duplicateFunction "twice" 1) := by
    refine (refuses _ _ (.custom compiles) _).mpr ⟨takes_of_candidate candidate ?_, ?_⟩
    · rw [arity]
      rfl
    · rw [arity]
      rfl
  refine ⟨d, g, r, t, compiles, rfl, done, further, only, ?_, selected, refused, (stays _).2 _ refused, ?_⟩
  · exact fun none => List.ne_nil_of_mem (greatest 1 (Nat.le_refl 1)) (List.length_eq_zero_iff.mp none)
  · intro body
    exact (refuses _ _ .native _).mpr ⟨takes_of_candidate (still 3 (by decide)) rfl, rfl⟩

end Registry

end CardExpr
