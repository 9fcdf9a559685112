import CardExpr.Proofs.Function.Checking

/-!
The arguments that a function accepts, and what it is handed for them. What it accepts is what passes the
check of its arguments, given as many of them as its signature counts.
-/

namespace CardExpr

/-- The types that an argument may have. -/
inductive ArgType.Admits : ArgType → ValueType → Prop where
  | same (t : ValueType) : Admits (.of t) t
  | widened : Admits (.of .number) .integer
  | integer : Admits .numeric .integer
  | number : Admits .numeric .number
  | any (t : ValueType) : Admits .any t
  | oneOf {types : List ValueType} {t : ValueType} (listed : t ∈ types) : Admits (.oneOf types) t

theorem ArgType.accepts_iff (expected : ArgType) (t : ValueType) :
    expected.accepts t = true ↔ expected.Admits t := by
  constructor
  · intro accepts
    cases expected with
    | «of» u =>
        cases u <;> cases t <;> first | exact .same _ | exact .widened | cases accepts
    | numeric => cases t <;> first | exact .integer | exact .number | cases accepts
    | any => exact .any t
    | oneOf types => exact .oneOf (List.contains_iff_mem.mp accepts)
  · intro admits
    cases admits with
    | same => cases t <;> rfl
    | oneOf listed => exact List.contains_iff_mem.mpr listed
    | _ => rfl

theorem ArgType.accepts_coerce {expected : ArgType} {v : Value} (accepts : expected.accepts v.type = true) :
    expected.accepts (expected.coerce v).type = true := by
  cases expected with
  | «of» t => cases t <;> cases v <;> first | rfl | cases accepts
  | _ => exact accepts

theorem ArgType.coerce_coerce (expected : ArgType) (v : Value) :
    expected.coerce (expected.coerce v) = expected.coerce v := by
  cases expected with
  | «of» t => cases t <;> cases v <;> rfl
  | _ => rfl

theorem ArgType.coerce_eq_self {expected : ArgType} {v : Value}
    (other : ∀ n, v = .integer n → expected ≠ .of .number) : expected.coerce v = v := by
  cases expected with
  | «of» t => cases t <;> cases v <;> first | rfl | exact absurd rfl (other _ rfl)
  | _ => rfl

namespace Signature

variable {s : Signature}

/-- The type of a position: a fixed one, or that of all further arguments. -/
inductive Has (s : Signature) (index : Nat) (expected : ArgType) : Prop where
  | fixed (listed : s.args[index]? = some expected)
  | further (beyond : s.args.length ≤ index) (tail : s.tail = some expected)

/-- As many arguments as there are fixed positions, or more if there may be further ones. -/
def Counts (s : Signature) (count : Nat) : Prop :=
  count = s.args.length ∨ s.args.length ≤ count ∧ ∃ expected, s.tail = some expected

/-- The signature takes these arguments: so many, and each of a type of its position. -/
structure Takes (s : Signature) (values : List Value) : Prop where
  counts : s.Counts values.length
  typed : ∀ i v, values[i]? = some v → ∃ expected, s.Has i expected ∧ expected.Admits v.type

theorem argType?_eq_some_iff (index : Nat) (expected : ArgType) :
    s.argType? index = some expected ↔ s.Has index expected := by
  unfold argType?
  cases fixed : s.args[index]? with
  | some t =>
      refine ⟨fun same => .fixed (fixed.trans same), fun has => ?_⟩
      cases has with
      | fixed listed => exact fixed.symm.trans listed
      | further beyond => cases fixed.symm.trans (List.getElem?_eq_none beyond)
  | none =>
      refine ⟨fun same => .further (List.getElem?_eq_none_iff.mp fixed) same, fun has => ?_⟩
      cases has with
      | fixed listed => cases fixed.symm.trans listed
      | further beyond tail => exact tail

theorem Has.unique {index : Nat} {expected other : ArgType} (has : s.Has index expected)
    (also : s.Has index other) : expected = other :=
  Option.some.inj (((argType?_eq_some_iff index expected).mpr has).symm.trans
    ((argType?_eq_some_iff index other).mpr also))

theorem admits_iff (count : Nat) : s.arity.admits count = true ↔ s.Counts count := by
  unfold arity Counts
  cases s.tail with
  | none => simp [Arity.admits]
  | some expected =>
      simp only [Arity.admits, decide_eq_true_eq, Option.some.injEq, exists_eq', and_true]
      omega

end Signature

section Positions

variable {α : Type} {x : α} {xs : List α} {p : Nat → α → Prop}

theorem forall_getElem?_cons :
    (∀ i y, (x :: xs)[i]? = some y → p i y) ↔ p 0 x ∧ ∀ i y, xs[i]? = some y → p (i + 1) y := by
  constructor
  · exact fun all => ⟨all 0 x rfl, fun i y found => all (i + 1) y found⟩
  · rintro ⟨first, later⟩ i y found
    cases i with
    | zero =>
        cases found
        exact first
    | succ i => exact later i y found

end Positions

namespace Function

variable {f : Function} {values : List Value}

def typeAt (f : Function) (index : Nat) : ArgType := (f.signature.argType? index).getD .any

theorem typeAt_eq {index : Nat} {expected : ArgType} (has : f.signature.Has index expected) :
    f.typeAt index = expected := by
  rw [typeAt, (Signature.argType?_eq_some_iff index expected).mpr has]
  rfl

theorem has_typeAt {count index : Nat} (counts : f.signature.Counts count) (within : index < count) :
    f.signature.Has index (f.typeAt index) := by
  obtain ⟨expected, position⟩ :=
    Signature.argType?_of_admits ((Signature.admits_iff count).mpr counts) within
  have has := (Signature.argType?_eq_some_iff index expected).mp position
  rwa [typeAt_eq has]

theorem acceptsFrom_iff (s : Signature) (index : Nat) :
    acceptsFrom s index values = true ↔
      ∀ i v, values[i]? = some v → ∃ expected, s.Has (index + i) expected ∧ expected.Admits v.type := by
  induction values generalizing index with
  | nil => exact iff_of_true rfl fun i v found => nomatch found
  | cons v rest ih =>
      have later := ih (index + 1)
      simp only [Nat.add_right_comm index 1] at later
      rw [forall_getElem?_cons]
      simp only [← Nat.add_assoc]
      rw [← later, acceptsFrom, Bool.and_eq_true, Nat.add_zero]
      refine and_congr_left fun _ => ?_
      cases position : s.argType? index with
      | none =>
          refine iff_of_false Bool.false_ne_true ?_
          rintro ⟨expected, has, -⟩
          cases position.symm.trans ((Signature.argType?_eq_some_iff index expected).mpr has)
      | some expected =>
          have has := (Signature.argType?_eq_some_iff index expected).mp position
          refine (expected.accepts_iff v.type).trans ⟨fun admits => ⟨expected, has, admits⟩, ?_⟩
          rintro ⟨other, also, admits⟩
          rwa [has.unique also]

theorem accepts_iff : f.accepts values = true ↔ f.signature.Takes values := by
  unfold accepts
  rw [Bool.and_eq_true, Signature.admits_iff, acceptsFrom_iff]
  simp only [Nat.zero_add]
  exact ⟨fun ⟨counts, typed⟩ => ⟨counts, typed⟩, fun ⟨counts, typed⟩ => ⟨counts, typed⟩⟩

theorem checkFrom_eq_ok_iff (index : Nat) (checked : List Value) :
    checkFrom f index values = .ok checked ↔
      (∀ i v, values[i]? = some v → (f.typeAt (index + i)).accepts v.type = true) ∧
        checked = values.mapIdx fun i v => (f.typeAt (index + i)).coerce v := by
  induction values generalizing index checked with
  | nil => exact ⟨fun same => ⟨fun _ _ found => (nomatch found), (Except.ok.inj same).symm⟩,
      fun ⟨_, same⟩ => same ▸ rfl⟩
  | cons v rest ih =>
      have onward := ih (index + 1)
      simp only [Nat.add_right_comm index 1] at onward
      rw [forall_getElem?_cons, List.mapIdx_cons, Nat.add_zero]
      simp only [← Nat.add_assoc]
      rw [checkFrom]
      show (if (f.typeAt index).accepts v.type then _ else _) = _ ↔ _
      cases accepted : (f.typeAt index).accepts v.type with
      | false => exact iff_of_false nofun fun ⟨⟨accepts, _⟩, _⟩ => nomatch accepts
      | true =>
          rw [if_pos rfl]
          cases later : checkFrom f (index + 1) rest with
          | error e =>
              refine iff_of_false nofun fun ⟨⟨_, accepts⟩, _⟩ => ?_
              cases later.symm.trans ((onward _).mpr ⟨accepts, rfl⟩)
          | ok handed =>
              obtain ⟨accepts, rfl⟩ := (onward handed).mp later
              exact ⟨fun same => ⟨⟨rfl, accepts⟩, (Except.ok.inj same).symm⟩, fun ⟨_, same⟩ => same ▸ rfl⟩

theorem checkFrom_eq_error_iff (index : Nat) (e : ArgumentTypeError) :
    checkFrom f index values = .error e ↔
      ∃ i v, values[i]? = some v ∧ (f.typeAt (index + i)).accepts v.type = false ∧
        (∀ j < i, ∀ w, values[j]? = some w → (f.typeAt (index + j)).accepts w.type = true) ∧
        e = ⟨f.name, index + i + 1, (f.typeAt (index + i)).text, v.type⟩ := by
  induction values generalizing index with
  | nil => exact ⟨nofun, fun ⟨_, _, found, _⟩ => nomatch found⟩
  | cons v rest ih =>
      rw [checkFrom]
      show (if (f.typeAt index).accepts v.type then _ else _) = _ ↔ _
      cases accepted : (f.typeAt index).accepts v.type with
      | false =>
          rw [if_neg Bool.false_ne_true]
          constructor
          · intro same
            exact ⟨0, v, rfl, accepted, fun j before =>
              absurd before (Nat.not_lt_zero j), (Except.error.inj same).symm⟩
          · rintro ⟨i, w, found, misfit, least, rfl⟩
            cases i with
            | zero =>
                cases found
                rfl
            | succ i => cases accepted.symm.trans (least 0 (Nat.zero_lt_succ i) v rfl)
      | true =>
          rw [if_pos rfl]
          have later : (checkFrom f (index + 1) rest).map ((f.typeAt index).coerce v :: ·) = .error e ↔
              checkFrom f (index + 1) rest = .error e := by
            cases checkFrom f (index + 1) rest with
            | error c => exact Iff.rfl
            | ok handed => exact iff_of_false nofun nofun
          refine later.trans ((ih (index + 1)).trans ?_)
          simp only [Nat.add_right_comm index 1]
          constructor
          · rintro ⟨i, w, found, misfit, least, same⟩
            refine ⟨i + 1, w, found, misfit, fun j before u there => ?_, same⟩
            cases j with
            | zero =>
                cases there
                exact accepted
            | succ j => exact least j (Nat.lt_of_succ_lt_succ before) u there
          · rintro ⟨i, w, found, misfit, least, same⟩
            cases i with
            | zero =>
                cases found
                cases accepted.symm.trans misfit
            | succ i =>
                exact ⟨i, w, found, misfit,
                  fun j before u there => least (j + 1) (Nat.succ_lt_succ before) u there, same⟩

/-- The first argument that is of no type of its position, as the error tells of it. -/
inductive Misfits (f : Function) (values : List Value) : ArgumentTypeError → Prop where
  | intro {i : Nat} {v : Value} {expected : ArgType} (found : values[i]? = some v)
      (position : f.signature.Has i expected) (misfit : ¬ expected.Admits v.type)
      (least : ∀ j < i, ∀ w, values[j]? = some w → ∃ t, f.signature.Has j t ∧ t.Admits w.type) :
      Misfits f values ⟨f.name, i + 1, expected.text, v.type⟩

theorem checkArgs_eq_ok_iff {args : Args} :
    f.checkArgs values = .ok args ↔
      (∀ i v, values[i]? = some v → (f.typeAt i).accepts v.type = true) ∧
        args = ⟨f.name, values.mapIdx fun i v => (f.typeAt i).coerce v⟩ := by
  have whole (handed : List Value) : checkFrom f 0 values = .ok handed ↔
      (∀ i v, values[i]? = some v → (f.typeAt i).accepts v.type = true) ∧
        handed = values.mapIdx fun i v => (f.typeAt i).coerce v := by
    rw [checkFrom_eq_ok_iff]
    simp only [Nat.zero_add]
  unfold checkArgs
  cases checked : checkFrom f 0 values with
  | error e =>
      refine iff_of_false nofun fun ⟨accepts, _⟩ => ?_
      cases checked.symm.trans ((whole _).mpr ⟨accepts, rfl⟩)
  | ok handed =>
      obtain ⟨accepts, rfl⟩ := (whole handed).mp checked
      exact ⟨fun same => ⟨accepts, (Except.ok.inj same).symm⟩, fun ⟨_, same⟩ => same ▸ rfl⟩

theorem checkArgs_eq_error_iff (counts : f.signature.Counts values.length) (e : ArgumentTypeError) :
    f.checkArgs values = .error e ↔ f.Misfits values e := by
  have parts : f.checkArgs values = .error e ↔ checkFrom f 0 values = .error e := by
    unfold checkArgs
    cases checkFrom f 0 values with
    | error c =>
        exact ⟨fun same => congrArg _ (Except.error.inj same),
          fun same => congrArg _ (Except.error.inj same)⟩
    | ok handed => exact iff_of_false nofun nofun
  rw [parts, checkFrom_eq_error_iff]
  simp only [Nat.zero_add]
  have position {i : Nat} {v : Value} (found : values[i]? = some v) : f.signature.Has i (f.typeAt i) :=
    has_typeAt counts (List.getElem?_eq_some_iff.mp found).1
  constructor
  · rintro ⟨i, v, found, misfit, least, rfl⟩
    refine .intro found (position found) ?_ fun j before w there => ?_
    · rw [← ArgType.accepts_iff, misfit]
      exact Bool.false_ne_true
    · exact ⟨f.typeAt j, position there, (ArgType.accepts_iff _ _).mp (least j before w there)⟩
  · rintro @⟨i, v, expected, found, has, misfit, least⟩
    have same := typeAt_eq has
    refine ⟨i, v, found, ?_, fun j before w there => ?_, by rw [same]⟩
    · rw [same]
      exact Bool.eq_false_iff.mpr (mt (expected.accepts_iff v.type).mp misfit)
    · obtain ⟨t, has', admits⟩ := least j before w there
      rw [typeAt_eq has']
      exact (t.accepts_iff w.type).mpr admits

/-- What is accepted is as many arguments as the signature counts that pass their check. -/
theorem accepts_iff_checkArgs :
    f.accepts values = true ↔ f.signature.Counts values.length ∧ ∃ args, f.checkArgs values = .ok args := by
  rw [accepts_iff]
  constructor
  · rintro ⟨counts, typed⟩
    refine ⟨counts, _, checkArgs_eq_ok_iff.mpr ⟨fun i v found => ?_, rfl⟩⟩
    obtain ⟨expected, has, admits⟩ := typed i v found
    rw [typeAt_eq has]
    exact (expected.accepts_iff v.type).mpr admits
  · rintro ⟨counts, args, checked⟩
    refine ⟨counts, fun i v found => ?_⟩
    have accepts := (checkArgs_eq_ok_iff.mp checked).1 i v found
    exact ⟨f.typeAt i, has_typeAt counts (List.getElem?_eq_some_iff.mp found).1,
      (ArgType.accepts_iff _ _).mp accepts⟩

/-- What a function is handed for the arguments: the same, but for integers where it declares a number. -/
structure Widens (f : Function) (values : List Value) (args : Args) : Prop where
  callee_eq : args.callee = f.name
  length_eq : args.values.length = values.length
  widened : ∀ i n, values[i]? = some (.integer n) → f.signature.Has i (.of .number) →
    args.values[i]? = some (.number n.toFloat)
  kept : ∀ i v, values[i]? = some v → (∀ n, v = .integer n → ¬ f.signature.Has i (.of .number)) →
    args.values[i]? = some v

theorem widens_of_checkArgs {args : Args} (checked : f.checkArgs values = .ok args) :
    f.Widens values args := by
  obtain ⟨-, rfl⟩ := checkArgs_eq_ok_iff.mp checked
  refine ⟨rfl, List.length_mapIdx, fun i n found has => ?_, fun i v found other => ?_⟩
  · rw [List.getElem?_mapIdx, found, typeAt_eq has]
    rfl
  · rw [List.getElem?_mapIdx, found, Option.map_some, ArgType.coerce_eq_self fun n same number =>
      other n same ?_]
    unfold typeAt at number
    cases position : f.signature.argType? i with
    | none =>
        rw [position] at number
        cases number
    | some expected =>
        rw [position] at number
        exact (Signature.argType?_eq_some_iff i _).mp (position.trans (congrArg some number))

theorem checkArgs_again {args : Args} (checked : f.checkArgs values = .ok args) :
    f.checkArgs args.values = .ok args := by
  obtain ⟨accepts, rfl⟩ := checkArgs_eq_ok_iff.mp checked
  refine checkArgs_eq_ok_iff.mpr ⟨fun i w found => ?_, ?_⟩
  · rw [List.getElem?_mapIdx, Option.map_eq_some_iff] at found
    obtain ⟨v, there, rfl⟩ := found
    exact ArgType.accepts_coerce (accepts i v there)
  · rw [List.mapIdx_mapIdx]
    simp only [Function.comp_def, ArgType.coerce_coerce]

end Function

end CardExpr
