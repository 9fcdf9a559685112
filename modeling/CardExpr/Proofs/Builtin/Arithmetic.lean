import Mathlib.Order.Bounds.Defs
import CardExpr.Proofs.Evaluation.Operands
import CardExpr.Proofs.Function.Builtin

/-!
Arithmetic on integers. What operators and functions come to is the exact result, or an overflow where 64 bits
do not hold it.
-/

namespace CardExpr

def FitsInt64 (n : Int) : Prop := Int64.minValue.toInt ≤ n ∧ n ≤ Int64.maxValue.toInt

instance : DecidablePred FitsInt64 := fun _ => inferInstanceAs (Decidable (_ ∧ _))

theorem fitsInt64_toInt (i : Int64) : FitsInt64 i.toInt :=
  ⟨i.minValue_le_toInt, i.toInt_le⟩

theorem fitsInt64_iff (n : Int) : FitsInt64 n ↔ -9223372036854775808 ≤ n ∧ n < 9223372036854775808 := by
  unfold FitsInt64
  rw [Int64.toInt_minValue, Int64.toInt_maxValue]
  omega

theorem FitsInt64.toInt_ofInt {n : Int} (fits : FitsInt64 n) : (Int64.ofInt n).toInt = n := by
  obtain ⟨low, high⟩ := (fitsInt64_iff n).mp fits
  exact Int64.toInt_ofInt_of_le low high

/-- The outcome is the exact result where 64 bits hold it, and an overflow otherwise. -/
inductive Exact (operator : String) (n : Int) : Except EvalError Value → Prop where
  | fits {i : Int64} (value : i.toInt = n) : Exact operator n (.ok (.integer i))
  | overflows (outside : ¬ FitsInt64 n) : Exact operator n (.error (.integerOverflow operator))

theorem exact_checkedInt (operator : String) (n : Int) : Exact operator n (checkedInt operator n) := by
  unfold checkedInt Decimal.int64?
  split
  next i found =>
    split at found
    next within =>
      cases found
      exact .fits (FitsInt64.toInt_ofInt within)
    next => cases found
  next missing =>
    split at missing
    next => cases missing
    next outside => exact .overflows outside

theorem checkedInt_of_fits (operator : String) {n : Int} (fits : FitsInt64 n) :
    checkedInt operator n = .ok (.integer (Int64.ofInt n)) := by
  unfold checkedInt Decimal.int64?
  rw [if_pos (show _ ∧ _ from fits)]

/-- The outcomes of the quotient of two integers and of its remainder, by the operator and by the function. -/
inductive Division (x y : Int64) :
    (quotient remainder rest : Except EvalError Value) → Prop where
  | byZero (zero : y = 0) :
      Division x y (.error .divisionByZero) (.error .divisionByZero) (.error .divisionByZero)
  | overflows (least : x = Int64.minValue) (negated : y = -1) :
      Division x y (.error (.integerOverflow "div")) (.error (.integerOverflow "%"))
        (.error (.integerOverflow "mod"))
  | divides {q r : Int64} (nonzero : y ≠ 0) (within : ¬ (x = Int64.minValue ∧ y = -1))
      (whole : q.toInt * y.toInt + r.toInt = x.toInt) (small : r.toInt.natAbs < y.toInt.natAbs)
      (sign : r.toInt = 0 ∨ r.toInt.sign = x.toInt.sign) :
      Division x y (.ok (.integer q)) (.ok (.integer r)) (.ok (.integer r))

section Dividing

variable {x y : Int64}

theorem toInt_ne_zero (nonzero : y ≠ 0) : y.toInt ≠ 0 := fun zero => nonzero (Int64.toInt_inj.mp zero)

theorem fits_tdiv (nonzero : y ≠ 0) (within : ¬ (x = Int64.minValue ∧ y = -1)) :
    FitsInt64 (x.toInt.tdiv y.toInt) := by
  have nonzero := toInt_ne_zero nonzero
  obtain ⟨low, high⟩ := (fitsInt64_iff _).mp (fitsInt64_toInt x)
  by_cases one : y.toInt = 1
  · rw [one, Int.tdiv_one]
    exact fitsInt64_toInt x
  · rw [fitsInt64_iff]
    by_cases negated : y.toInt = -1
    · have above : x.toInt ≠ Int64.minValue.toInt := fun least =>
        within ⟨Int64.toInt_inj.mp least, Int64.toInt_inj.mp negated⟩
      rw [Int64.toInt_minValue] at above
      rw [negated, Int.tdiv_neg, Int.tdiv_one]
      omega
    · have halved : (x.toInt.tdiv y.toInt).natAbs ≤ x.toInt.natAbs / 2 := by
        rw [Int.natAbs_tdiv]
        exact Nat.div_le_div_left (by omega) (by decide)
      omega

theorem natAbs_tmod_lt (nonzero : y ≠ 0) : (x.toInt.tmod y.toInt).natAbs < y.toInt.natAbs := by
  rw [Int.natAbs_tmod]
  exact Nat.mod_lt _ (Int.natAbs_pos.mpr (toInt_ne_zero nonzero))

theorem fits_tmod (nonzero : y ≠ 0) : FitsInt64 (x.toInt.tmod y.toInt) := by
  have small := natAbs_tmod_lt (x := x) nonzero
  have bounds := (fitsInt64_iff _).mp (fitsInt64_toInt y)
  rw [fitsInt64_iff]
  omega

theorem sign_tmod_eq : x.toInt.tmod y.toInt = 0 ∨ (x.toInt.tmod y.toInt).sign = x.toInt.sign := by
  by_cases divisible : x.toInt.tmod y.toInt = 0
  · exact .inl divisible
  · have same : (x.toInt.tmod y.toInt).sign = x.toInt.sign := by
      rw [Int.sign_tmod, if_neg (mt Int.tmod_eq_zero_of_dvd divisible)]
    exact .inr same

theorem division (x y : Int64) :
    Division x y (divideInt "div" x y) (moduloInt "%" x y) (moduloInt "mod" x y) := by
  by_cases zero : y = 0
  · simp only [divideInt, moduloInt, if_pos zero]
    exact .byZero zero
  · by_cases outside : x = Int64.minValue ∧ y = -1
    · obtain ⟨rfl, rfl⟩ := outside
      exact .overflows rfl rfl
    · have unlimited : ¬ (x = Int64.minValue ∧ y.toInt = -1) := fun both =>
        outside (both.imp_right fun negated => Int64.toInt_inj.mp negated)
      simp only [divideInt, moduloInt, if_neg zero, if_neg unlimited]
      rw [checkedInt_of_fits _ (fits_tdiv zero outside), checkedInt_of_fits _ (fits_tmod zero),
        checkedInt_of_fits _ (fits_tmod zero)]
      have quotient := (fits_tdiv zero outside).toInt_ofInt
      have remainder := (fits_tmod (x := x) zero).toInt_ofInt
      refine .divides zero outside ?_ ?_ ?_
      · rw [quotient, remainder]
        exact Int.tdiv_mul_add_tmod x.toInt y.toInt
      · rw [remainder]
        exact natAbs_tmod_lt zero
      · rw [remainder]
        exact sign_tmod_eq

end Dividing

/-- Integers joined from the left: the outcome is what they come to exactly, if 64 bits hold all that they
come to on the way, and an overflow otherwise. -/
inductive Joined (operator : String) (f : Int → Int → Int) (x : Int64) (ys : List Int64) :
    Except EvalError Value → Prop where
  | fits {i : Int64} (total : i.toInt = ys.foldl (fun n y => f n y.toInt) x.toInt)
      (onTheWay : ∀ part, part <+: ys → FitsInt64 (part.foldl (fun n y => f n y.toInt) x.toInt)) :
      Joined operator f x ys (.ok (.integer i))
  | overflows {part : List Int64} (first : part <+: ys)
      (outside : ¬ FitsInt64 (part.foldl (fun n y => f n y.toInt) x.toInt)) :
      Joined operator f x ys (.error (.integerOverflow operator))

namespace Joined

variable {operator : String} {f : Int → Int → Int} {x : Int64} {ys : List Int64}

theorem cons {y i : Int64} (sum : i.toInt = f x.toInt y.toInt) {outcome : Except EvalError Value}
    (later : Joined operator f i ys outcome) : Joined operator f x (y :: ys) outcome := by
  cases later with
  | fits total onTheWay =>
      rw [sum] at total onTheWay
      refine .fits total fun part first => ?_
      rcases List.prefix_cons_iff.mp first with rfl | ⟨part, rfl, later⟩
      · exact fitsInt64_toInt x
      · exact onTheWay part later
  | overflows first outside =>
      rw [sum] at outside
      exact .overflows (List.cons_prefix_cons.mpr ⟨rfl, first⟩) outside

/-- Values are joined so by every operation that joins two integers with the checked operation. -/
theorem of_foldlM {step : Value → Value → Except EvalError Value}
    (onInts : ∀ a b : Int64, step (.integer a) (.integer b) = checkedInt operator (f a.toInt b.toInt))
    (x : Int64) (ys : List Int64) :
    Joined operator f x ys ((ys.map Value.integer).foldlM step (.integer x)) := by
  induction ys generalizing x with
  | nil =>
      refine .fits rfl fun part first => ?_
      rw [List.prefix_nil.mp first]
      exact fitsInt64_toInt x
  | cons y ys ih =>
      have exact := exact_checkedInt operator (f x.toInt y.toInt)
      rw [List.map_cons, List.foldlM_cons, onInts]
      generalize checkedInt operator (f x.toInt y.toInt) = outcome at exact ⊢
      cases exact with
      | fits value => exact .cons value (ih _)
      | overflows outside =>
          have first : [y] <+: y :: ys := List.cons_prefix_cons.mpr ⟨rfl, List.nil_prefix⟩
          exact .overflows first outside

theorem eq_error {outcome : Except EvalError Value} (joined : Joined operator f x ys outcome)
    {part : List Int64} (first : part <+: ys)
    (outside : ¬ FitsInt64 (part.foldl (fun n y => f n y.toInt) x.toInt)) :
    outcome = .error (.integerOverflow operator) := by
  cases joined with
  | fits _ onTheWay => exact absurd (onTheWay part first) outside
  | overflows => rfl

theorem ok_iff {other : String} {r q : Except EvalError Value} (one : Joined operator f x ys r)
    (another : Joined other f x ys q) (v : Value) : r = .ok v ↔ q = .ok v := by
  cases one with
  | @fits i total onTheWay =>
      cases another with
      | @fits j same _ => rw [Int64.toInt_inj.mp (total.trans same.symm)]
      | overflows first outside => exact absurd (onTheWay _ first) outside
  | overflows first outside =>
      rw [another.eq_error first outside]
      exact iff_of_false nofun nofun

theorem exists_foldl_mem (selects : ∀ a b, f a b = a ∨ f a b = b) (x : Int64) (ys : List Int64) :
    ∃ i ∈ x :: ys, i.toInt = ys.foldl (fun n y => f n y.toInt) x.toInt := by
  induction ys generalizing x with
  | nil => exact ⟨x, List.mem_cons_self, rfl⟩
  | cons y ys ih =>
      rw [List.foldl_cons]
      rcases selects x.toInt y.toInt with left | right
      · rw [left]
        obtain ⟨i, member, same⟩ := ih x
        exact ⟨i, by grind, same⟩
      · rw [right]
        obtain ⟨i, member, same⟩ := ih y
        exact ⟨i, by grind, same⟩

theorem foldl_bounds {r : Int → Int → Prop} (refl : ∀ a, r a a) (trans : ∀ a b c, r a b → r b c → r a c)
    (left : ∀ a b, r a (f a b)) (right : ∀ a b, r b (f a b)) (n : Int) (ys : List Int64) :
    r n (ys.foldl (fun n y => f n y.toInt) n) ∧ ∀ y ∈ ys,
    r y.toInt (ys.foldl (fun n y => f n y.toInt) n) := by
  induction ys generalizing n with
  | nil => exact ⟨refl n, fun y member => nomatch member⟩
  | cons y ys ih =>
      obtain ⟨first, later⟩ := ih (f n y.toInt)
      refine ⟨trans _ _ _ (left n y.toInt) first, fun z member => ?_⟩
      rcases List.mem_cons.mp member with rfl | member
      · exact trans _ _ _ (right n z.toInt) first
      · exact later z member

/-- Where one of two integers is taken, no result leaves 64 bits: it is one of the integers. -/
theorem selected (selects : ∀ a b, f a b = a ∨ f a b = b) {outcome : Except EvalError Value}
    (joined : Joined operator f x ys outcome) :
    ∃ i ∈ x :: ys, outcome = .ok (.integer i) ∧ i.toInt = ys.foldl (fun n y => f n y.toInt) x.toInt := by
  cases joined with
  | @fits i total =>
      obtain ⟨j, member, same⟩ := exists_foldl_mem selects x ys
      rw [Int64.toInt_inj.mp (total.trans same.symm)]
      exact ⟨j, member, rfl, same⟩
  | @overflows part first outside =>
      obtain ⟨j, -, same⟩ := exists_foldl_mem selects x part
      rw [← same] at outside
      exact absurd (fitsInt64_toInt j) outside

/-- An operation that takes the integer furthest by an order comes to the one that all others are related to.
-/
theorem extreme {r : Int → Int → Prop} (selects : ∀ a b, f a b = a ∨ f a b = b) (refl : ∀ a, r a a)
    (trans : ∀ a b c, r a b → r b c → r a c) (left : ∀ a b, r a (f a b)) (right : ∀ a b, r b (f a b))
    {outcome : Except EvalError Value} (joined : Joined operator f x ys outcome) :
    ∃ i ∈ x :: ys, outcome = .ok (.integer i) ∧ ∀ y ∈ x :: ys, r y.toInt i.toInt := by
  obtain ⟨i, member, ok, total⟩ := joined.selected selects
  obtain ⟨first, later⟩ := foldl_bounds refl trans left right x.toInt ys
  rw [← total] at first later
  exact ⟨i, member, ok, List.forall_mem_cons.mpr ⟨first, later⟩⟩

theorem greatest {outcome : Except EvalError Value} (joined : Joined operator max x ys outcome) :
    ∃ i, outcome = .ok (.integer i) ∧ IsGreatest {y | y ∈ x :: ys} i := by
  obtain ⟨i, member, ok, above⟩ := joined.extreme (r := (· ≤ ·)) (fun a b => by omega) Int.le_refl
    (fun _ _ _ => Int.le_trans) Int.le_max_left Int.le_max_right
  exact ⟨i, ok, member, fun y among => Int64.le_iff_toInt_le.mpr (above y among)⟩

theorem least {outcome : Except EvalError Value} (joined : Joined operator min x ys outcome) :
    ∃ i, outcome = .ok (.integer i) ∧ IsLeast {y | y ∈ x :: ys} i := by
  obtain ⟨i, member, ok, below⟩ := joined.extreme (r := (· ≥ ·)) (fun a b => by omega) Int.le_refl
    (fun _ _ _ above below => Int.le_trans below above) Int.min_le_left Int.min_le_right
  exact ⟨i, ok, member, fun y among => Int64.le_iff_toInt_le.mpr (below y among)⟩

end Joined

/-- The operators on integers whose joining from the left is a function too. -/
inductive Joins : BinaryOp → String → (Int → Int → Int) → Prop where
  | add : Joins .add "sum" (· + ·)
  | subtract : Joins .subtract "sub" (· - ·)
  | multiply : Joins .multiply "mul" (· * ·)

theorem Joins.strict {op : BinaryOp} {name : String} {f : Int → Int → Int} (joins : Joins op name f) :
    op.deciding? = none := by
  cases joins <;> rfl

theorem Joins.applyBinary_integers {op : BinaryOp} {name : String} {f : Int → Int → Int}
    (joins : Joins op name f) (x y : Int64) :
    applyBinary op (.integer x) (.integer y) = checkedInt op.symbol (f x.toInt y.toInt) := by
  cases joins <;> rfl

section Calls

variable {below : Below} {s : Setting} {name : String} {body : Args → Except EvalError Value}

theorem callFunction_variadic (later : Registry.builtins.Later s.functions)
    (tried : (Registry.builtinsOf .function name).head? =
      some ⟨name, ⟨[.of .integer], some (.of .integer), .integer⟩, .native (.pure body)⟩)
    (x : Int64) (ys : List Int64) :
    callFunction below s .function name (.integer x :: ys.map .integer) =
      .ofExcept (body ⟨name, .integer x :: ys.map .integer⟩) := by
  have integers : ∀ v ∈ ys.map Value.integer, v.type = .integer := List.forall_mem_map.mpr fun _ _ => rfl
  have fits : Signature.Fits ⟨[.of .integer], some (.of .integer), .integer⟩ [.integer x] (ys.map .integer) :=
    .of_typed rfl (.cons (.same .integer) .nil) integers
  refine (callFunction_pure later (Registry.select_builtins_first tried fits.takes) fits rfl).trans ?_
  rw [Signature.Fits.widened_of_typed rfl integers]
  rfl

end Calls

namespace Setting

variable {s : Setting} {depth : Nat} {a b : Expr} {es : List Expr} {x y : Int64} {ys : List Int64}

abbrev ComesToInteger (s : Setting) (depth : Nat) (e : Expr) (x : Int64) : Prop :=
    s.ComesTo depth e (.integer x)

theorem result_binary {op : BinaryOp} (strict : op.deciding? = none) (left : s.ComesToInteger depth a x)
    (right : s.ComesToInteger depth b y) :
    (eval (depth + 1) s (.binary op a b)).result = applyBinary op (.integer x) (.integer y) := by
  rw [IsStrict.binary strict, left, right]
  rfl

theorem joined_call {operator : String} {onInts : Int → Int → Int} {onFloats : Float → Float → Float}
    (later : Registry.builtins.Later s.functions)
    (tried : (Registry.builtinsOf .function operator).head? =
      some ⟨operator, ⟨[.of .integer], some (.of .integer), .integer⟩,
        .native (.pure (Builtin.fold operator onInts onFloats))⟩)
    (first : s.ComesToInteger depth a x) (others : List.Forall₂ (s.ComesToInteger depth) es ys) :
    Joined operator onInts x ys (eval (depth + 1) s (.call operator (a :: es))).result := by
  have known : List.Forall₂ (s.ComesTo depth) (a :: es) (.integer x :: ys.map .integer) :=
    .cons first (List.forall₂_map_right_iff.mpr others)
  rw [ComesTo.result_call known, callFunction_variadic later tried]
  exact Joined.of_foldlM (fun _ _ => rfl) x ys

theorem joined_chain {op : BinaryOp} {name : String} {f : Int → Int → Int} (joins : Joins op name f)
    (first : s.ComesToInteger depth a x) (others : List.Forall₂ (s.ComesToInteger depth) es ys) :
    Joined op.symbol f x ys (eval (depth + es.length) s (es.foldl (.binary op) a)).result := by
  have known : List.Forall₂ (s.ComesTo depth) es (ys.map .integer) := List.forall₂_map_right_iff.mpr others
  rw [(IsStrict.binary joins.strict).result_foldl known, first]
  exact Joined.of_foldlM joins.applyBinary_integers x ys

theorem joined_function {op : BinaryOp} {name : String} {f : Int → Int → Int} (joins : Joins op name f)
    (later : Registry.builtins.Later s.functions) (first : s.ComesToInteger depth a x)
    (others : List.Forall₂ (s.ComesToInteger depth) es ys) :
    Joined name f x ys (eval (depth + 1) s (.call name (a :: es))).result := by
  cases joins with
  | add => exact joined_call later rfl first others
  | subtract => exact joined_call later rfl first others
  | multiply => exact joined_call later rfl first others

theorem division_results (later : Registry.builtins.Later s.functions) (left : s.ComesToInteger depth a x)
    (right : s.ComesToInteger depth b y) :
    Division x y (eval (depth + 1) s (.call "div" [a, b])).result
      (eval (depth + 1) s (.binary .modulo a b)).result (eval (depth + 1) s (.call "mod" [a, b])).result := by
  have known : List.Forall₂ (s.ComesTo depth) [a, b] [.integer x, .integer y] := .cons left (.cons right .nil)
  have fits : Signature.Fits ⟨[.of .integer, .of .integer], none, .integer⟩ [.integer x, .integer y] [] :=
    ⟨.cons (.same .integer) (.cons (.same .integer) .nil), nofun⟩
  rw [ComesTo.result_builtin known later rfl fits, ComesTo.result_builtin known later rfl fits,
    result_binary rfl left right]
  exact division x y

end Setting

/-- Over any operands that come to integers, and whatever is registered over the built-in functions: the
operators come to the exact result or an overflow; the quotient and the remainder fail for zero and for the
least integer by minus one, and else belong together; the functions of many integers come to what their
operators come to when they join the integers from the left, which is exact or an overflow at the first result
that 64 bits do not hold; and the greatest and the least integer are always found. -/
theorem integerArithmetic_exact (s : Setting) (later : Registry.builtins.Later s.functions) (depth : Nat)
    (a : Expr) (x : Int64) (first : s.ComesToInteger depth a x) :
    (∀ b y, s.ComesToInteger depth b y →
      (∀ op name f, Joins op name f →
        Exact op.symbol (f x.toInt y.toInt) (eval (depth + 1) s (.binary op a b)).result) ∧
      Division x y (eval (depth + 1) s (.call "div" [a, b])).result
        (eval (depth + 1) s (.binary .modulo a b)).result (eval (depth + 1) s (.call "mod" [a, b])).result) ∧
    ∀ es ys, List.Forall₂ (s.ComesToInteger depth) es ys →
      (∀ op name f, Joins op name f →
        Joined name f x ys (eval (depth + 1) s (.call name (a :: es))).result ∧
        Joined op.symbol f x ys (eval (depth + es.length) s (es.foldl (.binary op) a)).result ∧
        ∀ v, (eval (depth + 1) s (.call name (a :: es))).result = .ok v ↔
          (eval (depth + es.length) s (es.foldl (.binary op) a)).result = .ok v) ∧
      (∃ i, (eval (depth + 1) s (.call "max" (a :: es))).result = .ok (.integer i) ∧
        IsGreatest {y | y ∈ x :: ys} i) ∧
      ∃ i, (eval (depth + 1) s (.call "min" (a :: es))).result = .ok (.integer i) ∧
        IsLeast {y | y ∈ x :: ys} i := by
  refine ⟨fun b y second => ⟨fun op name f joins => ?_, Setting.division_results later first second⟩,
    fun es ys others => ⟨fun op name f joins => ?_, ?_, ?_⟩⟩
  · rw [Setting.result_binary joins.strict first second, joins.applyBinary_integers]
    exact exact_checkedInt _ _
  · have function := Setting.joined_function joins later first others
    have chain := Setting.joined_chain joins first others
    exact ⟨function, chain, function.ok_iff chain⟩
  · exact (Setting.joined_call later rfl first others).greatest
  · exact (Setting.joined_call later rfl first others).least

/-- The least integer overflows by minus one, whether it is added or divided by. -/
theorem integerArithmetic_exact_at_limit :
    ∃ (s : Setting) (a b c : Expr), Registry.builtins.Later s.functions ∧
      s.ComesToInteger 1 a Int64.minValue ∧ s.ComesToInteger 1 b (-1) ∧ s.ComesToInteger 1 c 1 ∧
      (eval 2 s (.call "sum" [a, b, c])).result = .error (.integerOverflow "sum") ∧
      (eval 3 s (.binary .add (.binary .add a b) c)).result = .error (.integerOverflow "+") ∧
      (∀ v, (eval 2 s (.call "sub" [a, b, c])).result = .ok v ↔
        (eval 3 s (.binary .subtract (.binary .subtract a b) c)).result = .ok v) ∧
      Division Int64.minValue (-1) (eval 2 s (.call "div" [a, b])).result
        (eval 2 s (.binary .modulo a b)).result (eval 2 s (.call "mod" [a, b])).result := by
  let s : Setting := ⟨.ofTable [], .builtins, {}, .epoch⟩
  obtain ⟨pairs, lists⟩ := integerArithmetic_exact s .refl 1 (.integer Int64.minValue) Int64.minValue rfl
  obtain ⟨-, division⟩ := pairs (.integer (-1)) (-1) rfl
  obtain ⟨joins, -⟩ := lists [.integer (-1), .integer 1] [-1, 1] (.cons rfl (.cons rfl .nil))
  obtain ⟨sum, chain, -⟩ := joins .add "sum" _ .add
  obtain ⟨-, -, agree⟩ := joins .subtract "sub" _ .subtract
  have first : [(-1 : Int64)] <+: [-1, 1] := List.prefix_append [-1] [1]
  have outside : ¬ FitsInt64 (Int64.minValue.toInt + (-1 : Int64).toInt) := by decide
  exact ⟨s, .integer Int64.minValue, .integer (-1), .integer 1, .refl, rfl, rfl, rfl,
    sum.eq_error first outside, chain.eq_error first outside, agree, division⟩

end CardExpr
