import CardExpr.Proofs.Evaluation.Failure

/-!
What checking the arguments of a call establishes. A function that a call selects is given as many
arguments as its signature admits, each of a type that the signature has in its position.
-/

namespace CardExpr

/-- The types of what a function is given for an argument, integers having been widened to numbers. -/
def ArgType.holds : ArgType → ValueType → Bool
  | .of expected, t => expected == t
  | expected, t => expected.accepts t

theorem ArgType.holds_coerce {expected : ArgType} {v : Value} (accepts : expected.accepts v.type = true) :
    expected.holds (expected.coerce v).type = true := by
  cases expected with
  | «of» t => cases t <;> cases v <;> first | rfl | cases accepts
  | numeric => exact accepts
  | any => exact accepts
  | oneOf types => exact accepts

theorem Signature.argType?_of_admits {s : Signature} {count index : Nat}
    (admits : s.arity.admits count = true)
    (within : index < count) : ∃ expected, s.argType? index = some expected := by
  unfold argType?
  cases fixed : s.args[index]? with
  | some expected => exact ⟨expected, rfl⟩
  | none =>
      have beyond := List.getElem?_eq_none_iff.mp fixed
      cases tail : s.tail with
      | some expected => exact ⟨expected, rfl⟩
      | none =>
          have exactly : count = s.args.length := by
            simpa [arity, tail, Arity.admits] using admits
          omega

/-- The arguments are of the types that the signature has from an index on. -/
def Signature.FitsFrom (s : Signature) (index : Nat) (values : List Value) : Prop :=
  ∀ i v, values[i]? = some v → ∃ expected, s.argType? (index + i) = some expected ∧
    expected.holds v.type = true

theorem Signature.FitsFrom.cons {s : Signature} {index : Nat} {v : Value} {rest : List Value}
    {expected : ArgType} (position : s.argType? index = some expected) (holds : expected.holds v.type = true)
    (fits : s.FitsFrom (index + 1) rest) : s.FitsFrom index (v :: rest) := by
  intro i w found
  cases i with
  | zero =>
      cases found
      exact ⟨expected, position, holds⟩
  | succ i =>
      rw [← Nat.succ_add_eq_add_succ]
      exact fits i w found

structure Args.Fit (args : Args) (s : Signature) : Prop where
  admitted : s.arity.admits args.values.length = true
  typed : s.FitsFrom 0 args.values

namespace Function

variable {f : Function}

/-- Where there are types for all positions, the check is passed exactly by what is accepted, and what it
hands on is of these types. -/
theorem checkFrom_spec {index : Nat} {values : List Value}
    (positions : ∀ i < values.length, ∃ expected, f.signature.argType? (index + i) = some expected) :
    (acceptsFrom f.signature index values = true ∧ ∃ checked, checkFrom f index values = .ok checked ∧
      checked.length = values.length ∧ f.signature.FitsFrom index checked) ∨
    (acceptsFrom f.signature index values = false ∧ ∃ c, checkFrom f index values = .error c) := by
  induction values generalizing index with
  | nil => exact .inl ⟨rfl, [], rfl, rfl, fun i v found => by cases found⟩
  | cons v rest ih =>
      obtain ⟨expected, position⟩ := positions 0 (Nat.zero_lt_succ _)
      rw [Nat.add_zero] at position
      have later : ∀ i < rest.length, ∃ expected, f.signature.argType? (index + 1 + i) = some expected := by
        intro i within
        rw [Nat.succ_add_eq_add_succ]
        exact positions (i + 1) (Nat.succ_lt_succ within)
      unfold acceptsFrom checkFrom
      rw [position]
      dsimp only [Option.getD]
      cases accepted : expected.accepts v.type with
      | false => exact .inr ⟨rfl, _, if_neg Bool.false_ne_true⟩
      | true =>
          rcases ih later with ⟨accepts, checked, done, length, fits⟩ | ⟨refuses, c, failed⟩
          · refine .inl ⟨accepts, expected.coerce v :: checked, ?_, congrArg (· + 1) length, ?_⟩
            · rw [if_pos rfl, done]
              rfl
            · exact fits.cons position (ArgType.holds_coerce accepted)
          · refine .inr ⟨refuses, c, ?_⟩
            rw [if_pos rfl, failed]
            rfl

/-- Of as many arguments as the signature admits, those that the function accepts fit it when they have been
checked, and others do not pass the check. -/
theorem checkArgs_spec {values : List Value} (admits : f.signature.arity.admits values.length = true) :
    (f.accepts values = true ∧ ∃ args, f.checkArgs values = .ok args ∧ args.Fit f.signature) ∨
      (f.accepts values = false ∧ ∃ c, f.checkArgs values = .error c) := by
  have positions : ∀ i < values.length, ∃ expected, f.signature.argType? (0 + i) = some expected := by
    intro i within
    rw [Nat.zero_add]
    exact Signature.argType?_of_admits admits within
  unfold accepts checkArgs
  rw [admits, Bool.true_and]
  rcases checkFrom_spec positions with ⟨accepts, handed, done, length, fits⟩ | ⟨refuses, c, failed⟩
  · refine .inl ⟨accepts, ⟨f.name, handed⟩, ?_, ⟨by rwa [length], fits⟩⟩
    rw [done]
    rfl
  · refine .inr ⟨refuses, c, ?_⟩
    rw [failed]
    rfl

end Function

theorem Registry.checkArgs_of_select {r : Registry} {kind : CallKind} {name : String} {values : List Value}
    {f : Function} (selected : r.select kind name values = .ok f) :
    ∃ args, f.checkArgs values = .ok args ∧ args.Fit f.signature := by
  have admits := (List.mem_filter.mp (mem_candidates_of_select selected)).2
  rcases f.checkArgs_spec admits with ⟨-, args, checked, fit⟩ | ⟨refuses, c, failed⟩
  · exact ⟨args, checked, fit⟩
  · unfold select at selected
    dsimp only at selected
    split at selected
    next found =>
      cases selected
      have accepts : f.accepts values = true := (List.find?_eq_some_iff_append.mp found).1
      rw [refuses] at accepts
      cases accepts
    next =>
      split at selected
      next first rest listed =>
        split at selected
        next => cases selected
        next args checked =>
          cases selected
          rw [failed] at checked
          cases checked
      next => cases selected

end CardExpr
