import CardExpr.Card.Declarations
import Mathlib.Tactic.Tauto

/-! What a registry holds after a registration: the functions that it held, and the new one behind them. -/

namespace CardExpr

namespace Level

/-- The functions of a table that have the name. -/
def listed (fs : List (String × List Function)) (name : String) : List Function :=
  match fs.find? (fun entry => entry.1 == name) with
  | some entry => entry.2
  | none => []

theorem listed_cons (entry : String × List Function) (rest : List (String × List Function))
    (name : String) :
    listed (entry :: rest) name = if entry.1 = name then entry.2 else listed rest name := by
  unfold listed
  by_cases same : entry.1 = name
  · rw [if_pos same, List.find?_cons_of_pos (by simpa using same)]
  · rw [if_neg same, List.find?_cons_of_neg (by simpa using same)]

theorem listed_append (fs : List (String × List Function)) (f : Function) (name : String) :
    listed (append fs f) name = listed fs name ++ if f.name = name then [f] else [] := by
  induction fs with
  | nil =>
      show listed [(f.name, [f])] name = _
      rw [listed_cons]
      rfl
  | cons entry rest ih =>
      obtain ⟨key, gs⟩ := entry
      unfold append
      by_cases here : key = f.name
      · rw [if_pos here, listed_cons, listed_cons]
        by_cases same : key = name
        · rw [if_pos same, if_pos same, if_pos (here ▸ same)]
        · rw [if_neg same, if_neg same, if_neg (here ▸ same), List.append_nil]
      · rw [if_neg here, listed_cons, listed_cons, ih]
        by_cases same : key = name
        · have other : ¬ f.name = name := fun h => here (same.trans h.symm)
          rw [if_pos same, if_pos same, if_neg other, List.append_nil]
        · rw [if_neg same, if_neg same]

theorem overloads_add (l : Level) (kind other : CallKind) (f : Function) (name : String) :
    (l.add kind f).overloads other name =
      l.overloads other name ++ if kind = other ∧ f.name = name then [f] else [] := by
  have same : ∀ (m : Level) (k : CallKind), m.overloads k name = listed (m.table k) name := fun _ _ => rfl
  rw [same, same]
  cases kind <;> cases other
  · simpa [add, table] using listed_append l.functions f name
  · simp [add, table]
  · simp [add, table]
  · simpa [add, table] using listed_append l.methods f name

end Level

namespace Registry

theorem overloads_eq (r : Registry) (kind : CallKind) (name : String) :
    r.overloads kind name = r.own.overloads kind name ++ r.ancestors.flatMap (·.overloads kind name) :=
  List.flatMap_cons

theorem mem_overloads_add (r : Registry) (kind other : CallKind) (f g : Function) (name : String) :
    g ∈ (r.add kind f).overloads other name ↔
      g ∈ r.overloads other name ∨ (kind = other ∧ f.name = name) ∧ g = f := by
  rw [overloads_eq, overloads_eq]
  show g ∈ (r.own.add kind f).overloads other name ++ r.ancestors.flatMap (·.overloads other name) ↔ _
  rw [Level.overloads_add]
  by_cases here : kind = other ∧ f.name = name
  · simp only [if_pos here, List.mem_append, List.mem_singleton]
    tauto
  · simp [here]

theorem overloads_child (r : Registry) (kind : CallKind) (name : String) :
    r.child.overloads kind name = r.overloads kind name := by
  rw [overloads_eq]
  cases kind <;> rfl

/-- What each declaration keeps, declarations in a row keep. -/
theorem registerAll_preserves {holds : Registry → Prop}
    (step : ∀ r t d, holds r → r.registerCustom d = .ok t → holds t) {r t : Registry}
    {ds : List FunctionDeclaration} (start : holds r) (done : r.registerAll ds = .ok t) : holds t := by
  unfold registerAll at done
  induction ds generalizing r with
  | nil =>
      cases done
      exact start
  | cons d rest ih =>
      rw [List.foldlM_cons] at done
      cases first : r.registerCustom d with
      | error e =>
          rw [first] at done
          cases done
      | ok next =>
          rw [first] at done
          exact ih (step r next d start first) done

end Registry

/-- What holds of the built-in functions, on a level over them and after each declaration holds of the
registries of cards. -/
theorem CardDeclarations.registry_preserves {holds : Registry → Prop} (builtins : holds .builtins)
    (child : ∀ r, holds r → holds r.child)
    (step : ∀ r t d, holds r → r.registerCustom d = .ok t → holds t) {d : CardDeclarations} {r : Registry}
    (done : d.registry = .ok r) : holds r := by
  unfold CardDeclarations.registry at done
  split at done
  · rw [← Except.ok.inj done]
    exact builtins
  · cases registered : Registry.builtins.child.registerAll d.functions with
    | error e =>
        rw [registered] at done
        cases done
    | ok functions =>
        rw [registered] at done
        cases done
        exact Registry.registerAll_preserves step (child _ builtins) registered

end CardExpr
