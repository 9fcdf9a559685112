import CardExpr.Proofs.Store.History
import CardExpr.Proofs.Value.RoundTrip

/-!
The typing of variables. Whatever operations were performed or refused, every variable holds a value of
its type, and none is lost or changes its type.
-/

namespace CardExpr

theorem Value.Fits.type_eq {v w : Value} {t : ValueType} (fits : v.Fits t w) : w.type = t :=
  type_of_conform? ((v.fits_iff t w).mp fits)

theorem Variable.Made.type_eq {v : Variable} (made : v.Made) : v.value.type = v.type := by
  cases made with
  | infer name value => rfl
  | @ofType name type value _ done =>
      unfold Variable.ofType conformTo at done
      cases conforms : value.conform? type with
      | none =>
          rw [conforms] at done
          cases done
      | some w =>
          rw [conforms] at done
          cases done
          exact Value.type_of_conform? conforms

namespace VariableDeclaration

/-- What was read as a value of the type conforms to it, so only the reading can fail. -/
theorem toVariable_eq_error {d : VariableDeclaration} {e : VariableError} (failed : d.toVariable = .error e) :
    ∃ c, Value.ofJsonAs d.value d.type = .error c ∧ e = .invalidValue d.name c := by
  unfold toVariable at failed
  cases read : Value.ofJsonAs d.value d.type with
  | error c =>
      rw [read] at failed
      cases failed
      exact ⟨c, rfl, rfl⟩
  | ok value =>
      have conforms : value.conform? d.type = some value := by
        rw [← Value.type_of_ofJsonAs read]
        exact (value.fits_iff _ _).mp (.exact value)
      rw [read] at failed
      simp [Except.mapError, bind, Except.bind, Variable.ofType, conformTo, conforms, Except.map] at failed

end VariableDeclaration

/-- A card's declarations are refused for a value that cannot be read or a name that is taken. -/
theorem CardDeclarations.Clashes.cases {d : CardDeclarations} {s : Stores} {id : ScopeId} {e : VariableError}
    (clashes : d.Clashes s id e) :
    (∃ p ∈ d.vars, ∃ c, Value.ofJsonAs p.value p.type = .error c ∧ e = .invalidValue p.name c) ∨
      ∃ name, e = .alreadyDeclared name := by
  cases clashes with
  | @invalid before p after e split valid failed =>
      obtain ⟨c, unread, same⟩ := VariableDeclaration.toVariable_eq_error failed
      refine .inl ⟨p, ?_, c, unread, same⟩
      rw [split]
      exact List.mem_append_right before List.mem_cons_self
  | taken valid overlaps =>
      cases overlaps with
      | intro => exact .inr ⟨_, rfl⟩

namespace Stores

def Typed (s : Stores) : Prop :=
  ∀ id name held, s.own? id name = some held → held.value.type = held.type

/-- The variables of `s` are variables of `t` too, in the same stores and of the same types. -/
def Retains (s t : Stores) : Prop :=
  ∀ id name held, s.own? id name = some held → ∃ v, t.own? id name = some { held with value := v }

variable {s t : Stores}

theorem Typed.put (typed : s.Typed) (id : ScopeId) (name : String) (held : Held)
    (same : held.value.type = held.type) : (s.put id name held).Typed := by
  intro other wanted found answer
  rw [own?_put] at answer
  split at answer
  · cases answer
    exact same
  · exact typed other wanted found answer

theorem Retains.refl (s : Stores) : s.Retains s := fun _ _ held found => ⟨held.value, found⟩

theorem Retains.trans {u : Stores} (first : s.Retains t) (second : t.Retains u) : s.Retains u := by
  intro id name held found
  obtain ⟨v, between⟩ := first id name held found
  exact second id name { held with value := v } between

theorem Retains.of_same_variables (same : ∀ id name, t.own? id name = s.own? id name) : s.Retains t :=
  fun id name held found => ⟨held.value, (same id name).trans found⟩

theorem Retains.put {id : ScopeId} {name : String} {held : Held} (found : s.own? id name = some held)
    (v : Value) : s.Retains (s.put id name { held with value := v }) := by
  intro other wanted old before
  rw [own?_put]
  split
  next place =>
    obtain ⟨rfl, -, rfl⟩ := place
    cases found.symm.trans before
    exact ⟨v, rfl⟩
  next => exact ⟨old.value, before⟩

theorem Assigns.typed {id : ScopeId} {update : String × Value} (assigns : s.Assigns id update t)
    (typed : s.Typed) : t.Typed := by
  cases assigns with
  | kept => exact typed
  | changed owns fits => exact typed.put _ _ _ fits.type_eq

theorem Assigns.retains {id : ScopeId} {update : String × Value} (assigns : s.Assigns id update t) :
    s.Retains t := by
  cases assigns with
  | kept => exact .refl s
  | changed owns => exact .put owns.holds _

theorem Alters.typed (alters : s.Alters t) (typed : s.Typed) : t.Typed := by
  cases alters with
  | nothing => exact typed
  | created parent =>
      exact fun id name held found => typed id name held (own?_create s parent id name ▸ found)
  | observed o observer =>
      exact fun id name held found => typed id name held (own?_observe s o id observer name ▸ found)
  | @declared o vs m inside made done =>
      obtain ⟨-, rfl⟩ := (s.declareAll_eq_ok_iff o vs m).mp done
      exact List.foldlRecOn vs _ typed fun u typed v member =>
        typed.put o v.name v.toHeld (made v member).type_eq
  | @written id updates m done =>
      refine setEach_preserves ?_ (setEach_of_batchSet id done) typed
      intro _ _ _ typed assigns
      exact assigns.typed typed

theorem Alters.retains (alters : s.Alters t) : s.Retains t := by
  cases alters with
  | nothing => exact .refl s
  | created parent => exact .of_same_variables (s.own?_create parent)
  | observed o observer => exact .of_same_variables fun id name => s.own?_observe o id observer name
  | @declared o vs m inside made done =>
      obtain ⟨⟨-, fresh⟩, -⟩ := (s.declareAll_eq_ok_iff o vs m).mp done
      have all := s.declaresAll_of_declareAll o done inside
      intro id name held found
      refine ⟨held.value, (all.others id name ?_).trans found⟩
      rintro rfl member
      obtain ⟨v, listed, rfl⟩ := List.mem_map.mp member
      cases (fresh v listed).symm.trans found
  | @written id updates m done =>
      refine setEach_preserves ?_ (setEach_of_batchSet id done) (.refl s)
      intro _ _ _ kept assigns
      exact kept.trans assigns.retains

theorem Reached.typed (reached : Reached s) : s.Typed :=
  Later.preserves (fun _ _ typed alters => alters.typed typed) reached nofun

theorem Later.retains (later : Later s t) : s.Retains t :=
  Later.preserves (fun _ _ kept alters => kept.trans alters.retains) later (.refl s)

/-- In all stores that can come about every variable holds a value of its type, so that a number variable
holds no integer; whatever is done further, the variable stays and keeps its type. A card's declarations
are refused for a value that cannot be read as its type or for a name that is taken, and for nothing else. -/
theorem variables_keepTypes :
    (∀ (s : Stores), Reached s → ∀ (id : ScopeId) (name : String) (held : Held),
      s.own? id name = some held →
        held.value.type = held.type ∧ ∀ t, Later s t →
          ∃ v, t.own? id name = some { held with value := v } ∧ v.type = held.type) ∧
    ∀ (d : CardDeclarations) (s : Stores) (id : ScopeId) (e : DeclarationError),
      d.declareVariables s id = .error e →
        (∃ p ∈ d.vars, ∃ c, Value.ofJsonAs p.value p.type = .error c ∧
          e = .variable (.invalidValue p.name c)) ∨
        ∃ name, e = .variable (.alreadyDeclared name) := by
  constructor
  · intro s reached id name held found
    refine ⟨reached.typed id name held found, fun t later => ?_⟩
    obtain ⟨v, after⟩ := later.retains id name held found
    exact ⟨v, after, Reached.typed (reached.trans later) id name _ after⟩
  · intro d s id e failed
    rw [d.declareVariables_eq] at failed
    cases declared : d.declare s id with
    | ok m =>
        rw [declared] at failed
        cases failed
    | error c =>
        rw [declared] at failed
        cases failed
        rcases ((d.declare_eq_error_iff s id c).mp declared).cases with
          ⟨p, member, f, unread, rfl⟩ | ⟨name, rfl⟩
        · exact .inl ⟨p, member, f, unread, rfl⟩
        · exact .inr ⟨name, rfl⟩

/-- A number variable declared with an integer and assigned another, and its name then refused to a card. -/
theorem variables_keepTypes_of_widening :
    ∃ (s t : Stores) (v : Value) (d : CardDeclarations) (e : DeclarationError), Reached s ∧
      s.own? 0 "n" = some ⟨.number, .number (Int64.toFloat 1)⟩ ∧ Moves s t ∧
      t = s.outcome (s.set 1 "n" (.integer 2)) ∧ t.own? 0 "n" = some ⟨.number, v⟩ ∧ v.type = .number ∧
      d.declareVariables s 0 = .error e ∧
      ((∃ p ∈ d.vars, ∃ c, Value.ofJsonAs p.value p.type = .error c ∧
          e = .variable (.invalidValue p.name c)) ∨
        ∃ name, e = .variable (.alreadyDeclared name)) := by
  let root := (Stores.create {} none).2
  let outer := root.put 0 "n" ⟨.number, .number (Int64.toFloat 1)⟩
  let s := (outer.create (some 0)).2
  let d : CardDeclarations := { vars := [⟨"n", .boolean, .bool true⟩] }
  have declares : Moves root outer :=
    .declareAll 0 [⟨⟨.number, .number (Int64.toFloat 1)⟩, "n"⟩] (by decide) fun v member => by
      cases List.mem_singleton.mp member
      exact @Variable.Made.ofType "n" .number (.integer 1) _ rfl
  have reached : Reached s :=
    ((Relation.ReflTransGen.single (.create none nofun)).tail declares).tail
      (.create (some 0) (by simp [outer, root, put, Stores.modify, create]))
  obtain ⟨typed, refused⟩ := variables_keepTypes
  have writes : Moves s (s.outcome (s.set 1 "n" (.integer 2))) := .set 1 "n" (.integer 2)
  obtain ⟨v, after, same⟩ := (typed s reached 0 "n" _ rfl).2 _ (.single writes)
  exact ⟨s, _, v, d, .variable (.alreadyDeclared "n"), reached, rfl, writes, rfl, after, same, rfl,
    refused d s 0 _ rfl⟩

end Stores

end CardExpr
