import CardExpr.Proofs.Card.Declarations
import CardExpr.Proofs.Command.Assignment

/-!
Texts of declarations. A text is a card, whose variables and functions are the elements of its arrays in their
order, or an object of names and values, each of which is a variable of the type that its value has of itself.
-/

namespace CardExpr.Command

/-- A card is an object of nothing but arrays of variables and of functions, and of at least one of them. -/
structure CardShaped (members : List (String × Json)) : Prop where
  present : members ≠ []
  only : ∀ name json, (name, json) ∈ members →
    (name = "variables" ∨ name = "functions") ∧ ∃ items, json = .array items

/-- The variable that a name and its value stand for. -/
inductive Infers : String × Json → VariableDeclaration → Prop where
  | intro {name : String} {json : Json} {v : Value} (spells : json.SpellsValue v) :
      Infers (name, json) ⟨name, v.type, json⟩

/-- What a text of declarations says, or why it says nothing. -/
inductive Reads (text : String) : Except CommandError CardDeclarations → Prop where
  | invalid (unread : Json.read? text = none) : Reads text (.error .invalidJson)
  | noObject {json : Json} (read : Json.read? text = some json) (other : ∀ members, json ≠ .object members) :
      Reads text (.error .noObject)
  | card {members : List (String × Json)} {d : CardDeclarations}
      (read : Json.read? text = some (.object members))
      (shaped : CardShaped members) (spells : (Json.object members).SpellsCard d) : Reads text (.ok d)
  | noCard {members : List (String × Json)} (read : Json.read? text = some (.object members))
      (shaped : CardShaped members) (nothing : ∀ d, ¬ (Json.object members).SpellsCard d) :
      Reads text (.error .invalidJson)
  | flat {members : List (String × Json)} {vars : List VariableDeclaration}
      (read : Json.read? text = some (.object members)) (flat : ¬ CardShaped members)
      (each : List.Forall₂ Infers members vars) : Reads text (.ok { vars := vars })
  | null {members : List (String × Json)} {name : String} {json : Json}
      (read : Json.read? text = some (.object members)) (flat : ¬ CardShaped members)
      (member : (name, json) ∈ members) (within : json.HasNull) :
        Reads text (.error (.conversion ⟨.dict, "null"⟩))

variable {text : String} {members : List (String × Json)}

theorem isCard_iff (members : List (String × Json)) : isCard members = true ↔ CardShaped members := by
  unfold isCard
  rw [Bool.and_eq_true, Bool.not_eq_true', List.isEmpty_eq_false_iff, List.all_eq_true]
  constructor
  · rintro ⟨present, all⟩
    refine ⟨present, fun name json member => ?_⟩
    obtain ⟨known, listed⟩ := Bool.and_eq_true_iff.mp (all (name, json) member)
    refine ⟨by simpa using known, ?_⟩
    cases json with
    | array items => exact ⟨items, rfl⟩
    | _ => cases listed
  · rintro ⟨present, only⟩
    refine ⟨present, fun (name, json) member => ?_⟩
    obtain ⟨known, items, rfl⟩ := only name json member
    exact Bool.and_eq_true_iff.mpr ⟨by simpa using known, rfl⟩

theorem inferDeclaration_eq (member : String × Json) :
    inferDeclaration member = ((Value.ofJson member.2).mapError .conversion).map fun value =>
      ⟨member.1, value.type, member.2⟩ := by
  unfold inferDeclaration
  cases Value.ofJson member.2 <;> rfl

theorem inferDeclaration_eq_ok_iff (member : String × Json) (p : VariableDeclaration) :
    inferDeclaration member = .ok p ↔ Infers member p := by
  rw [inferDeclaration_eq, map_mapError_eq_ok_iff]
  constructor
  · rintro ⟨value, read, rfl⟩
    exact .intro ((Value.ofJson_eq_ok_iff _ _).mp read)
  · rintro ⟨spells⟩
    exact ⟨_, (Value.ofJson_eq_ok_iff _ _).mpr spells, rfl⟩

theorem inferDeclaration_eq_error_iff (member : String × Json) (e : CommandError) :
    inferDeclaration member = .error e ↔ member.2.HasNull ∧ e = .conversion ⟨.dict, "null"⟩ := by
  rw [inferDeclaration_eq, map_mapError_eq_error_iff]
  simp only [Value.ofJson_eq_error_iff]
  constructor
  · rintro ⟨_, ⟨null, rfl⟩, rfl⟩
    exact ⟨null, rfl⟩
  · rintro ⟨null, rfl⟩
    exact ⟨_, ⟨null, rfl⟩, rfl⟩

theorem mapM_inferDeclaration_eq_ok_iff (vars : List VariableDeclaration) :
    members.mapM inferDeclaration = .ok vars ↔ List.Forall₂ Infers members vars := by
  simp only [mapM_eq_ok_iff, inferDeclaration_eq_ok_iff]

theorem mapM_inferDeclaration_eq_error_iff (e : CommandError) :
    members.mapM inferDeclaration = .error e ↔
      (∃ name json, (name, json) ∈ members ∧ json.HasNull) ∧ e = .conversion ⟨.dict, "null"⟩ := by
  constructor
  · intro failed
    obtain ⟨before, ⟨name, json⟩, after, rfl, -, unread⟩ := (mapM_eq_error_iff _ _ _).mp failed
    obtain ⟨null, same⟩ := (inferDeclaration_eq_error_iff _ _).mp unread
    exact ⟨⟨name, json, List.mem_append_right before List.mem_cons_self, null⟩, same⟩
  · rintro ⟨⟨name, json, member, null⟩, rfl⟩
    cases inferred : members.mapM inferDeclaration with
    | error c =>
        obtain ⟨before, first, after, -, -, unread⟩ := (mapM_eq_error_iff _ _ _).mp inferred
        rw [((inferDeclaration_eq_error_iff _ _).mp unread).2]
    | ok vars =>
        obtain ⟨p, -, infers⟩ := exists_right_of_mem ((mapM_eq_ok_iff _ _ _).mp inferred) member
        cases (inferDeclaration_eq_ok_iff _ _).mp infers with
        | intro spells => exact absurd spells (null.spells_nothing _)

theorem readDeclarations_of_card (read : Json.read? text = some (.object members))
    (shaped : CardShaped members) :
    readDeclarations text =
      ((CardDeclarations.ofNode? (Json.Node.ofJson (.object members))).elim (.error .invalidJson) .ok) := by
  unfold readDeclarations
  rw [read]
  show (if isCard members then _ else _) = _
  rw [if_pos ((isCard_iff members).mpr shaped)]
  cases CardDeclarations.ofNode? (Json.Node.ofJson (.object members)) <;> rfl

theorem readDeclarations_of_flat (read : Json.read? text = some (.object members))
    (flat : ¬ CardShaped members) :
    readDeclarations text = (members.mapM inferDeclaration).map fun vars => { vars := vars } := by
  unfold readDeclarations
  rw [read]
  show (if isCard members then _ else _) = _
  rw [if_neg (mt (isCard_iff members).mp flat)]
  cases members.mapM inferDeclaration <;> rfl

theorem reads_readDeclarations (text : String) : Reads text (readDeclarations text) := by
  cases read : Json.read? text with
  | none =>
      unfold readDeclarations
      rw [read]
      exact .invalid read
  | some json =>
      cases json with
      | object members =>
          by_cases shaped : CardShaped members
          · rw [readDeclarations_of_card read shaped]
            have spells := CardDeclarations.ofNode?_ofJson (Json.within_of_read read)
            cases known : CardDeclarations.ofNode? (Json.Node.ofJson (.object members)) with
            | some d => exact .card read shaped ((spells d).mp known)
            | none =>
                refine .noCard read shaped fun d spelled => ?_
                cases known.symm.trans ((spells d).mpr spelled)
          · rw [readDeclarations_of_flat read shaped]
            cases inferred : members.mapM inferDeclaration with
            | ok vars => exact .flat read shaped ((mapM_inferDeclaration_eq_ok_iff vars).mp inferred)
            | error e =>
                obtain ⟨⟨name, json, member, null⟩, rfl⟩ := (mapM_inferDeclaration_eq_error_iff e).mp inferred
                exact .null read shaped member null
      | _ =>
          unfold readDeclarations
          rw [read]
          exact .noObject read nofun

theorem readDeclarations_of_reads {outcome : Except CommandError CardDeclarations}
    (reads : Reads text outcome) :
    readDeclarations text = outcome := by
  cases reads with
  | invalid unread =>
      unfold readDeclarations
      rw [unread]
  | @noObject json read other =>
      unfold readDeclarations
      rw [read]
      cases json with
      | object members => exact absurd rfl (other members)
      | _ => rfl
  | card read shaped spells =>
      have known := (CardDeclarations.ofNode?_ofJson (Json.within_of_read read) _).mpr spells
      rw [readDeclarations_of_card read shaped, known, Option.elim_some]
  | @noCard members read shaped nothing =>
      have unknown : CardDeclarations.ofNode? (Json.Node.ofJson (.object members)) = none := by
        refine Option.eq_none_iff_forall_ne_some.mpr fun d known => nothing d ?_
        exact (CardDeclarations.ofNode?_ofJson (Json.within_of_read read) d).mp known
      rw [readDeclarations_of_card read shaped, unknown, Option.elim_none]
  | flat read flat each =>
      rw [readDeclarations_of_flat read flat, (mapM_inferDeclaration_eq_ok_iff _).mpr each]
      rfl
  | null read flat member within =>
      rw [readDeclarations_of_flat read flat,
        (mapM_inferDeclaration_eq_error_iff _).mpr ⟨⟨_, _, member, within⟩, rfl⟩]
      rfl

theorem readDeclarations_eq_iff (text : String) (outcome : Except CommandError CardDeclarations) :
    readDeclarations text = outcome ↔ Reads text outcome := by
  constructor
  · rintro rfl
    exact reads_readDeclarations text
  · exact readDeclarations_of_reads

end CardExpr.Command
