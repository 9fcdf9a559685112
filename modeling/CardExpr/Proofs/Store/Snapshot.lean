import CardExpr.Proofs.Evaluation.Alike
import CardExpr.Proofs.Store.Scoping

/-!
Snapshots. The table of all visible variables has for each name what a lookup of it finds, so an evaluation
cannot tell it from the stores, but for the stores that its reads name.
-/

namespace CardExpr

namespace Table

variable {α : Type} {t : Table α} {name : String} {value : α}

def Ascending (t : Table α) : Prop := t.Pairwise fun a b => a.1 < b.1

theorem mem_insert {entry : String × α} (member : entry ∈ t.insert name value) :
    entry = (name, value) ∨ entry ∈ t := by
  induction t with
  | nil => exact .inl (List.mem_singleton.mp member)
  | cons first rest ih =>
      unfold insert at member
      split at member
      · rcases List.mem_cons.mp member with rfl | later
        · exact .inl rfl
        · exact .inr (List.mem_cons_of_mem _ later)
      · split at member
        · rcases List.mem_cons.mp member with rfl | present
          · exact .inl rfl
          · exact .inr present
        · rcases List.mem_cons.mp member with rfl | later
          · exact .inr List.mem_cons_self
          · exact (ih later).imp_right (List.mem_cons_of_mem _)

theorem Ascending.insert (ascending : t.Ascending) (name : String) (value : α) :
    (t.insert name value).Ascending := by
  induction t with
  | nil => exact List.pairwise_singleton _ _
  | cons first rest ih =>
      obtain ⟨key, old⟩ := first
      obtain ⟨ahead, behind⟩ := List.pairwise_cons.mp ascending
      unfold Table.insert
      split
      next same => exact List.pairwise_cons.mpr ⟨fun entry later => same ▸ ahead entry later, behind⟩
      next other =>
        split
        next before =>
          exact List.pairwise_cons.mpr
            ⟨List.forall_mem_cons.mpr ⟨before, fun entry later =>
             before.trans (ahead entry later)⟩, ascending⟩
        next notBefore =>
          refine List.pairwise_cons.mpr ⟨fun entry member => ?_, ih behind⟩
          rcases mem_insert member with same | later
          · rw [same]
            exact lt_of_le_of_ne (not_lt.mp notBefore) other
          · exact ahead entry later

theorem find?_cons (key : String) (held : α) (rest : Table α) (name : String) :
    find? ((key, held) :: rest) name = if key = name then some held else rest.find? name :=
  rfl

theorem find?_eq_none_of_before (before : ∀ entry ∈ t, name < entry.1) : t.find? name = none := by
  induction t with
  | nil => rfl
  | cons first rest ih =>
      obtain ⟨here, later⟩ := List.forall_mem_cons.mp before
      rw [find?_cons, if_neg (ne_of_gt here), ih later]

theorem find?_overlay {β : Type} (ascending : t.Ascending) (f : α → β) (below : Table β) (name : String) :
    (t.foldl (fun u entry => u.insert entry.1 (f entry.2)) below).find? name =
      ((t.find? name).map f).or (below.find? name) := by
  induction t generalizing below with
  | nil => rfl
  | cons first rest ih =>
      obtain ⟨key, held⟩ := first
      obtain ⟨ahead, behind⟩ := List.pairwise_cons.mp ascending
      rw [List.foldl_cons, ih behind, find?_insert, find?_cons]
      by_cases same : key = name
      · subst same
        rw [if_pos rfl, if_pos rfl, find?_eq_none_of_before ahead]
        rfl
      · rw [if_neg same, if_neg same]

end Table

namespace Stores

variable {s t : Stores} {id : ScopeId} {name : String}

/-- The variables that a store declares stand in the order of their names. -/
def Tidy (s : Stores) : Prop := ∀ id, (s.store id).declared.Ascending

theorem Tidy.put (tidy : s.Tidy) (id : ScopeId) (name : String) (held : Held) :
    (s.put id name held).Tidy := by
  intro other
  unfold Stores.put
  rw [store_modify]
  split
  · exact (tidy other).insert name held
  · exact tidy other

theorem Assigns.tidy {update : String × Value} (assigns : s.Assigns id update t) (tidy : s.Tidy) :
    t.Tidy := by
  cases assigns with
  | kept => exact tidy
  | changed => exact tidy.put _ _ _

theorem Alters.tidy (alters : s.Alters t) (tidy : s.Tidy) : t.Tidy := by
  cases alters with
  | nothing => exact tidy
  | created parent =>
      intro id
      rw [store_create]
      split
      · exact List.Pairwise.nil
      · exact tidy id
  | observed o observer =>
      intro id
      unfold observe
      rw [store_modify]
      split <;> exact tidy id
  | @declared o vs m inside made done =>
      obtain ⟨-, rfl⟩ := (s.declareAll_eq_ok_iff o vs m).mp done
      exact List.foldlRecOn vs _ tidy fun u tidy v _ => tidy.put o v.name v.toHeld
  | @written id updates m done =>
      refine setEach_preserves ?_ (setEach_of_batchSet id done) tidy
      intro _ _ _ tidy assigns
      exact assigns.tidy tidy

theorem Reached.tidy (reached : Reached s) : s.Tidy :=
  Later.preserves (fun _ _ tidy alters => alters.tidy tidy) reached fun _ => List.Pairwise.nil

/-- The outermost store is laid down first, so that inner ones hide it as they do from a lookup. -/
theorem find?_snapshot (tidy : s.Tidy) (id : ScopeId) (name : String) :
    (s.snapshot id).find? name = s.get? id name := by
  unfold snapshot get? lookup
  generalize s.chain id = chain
  induction chain with
  | nil => rfl
  | cons o rest ih =>
      rw [List.reverse_cons, List.foldl_append, List.foldl_cons, List.foldl_nil,
        Table.find?_overlay (tidy o) (·.value), ih, List.findSome?_cons]
      show ((s.own? o name).map (·.value)).or _ = _
      cases s.own? o name <;> rfl

theorem get?_eq_some_iff {v : Value} : s.get? id name = some v ↔
    ∃ owner held, s.Owns id name owner held ∧ s.lookup id name = some (v, owner) := by
  unfold get?
  constructor
  · intro found
    obtain ⟨⟨w, owner⟩, answer, rfl⟩ := Option.map_eq_some_iff.mp found
    obtain ⟨held, owns, -⟩ := exists_owns_of_lookup answer
    exact ⟨owner, held, owns, answer⟩
  · rintro ⟨owner, held, -, answer⟩
    rw [answer]
    rfl

theorem contains_iff : s.contains id name = true ↔ ∃ v, s.get? id name = some v := by
  unfold contains
  rw [Option.isSome_iff_exists]
  constructor
  · rintro ⟨owner, declares⟩
    obtain ⟨held, owns⟩ := (s.owner?_eq_some_iff id name owner).mp declares
    exact ⟨held.value, get?_eq_some_iff.mpr ⟨owner, held, owns, owns.lookup_eq⟩⟩
  · rintro ⟨v, found⟩
    obtain ⟨owner, held, owns, -⟩ := get?_eq_some_iff.mp found
    exact ⟨owner, (s.owner?_eq_some_iff id name owner).mpr ⟨held, owns⟩⟩

theorem declaredType?_eq_some_iff {type : ValueType} : s.declaredType? id name = some type ↔
    ∃ owner held, s.Owns id name owner held ∧ held.type = type := by
  show (s.owner? id name >>= fun o => s.own? o name >>= fun held => some held.type) = some type ↔ _
  constructor
  · intro found
    obtain ⟨owner, declares, typed⟩ := Option.bind_eq_some_iff.mp found
    obtain ⟨held, holds, same⟩ := Option.bind_eq_some_iff.mp typed
    obtain ⟨other, owns⟩ := (s.owner?_eq_some_iff id name owner).mp declares
    cases owns.holds.symm.trans holds
    exact ⟨owner, held, owns, Option.some.inj same⟩
  · rintro ⟨owner, held, owns, rfl⟩
    rw [(s.owner?_eq_some_iff id name owner).mpr ⟨held, owns⟩]
    show (s.own? owner name >>= fun held => some held.type) = _
    rw [owns.holds]
    rfl

theorem sameValues_snapshot (tidy : s.Tidy) (id : ScopeId) :
    (s.resolver id).SameValues (.ofTable (s.snapshot id)) := by
  intro name
  unfold Resolver.ofTable resolver
  rw [find?_snapshot tidy, Option.map_map, Option.map_map]
  unfold get?
  rw [Option.map_map]
  rfl

/-- In all stores that can come about, a snapshot has a value for a name exactly if a lookup finds it, in the
innermost store that declares the name, and the names of the snapshot are those that are declared, by the
types that they have in these stores. So an evaluation over the snapshot ends as one over the stores does,
warns of the same, and reads the same names. -/
theorem snapshot_agrees (s : Stores) (reached : Reached s) (id : ScopeId) :
    (∀ name v, (s.snapshot id).find? name = some v ↔
      s.get? id name = some v ∧ ∃ owner held, s.Owns id name owner held ∧
      s.lookup id name = some (v, owner)) ∧
    (∀ name, s.contains id name = true ↔ ∃ v, (s.snapshot id).find? name = some v) ∧
    (∀ name type, s.declaredType? id name = some type ↔ ∃ v owner held,
      (s.snapshot id).find? name = some v ∧ s.lookup id name = some (v, owner) ∧
        s.Owns id name owner held ∧ held.type = type) ∧
    ∀ (functions : Registry) (config : Config) (now : Calendar.DateTime) (e : Expression),
      let live := evaluate ⟨s.resolver id, functions, config, now⟩ e
      let plain := evaluate ⟨.ofTable (s.snapshot id), functions, config, now⟩ e
      plain.result = live.result ∧ plain.reads.map (·.name) = live.reads.map (·.name) ∧
        plain.warnings = live.warnings := by
  have tidy := reached.tidy
  refine ⟨fun name v => ?_, fun name => ?_, fun name type => ?_, fun functions config now e => ?_⟩
  · rw [find?_snapshot tidy]
    exact ⟨fun found => ⟨found, get?_eq_some_iff.mp found⟩, And.left⟩
  · simp only [find?_snapshot tidy, contains_iff]
  · rw [declaredType?_eq_some_iff]
    simp only [find?_snapshot tidy]
    constructor
    · rintro ⟨owner, held, owns, typed⟩
      exact ⟨held.value, owner, held, get?_eq_some_iff.mpr ⟨owner, held, owns, owns.lookup_eq⟩,
        owns.lookup_eq, owns, typed⟩
    · rintro ⟨v, owner, held, -, -, owns, typed⟩
      exact ⟨owner, held, owns, typed⟩
  · exact evaluate_alike ⟨s.resolver id, functions, config, now⟩ _ (sameValues_snapshot tidy id) e

/-- An inner variable hides an outer one of another type; a name that no store declares is read too. -/
theorem snapshot_agrees_of_hidden_type :
    ∃ (s : Stores) (live plain : Setting) (e : Expression), Reached s ∧
      live.resolve = s.resolver 1 ∧ plain.resolve = .ofTable (s.snapshot 1) ∧
      (∃ v, (s.snapshot 1).find? "x" = some v ∧ s.get? 1 "x" = some v) ∧
      s.declaredType? 1 "x" = some .string ∧ s.declaredType? 0 "x" = some .integer ∧
      (evaluate live e).reads = [⟨"x", some 1⟩, ⟨"y", some 0⟩, ⟨"z", none⟩] ∧
      (evaluate plain e).reads.map (·.name) = ["x", "y", "z"] ∧
      (evaluate plain e).result = .ok (.integer 2) := by
  let root := (Stores.create {} none).2
  let outer := (root.put 0 "x" ⟨.integer, .integer 1⟩).put 0 "y" ⟨.integer, .integer 2⟩
  let nested := (outer.create (some 0)).2
  let s := nested.put 1 "x" ⟨.string, .string "a"⟩
  let e : Expression :=
    ⟨"@\x7bx + z !: y\x7d", .tree (.rescue (.binary .add (.variable "x") (.variable "z")) (.variable "y"))⟩
  let live : Setting := ⟨s.resolver 1, {}, {}, .epoch⟩
  have outside : Moves root outer :=
    .declareAll 0 [.infer "x" (.integer 1), .infer "y" (.integer 2)] (by decide) fun v member => by
      rcases List.mem_cons.mp member with rfl | member
      · exact .infer "x" (.integer 1)
      · cases List.mem_singleton.mp member
        exact .infer "y" (.integer 2)
  have inside : Moves nested s :=
    .declareAll 1 [.infer "x" (.string "a")] (by decide) fun v member => by
      cases List.mem_singleton.mp member
      exact .infer "x" (.string "a")
  have reached : Reached s :=
    (((Relation.ReflTransGen.single (.create none nofun)).tail outside).tail
      (.create (some 0) (by simp [outer, root, put, Stores.modify, create]))).tail inside
  obtain ⟨values, -, types, evaluations⟩ := snapshot_agrees s reached 1
  obtain ⟨result, names, -⟩ := evaluations {} {} .epoch e
  have seen : s.Owns 1 "x" 1 ⟨.string, .string "a"⟩ :=
    ⟨⟨[], [0], rfl, fun o member => absurd member List.not_mem_nil⟩, rfl⟩
  have read : (evaluate live e).reads = [⟨"x", some 1⟩, ⟨"y", some 0⟩, ⟨"z", none⟩] := by decide +kernel
  have ended : (evaluate live e).result = .ok (.integer 2) := rfl
  have value : (s.snapshot 1).find? "x" = some (.string "a") := (values "x" _).mpr ⟨rfl, 1, _, seen, rfl⟩
  exact ⟨s, live, ⟨.ofTable (s.snapshot 1), {}, {}, .epoch⟩, e, reached, rfl, rfl, ⟨_, value, rfl⟩,
    (types "x" _).mpr ⟨_, 1, _, value, rfl, seen, rfl⟩, rfl, read,
    names.trans (congrArg (List.map (·.name)) read), result.trans ended⟩

end Stores

end CardExpr
