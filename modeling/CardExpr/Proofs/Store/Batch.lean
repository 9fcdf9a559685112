import Mathlib.Data.List.Forall2
import CardExpr.Proofs.Store.Difference

/-!
Writes to variables. A batch is refused for the first of its writes that would be refused on its own;
otherwise it leaves the stores as its writes one after another leave them.
-/

namespace CardExpr

section Checking

variable {α β ε : Type} (f : α → Except ε β)

theorem mapM_eq_ok_iff (xs : List α) (ys : List β) :
    xs.mapM f = .ok ys ↔ List.Forall₂ (fun x y => f x = .ok y) xs ys := by
  induction xs generalizing ys with
  | nil =>
      rw [List.mapM_nil, List.forall₂_nil_left_iff]
      exact ⟨fun same => (Except.ok.inj same).symm, fun same => same ▸ rfl⟩
  | cons x xs ih =>
      rw [List.mapM_cons, List.forall₂_cons_left_iff]
      simp only [← ih]
      cases first : f x with
      | error e => exact ⟨nofun, fun ⟨_, _, ok, _⟩ => nomatch ok⟩
      | ok y =>
          cases rest : xs.mapM f with
          | error e => exact ⟨nofun, fun ⟨_, _, _, ok, _⟩ => nomatch ok⟩
          | ok zs =>
              constructor
              · intro same
                exact ⟨y, zs, rfl, rfl, (Except.ok.inj same).symm⟩
              · rintro ⟨_, _, same, others, rfl⟩
                cases same
                cases others
                rfl

section

variable {R : α → β → Prop} {xs : List α} {ys : List β}

theorem exists_left_of_mem (all : List.Forall₂ R xs ys) {y : β} (member : y ∈ ys) : ∃ x ∈ xs, R x y := by
  induction all with
  | nil => cases member
  | @cons x z xs ys first _ ih =>
      rcases List.mem_cons.mp member with rfl | later
      · exact ⟨x, List.mem_cons_self, first⟩
      · obtain ⟨w, present, same⟩ := ih later
        exact ⟨w, List.mem_cons_of_mem x present, same⟩

theorem exists_right_of_mem (all : List.Forall₂ R xs ys) {x : α} (member : x ∈ xs) : ∃ y ∈ ys, R x y := by
  induction all with
  | nil => cases member
  | @cons z y xs ys first _ ih =>
      rcases List.mem_cons.mp member with rfl | later
      · exact ⟨y, List.mem_cons_self, first⟩
      · obtain ⟨w, present, same⟩ := ih later
        exact ⟨w, List.mem_cons_of_mem y present, same⟩

end

theorem mapM_eq_error_iff (xs : List α) (e : ε) :
    xs.mapM f = .error e ↔
      ∃ before x after, xs = before ++ x :: after ∧ (∀ y ∈ before, ∃ b, f y = .ok b) ∧ f x = .error e := by
  induction xs with
  | nil => exact ⟨nofun, fun ⟨before, x, after, split, _⟩ => by simp at split⟩
  | cons x xs ih =>
      rw [List.mapM_cons]
      cases first : f x with
      | error c =>
          constructor
          · intro same
            cases same
            exact ⟨[], x, xs, rfl, fun _ member => (nomatch member), first⟩
          · rintro ⟨before, y, after, split, passed, failed⟩
            cases before with
            | nil =>
                cases split
                cases first.symm.trans failed
                rfl
            | cons z before =>
                cases split
                obtain ⟨b, ok⟩ := passed x List.mem_cons_self
                exact nomatch first.symm.trans ok
      | ok b =>
          have later : (Except.ok b >>= fun b => xs.mapM f >>= fun bs => pure (b :: bs)) = .error e ↔
              xs.mapM f = .error e := by
            cases xs.mapM f with
            | error c => exact Iff.rfl
            | ok bs => exact ⟨nofun, nofun⟩
          rw [later, ih]
          constructor
          · rintro ⟨before, y, after, rfl, passed, failed⟩
            exact ⟨x :: before, y, after, rfl, List.forall_mem_cons.mpr ⟨⟨b, first⟩, passed⟩, failed⟩
          · rintro ⟨before, y, after, split, passed, failed⟩
            cases before with
            | nil =>
                cases split
                exact nomatch first.symm.trans failed
            | cons z before =>
                cases split
                exact ⟨before, y, after, rfl, (List.forall_mem_cons.mp passed).2, failed⟩

end Checking

/-- How a variable of a type holds a value: as it is, or an integer widened to a number. -/
inductive Value.Fits : Value → ValueType → Value → Prop where
  | exact (v : Value) : v.Fits v.type v
  | widened (n : Int64) : (Value.integer n).Fits .number (.number n.toFloat)

theorem Value.fits_iff (v : Value) (t : ValueType) (w : Value) : v.Fits t w ↔ v.conform? t = some w := by
  constructor
  · intro fits
    cases fits with
    | exact => cases v <;> rfl
    | widened n => rfl
  · intro conforms
    unfold conform? at conforms
    split at conforms
    · cases conforms
      exact .widened _
    · split at conforms
      next same =>
        cases conforms
        exact same ▸ .exact v
      · cases conforms

namespace Stores

/-- The innermost store of the chain that declares the name, and the variable that it holds. -/
structure Owns (s : Stores) (id : ScopeId) (name : String) (owner : ScopeId) (held : Held) : Prop where
  innermost : ∃ inner outer, s.chain id = inner ++ owner :: outer ∧ ∀ o ∈ inner, s.own? o name = none
  holds : s.own? owner name = some held

/-- Why a write on its own is refused. -/
inductive Refuses (s : Stores) (id : ScopeId) (update : String × Value) : VariableError → Prop where
  | unknown (undeclared : ∀ o ∈ s.chain id, s.own? o update.1 = none) :
      Refuses s id update (.unknown update.1)
  | typeMismatch {owner held} (owns : s.Owns id update.1 owner held)
      (misfit : ∀ w, ¬ update.2.Fits held.type w) :
      Refuses s id update (.typeMismatch update.1 held.type update.2.type)

/-- The stores after a write on its own. -/
inductive Assigns (s : Stores) (id : ScopeId) (update : String × Value) : Stores → Prop where
  | kept {owner held w} (owns : s.Owns id update.1 owner held) (fits : update.2.Fits held.type w)
      (same : held.value.same w = true) : Assigns s id update s
  | changed {owner held w} (owns : s.Owns id update.1 owner held) (fits : update.2.Fits held.type w)
      (differs : held.value.same w = false) :
      Assigns s id update (s.put owner update.1 { held with value := w })

theorem owner?_eq_some_iff (s : Stores) (id : ScopeId) (name : String) (owner : ScopeId) :
    s.owner? id name = some owner ↔ ∃ held, s.Owns id name owner held := by
  unfold owner?
  rw [List.find?_eq_some_iff_append]
  constructor
  · rintro ⟨declares, inner, outer, chain, hidden⟩
    obtain ⟨held, holds⟩ := Option.isSome_iff_exists.mp declares
    exact ⟨held, ⟨inner, outer, chain, fun o member => by simpa using hidden o member⟩, holds⟩
  · rintro ⟨held, ⟨inner, outer, chain, hidden⟩, holds⟩
    exact ⟨by rw [holds]; rfl, inner, outer, chain, fun o member => by simp [hidden o member]⟩

theorem owner?_eq_none_iff (s : Stores) (id : ScopeId) (name : String) :
    s.owner? id name = none ↔ ∀ o ∈ s.chain id, s.own? o name = none := by
  simp [owner?]

theorem Owns.unique {s : Stores} {id : ScopeId} {name : String} {owner other : ScopeId} {held found : Held}
    (first : s.Owns id name owner held) (second : s.Owns id name other found) :
    other = owner ∧ found = held := by
  have same := ((s.owner?_eq_some_iff id name other).mpr ⟨found, second⟩).symm.trans
    ((s.owner?_eq_some_iff id name owner).mpr ⟨held, first⟩)
  cases same
  exact ⟨rfl, Option.some.inj (second.holds.symm.trans first.holds)⟩

variable (s : Stores) (id : ScopeId)

theorem check_eq (update : String × Value) :
    s.check id update =
      match s.owner? id update.1 with
      | none => .error (.unknown update.1)
      | some owner =>
        match (s.own? owner update.1).map (·.type) with
        | none => .error (.unknown update.1)
        | some type => (conformTo update.1 type update.2).map fun v => ⟨owner, update.1, v⟩ := by
  unfold check
  dsimp only
  cases s.owner? id update.1 with
  | none => rfl
  | some owner =>
      dsimp only
      cases s.own? owner update.1 <;> rfl

theorem check_of_undeclared {update : String × Value}
    (undeclared : ∀ o ∈ s.chain id, s.own? o update.1 = none) :
    s.check id update = .error (.unknown update.1) := by
  rw [check_eq, (s.owner?_eq_none_iff id update.1).mpr undeclared]

theorem check_of_owns {update : String × Value} {owner : ScopeId} {held : Held}
    (owns : s.Owns id update.1 owner held) :
    s.check id update = (conformTo update.1 held.type update.2).map fun v => ⟨owner, update.1, v⟩ := by
  rw [check_eq, (s.owner?_eq_some_iff id update.1 owner).mpr ⟨held, owns⟩]
  simp only [owns.holds, Option.map_some]

theorem check_eq_error_iff (update : String × Value) (e : VariableError) :
    s.check id update = .error e ↔ s.Refuses id update e := by
  constructor
  · intro failed
    cases owned : s.owner? id update.1 with
    | none =>
        have undeclared := (s.owner?_eq_none_iff id update.1).mp owned
        rw [s.check_of_undeclared id undeclared] at failed
        cases failed
        exact .unknown undeclared
    | some owner =>
        obtain ⟨held, owns⟩ := (s.owner?_eq_some_iff id update.1 owner).mp owned
        rw [s.check_of_owns id owns] at failed
        unfold conformTo at failed
        split at failed
        · cases failed
        next misfit =>
          cases failed
          refine .typeMismatch owns fun w fits => ?_
          rw [(update.2.fits_iff held.type w).mp fits] at misfit
          cases misfit
  · rintro (undeclared | ⟨owns, misfit⟩)
    · exact s.check_of_undeclared id undeclared
    · rw [s.check_of_owns id owns]
      unfold conformTo
      split
      next w fits => exact absurd ((update.2.fits_iff _ w).mpr fits) (misfit w)
      · rfl

theorem check_eq_ok_iff (update : String × Value) (w : Write) :
    s.check id update = .ok w ↔
      ∃ held, s.Owns id update.1 w.owner held ∧ update.2.Fits held.type w.value ∧ w.name = update.1 := by
  constructor
  · intro passed
    cases owned : s.owner? id update.1 with
    | none =>
        rw [s.check_of_undeclared id ((s.owner?_eq_none_iff id update.1).mp owned)] at passed
        cases passed
    | some owner =>
        obtain ⟨held, owns⟩ := (s.owner?_eq_some_iff id update.1 owner).mp owned
        rw [s.check_of_owns id owns] at passed
        unfold conformTo at passed
        split at passed
        next v fits =>
          cases passed
          exact ⟨held, owns, (update.2.fits_iff held.type v).mpr fits, rfl⟩
        · cases passed
  · rintro ⟨held, owns, fits, named⟩
    obtain ⟨owner, name, value⟩ := w
    subst named
    rw [s.check_of_owns id owns]
    unfold conformTo
    rw [(update.2.fits_iff held.type value).mp fits]
    rfl

def write (w : Write) : Stores :=
  match s.own? w.owner w.name with
  | none => s
  | some held => if held.value.same w.value then s else s.put w.owner w.name { held with value := w.value }

theorem stores_write (m : Mutation) (w : Write) : (m.write w).stores = m.stores.write w := by
  unfold Mutation.write write
  cases m.stores.own? w.owner w.name with
  | none => rfl
  | some held =>
      dsimp only
      split <;> rfl

theorem batchSet_eq_ok_iff (updates : List (String × Value)) (m : Mutation) :
    s.batchSet id updates = .ok m ↔
      ∃ writes, updates.mapM (s.check id) = .ok writes ∧ m = writes.foldl Mutation.write { stores := s } := by
  unfold batchSet
  cases updates.mapM (s.check id) with
  | error e => exact ⟨nofun, fun ⟨_, failed, _⟩ => nomatch failed⟩
  | ok writes =>
      constructor
      · intro done
        exact ⟨writes, rfl, (Except.ok.inj done).symm⟩
      · rintro ⟨_, same, rfl⟩
        cases same
        rfl

theorem stores_batchSet {updates : List (String × Value)} {m : Mutation}
    (done : s.batchSet id updates = .ok m) :
    ∃ writes, updates.mapM (s.check id) = .ok writes ∧ m.stores = writes.foldl write s := by
  obtain ⟨writes, checked, rfl⟩ := (s.batchSet_eq_ok_iff id updates m).mp done
  refine ⟨writes, checked, ?_⟩
  exact (List.foldl_hom Mutation.stores fun m w => (stores_write m w).symm).symm

theorem batchSet_eq_error_iff (updates : List (String × Value)) (e : VariableError) :
    s.batchSet id updates = .error e ↔
      ∃ before update after, updates = before ++ update :: after ∧
        (∀ u ∈ before, ∀ c, ¬ s.Refuses id u c) ∧ s.Refuses id update e := by
  have failed : s.batchSet id updates = .error e ↔ updates.mapM (s.check id) = .error e := by
    unfold batchSet
    cases updates.mapM (s.check id) with
    | error c => simp [Except.map]
    | ok writes => exact ⟨nofun, nofun⟩
  have passes (u : String × Value) : (∃ w, s.check id u = .ok w) ↔ ∀ c, ¬ s.Refuses id u c := by
    simp only [← check_eq_error_iff]
    cases s.check id u with
    | error c => exact ⟨fun ⟨_, ok⟩ => (nomatch ok), fun none => absurd rfl (none c)⟩
    | ok w => exact ⟨fun _ _ => nofun, fun _ => ⟨w, rfl⟩⟩
  rw [failed, mapM_eq_error_iff]
  simp only [passes, check_eq_error_iff]

theorem set_eq_error_iff (update : String × Value) (e : VariableError) :
    s.set id update.1 update.2 = .error e ↔ s.Refuses id update e := by
  refine (s.batchSet_eq_error_iff id [update] e).trans ?_
  constructor
  · rintro ⟨before, u, after, split, -, refused⟩
    cases before with
    | nil =>
        cases split
        exact refused
    | cons first before => simp at split
  · intro refused
    exact ⟨[], update, [], rfl, fun _ member => (nomatch member), refused⟩

theorem set_eq (name : String) (value : Value) :
    s.set id name value = (s.check id (name, value)).map fun w => Mutation.write { stores := s } w := by
  show Except.map _ ([(name, value)].mapM (s.check id)) = _
  rw [List.mapM_cons, List.mapM_nil]
  cases s.check id (name, value) <;> rfl

theorem assigns_iff_write (update : String × Value) (t : Stores) :
    s.Assigns id update t ↔ ∃ w, s.check id update = .ok w ∧ t = s.write w := by
  simp only [check_eq_ok_iff]
  constructor
  · rintro (⟨owns, fits, same⟩ | ⟨owns, fits, differs⟩)
    · exact ⟨⟨_, update.1, _⟩, ⟨_, owns, fits, rfl⟩, by simp only [write, owns.holds, same, if_true]⟩
    · exact ⟨⟨_, update.1, _⟩, ⟨_, owns, fits, rfl⟩, by simp [write, owns.holds, differs]⟩
  · rintro ⟨⟨owner, name, value⟩, ⟨held, owns, fits, rfl⟩, rfl⟩
    simp only [write, owns.holds]
    split
    next same => exact .kept owns fits same
    next differs => exact .changed owns fits (Bool.eq_false_iff.mpr differs)

theorem set_eq_ok_iff (update : String × Value) (t : Stores) :
    (∃ m, s.set id update.1 update.2 = .ok m ∧ m.stores = t) ↔ s.Assigns id update t := by
  rw [assigns_iff_write, set_eq]
  cases s.check id update with
  | error e => exact ⟨fun ⟨_, failed, _⟩ => (nomatch failed), fun ⟨_, failed, _⟩ => nomatch failed⟩
  | ok w =>
      constructor
      · rintro ⟨m, done, rfl⟩
        cases done
        exact ⟨w, rfl, stores_write _ w⟩
      · rintro ⟨_, same, rfl⟩
        cases same
        exact ⟨_, rfl, stores_write _ w⟩

/-- Both have the same chains, and the same variables of the same types in them. -/
structure Alike (s t : Stores) : Prop where
  chain_eq : ∀ id, t.chain id = s.chain id
  type_eq : ∀ id name, (t.own? id name).map (·.type) = (s.own? id name).map (·.type)

theorem Alike.refl : Alike s s := ⟨fun _ => rfl, fun _ _ => rfl⟩

theorem Alike.trans {s t u : Stores} (first : s.Alike t) (second : t.Alike u) : s.Alike u where
  chain_eq id := (second.chain_eq id).trans (first.chain_eq id)
  type_eq id name := (second.type_eq id name).trans (first.type_eq id name)

theorem alike_write (w : Write) : s.Alike (s.write w) := by
  unfold write
  split
  · exact .refl s
  next held found =>
    split
    · exact .refl s
    · refine ⟨fun id => ?_, fun id name => ?_⟩
      · unfold chain
        rw [ancestors_put]
      · rw [own?_put]
        split
        next place =>
          obtain ⟨rfl, -, rfl⟩ := place
          rw [found]
          rfl
        · rfl

variable {s}

/-- A check looks at names and types, and these no write changes. -/
theorem Alike.check_eq {t : Stores} (alike : s.Alike t) (update : String × Value) :
    t.check id update = s.check id update := by
  have declares (o : ScopeId) : (t.own? o update.1).isSome = (s.own? o update.1).isSome := by
    rw [← Option.isSome_map, alike.type_eq, Option.isSome_map]
  have owner : t.owner? id update.1 = s.owner? id update.1 := by
    unfold owner?
    simp only [alike.chain_eq, declares]
  rw [Stores.check_eq, Stores.check_eq, owner]
  simp only [alike.type_eq]

def setEach (s : Stores) (id : ScopeId) (updates : List (String × Value)) : Except VariableError Stores :=
  updates.foldlM (fun t u => (t.set id u.1 u.2).map (·.stores)) s

theorem setEach_eq_of_checked {t : Stores} (alike : s.Alike t) {updates : List (String × Value)}
    {writes : List Write} (checked : List.Forall₂ (fun u w => s.check id u = .ok w) updates writes) :
    t.setEach id updates = .ok (writes.foldl write t) := by
  induction checked generalizing t with
  | nil => rfl
  | @cons update w updates writes passed _ ih =>
      have first : (t.set id update.1 update.2).map (·.stores) = .ok (t.write w) := by
        rw [set_eq, alike.check_eq id update, passed]
        exact congrArg Except.ok (stores_write _ w)
      unfold setEach
      rw [List.foldlM_cons, first]
      exact ih (alike.trans (t.alike_write w))

/-- A batch that is not refused leaves the stores as its writes one after another do. -/
theorem setEach_of_batchSet {updates : List (String × Value)} {m : Mutation}
    (done : s.batchSet id updates = .ok m) : s.setEach id updates = .ok m.stores := by
  obtain ⟨writes, checked, after⟩ := s.stores_batchSet id done
  rw [after]
  exact setEach_eq_of_checked id (.refl s) ((mapM_eq_ok_iff _ _ _).mp checked)

end Stores

end CardExpr
