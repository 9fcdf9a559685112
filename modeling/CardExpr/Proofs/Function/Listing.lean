import Mathlib.Data.List.Forall2
import Mathlib.Data.List.Nodup
import Mathlib.Data.String.Basic
import CardExpr.Proofs.Function.Dispatch

/-!
The listing of a registry. The tables of its levels may hold their names in any order: what is listed, and in
which order, depends on the registrations only.
-/

namespace CardExpr

section Sorting

variable {α β : Type} [DecidableEq β] {rank : α → β}

/-- A sort leaves the elements of a rank in the order in which they were. -/
theorem filter_mergeSort {before : α → α → Bool} (trans : ∀ a b c, before a b → before b c → before a c)
    (total : ∀ a b, before a b || before b a) (ties : ∀ a b, rank a = rank b → before a b)
    (l : List α) (k : β) :
    (l.mergeSort before).filter (rank · = k) = l.filter (rank · = k) := by
  have ranked : (l.filter (rank · = k)).Pairwise (before · ·) := by
    apply List.pairwise_of_forall_mem_list
    intro a first b second
    simp only [List.mem_filter, decide_eq_true_eq] at first second
    exact ties a b (first.2.trans second.2.symm)
  have kept : (l.filter (rank · = k)).Sublist (l.mergeSort before) :=
    List.sublist_mergeSort trans total ranked List.filter_sublist
  have within : (l.filter (rank · = k)).Sublist ((l.mergeSort before).filter (rank · = k)) := by
    simpa using kept.filter (rank · = k)
  exact (within.eq_of_length (((List.mergeSort_perm l before).filter _).length_eq).symm).symm

theorem eq_of_sorted {before : α → α → Prop} (antisymm : ∀ a b, before a b → before b a → rank a = rank b)
    {l m : List α} (first : l.Pairwise before) (second : m.Pairwise before)
    (same : ∀ k, l.filter (rank · = k) = m.filter (rank · = k)) : l = m := by
  have mem_of_mem {l m : List α} (same : ∀ k, l.filter (rank · = k) = m.filter (rank · = k)) {a : α}
      (member : a ∈ l) : a ∈ m := by
    have ranked : a ∈ l.filter (rank · = rank a) := by simpa using member
    rw [same] at ranked
    exact (List.mem_filter.mp ranked).1
  induction l generalizing m with
  | nil =>
      cases m with
      | nil => rfl
      | cons b m => cases mem_of_mem (fun k => (same k).symm) List.mem_cons_self
  | cons a l ih =>
      cases m with
      | nil => cases mem_of_mem same List.mem_cons_self
      | cons b m =>
          obtain ⟨ahead, rest⟩ := List.pairwise_cons.mp first
          obtain ⟨leads, others⟩ := List.pairwise_cons.mp second
          have tied : rank a = rank b := by
            rcases List.mem_cons.mp (mem_of_mem same (List.mem_cons_self (a := a))) with rfl | later
            · rfl
            rcases List.mem_cons.mp (mem_of_mem (fun k => (same k).symm) (List.mem_cons_self (a := b))) with
              rfl | behind
            · rfl
            exact antisymm a b (ahead b behind) (leads a later)
          obtain rfl : a = b := by
            have heads := same (rank b)
            simp only [List.filter_cons, tied, decide_true, if_true] at heads
            exact (List.cons.inj heads).1
          refine congrArg (a :: ·) (ih rest others fun k => ?_)
          have heads := same k
          simp only [List.filter_cons] at heads
          split at heads
          · exact (List.cons.inj heads).2
          · exact heads

end Sorting

namespace Registry

def rank (entry : CallKind × Function) : String × CallKind × Nat :=
  (entry.2.name, entry.1, entry.2.signature.args.length)

/-- An entry may stand before another: it has a lesser name, or it is a function and the other one a method of
its name, or it is of that kind too and has no more fixed arguments. -/
inductive Precedes (a b : CallKind × Function) : Prop where
  | name (lesser : a.2.name < b.2.name)
  | kind (named : a.2.name = b.2.name) (first : a.1 = .function) (second : b.1 = .method)
  | arguments (named : a.2.name = b.2.name) (kind : a.1 = b.1)
      (fewer : a.2.signature.args.length ≤ b.2.signature.args.length)

theorem listedBefore_iff (a b : CallKind × Function) : listedBefore a b = true ↔ Precedes a b := by
  unfold listedBefore
  constructor
  · intro listed
    split at listed
    next named =>
      split at listed
      next kind => exact .arguments named kind (of_decide_eq_true listed)
      next other =>
        have first : a.1 = .function := by simpa using listed
        refine .kind named first ?_
        cases second : b.1 with
        | function => exact absurd (first.trans second.symm) other
        | method => rfl
    next => exact .name (of_decide_eq_true listed)
  · intro precedes
    cases precedes with
    | name lesser => simp [ne_of_lt lesser, lesser]
    | kind named first second => simp [named, first, second]
    | arguments named kind fewer => simp [named, kind, fewer]

variable {a b c : CallKind × Function}

theorem Precedes.trans (first : Precedes a b) (second : Precedes b c) : Precedes a c := by
  cases first with
  | name lesser =>
      refine .name ?_
      cases second with
      | name further => exact lt_trans lesser further
      | kind named => exact named ▸ lesser
      | arguments named => exact named ▸ lesser
  | kind named function method =>
      cases second with
      | name lesser => exact .name (named ▸ lesser)
      | kind _ other => cases method.symm.trans other
      | arguments same kind => exact .kind (named.trans same) function (kind ▸ method)
  | arguments named kind fewer =>
      cases second with
      | name lesser => exact .name (named ▸ lesser)
      | kind same function method => exact .kind (named.trans same) (kind.trans function) method
      | arguments same other least =>
          exact .arguments (named.trans same) (kind.trans other) (Nat.le_trans fewer least)

theorem precedes_total (a b : CallKind × Function) : Precedes a b ∨ Precedes b a := by
  rcases lt_trichotomy a.2.name b.2.name with lesser | named | greater
  · exact .inl (.name lesser)
  · by_cases kind : a.1 = b.1
    · rcases Nat.le_total a.2.signature.args.length b.2.signature.args.length with fewer | more
      · exact .inl (.arguments named kind fewer)
      · exact .inr (.arguments named.symm kind.symm more)
    · cases first : a.1 with
      | function =>
          cases second : b.1 with
          | function => exact absurd (first.trans second.symm) kind
          | method => exact .inl (.kind named first second)
      | method =>
          cases second : b.1 with
          | function => exact .inr (.kind named.symm second first)
          | method => exact absurd (first.trans second.symm) kind
  · exact .inr (.name greater)

theorem Precedes.antisymm (first : Precedes a b) (second : Precedes b a) : rank a = rank b := by
  cases first with
  | name lesser =>
      cases second with
      | name greater => exact absurd greater (lt_asymm lesser)
      | kind named => exact absurd lesser (named ▸ lt_irrefl _)
      | arguments named => exact absurd lesser (named ▸ lt_irrefl _)
  | kind named function method =>
      cases second with
      | name greater => exact absurd greater (named ▸ lt_irrefl _)
      | kind _ other => cases method.symm.trans other
      | arguments _ kind => cases (method.symm.trans kind).trans function
  | arguments named kind fewer =>
      cases second with
      | name greater => exact absurd greater (named ▸ lt_irrefl _)
      | kind _ function method => cases (function.symm.trans kind.symm).trans method
      | arguments _ _ more => simp only [rank, named, kind, Nat.le_antisymm fewer more]

theorem precedes_of_rank (same : rank a = rank b) : Precedes a b := by
  simp only [rank, Prod.mk.injEq] at same
  exact .arguments same.1 same.2.1 (Nat.le_of_eq same.2.2)

theorem listedBefore_trans (a b c : CallKind × Function) :
    listedBefore a b → listedBefore b c → listedBefore a c := by
  simp only [listedBefore_iff]
  exact Precedes.trans

theorem listedBefore_total (a b : CallKind × Function) : listedBefore a b || listedBefore b a := by
  simpa [listedBefore_iff] using precedes_total a b

theorem filter_listed (l : List (CallKind × Function)) (k : String × CallKind × Nat) :
    (l.mergeSort listedBefore).filter (rank · = k) = l.filter (rank · = k) := by
  apply filter_mergeSort listedBefore_trans listedBefore_total
  intro a b same
  exact (listedBefore_iff a b).mpr (precedes_of_rank same)

theorem pairwise_listed (l : List (CallKind × Function)) : (l.mergeSort listedBefore).Pairwise Precedes := by
  have sorted := List.pairwise_mergeSort listedBefore_trans listedBefore_total l
  exact sorted.imp (listedBefore_iff _ _).mp

end Registry

namespace Level

/-- A name stands once in a table, with functions of that name. -/
structure TidyTable (table : List (String × List Function)) : Prop where
  nodup : (table.map (·.1)).Nodup
  named : ∀ entry ∈ table, ∀ f ∈ entry.2, f.name = entry.1

def Tidy (l : Level) : Prop := ∀ kind, TidyTable (l.table kind)

/-- Both levels hold the same functions of each name; their tables hold the names in any order. -/
def Reordered (l m : Level) : Prop := ∀ kind, (l.table kind).Perm (m.table kind)

theorem map_append (table : List (String × List Function)) (f : Function) :
    (append table f).map (·.1) =
      if f.name ∈ table.map (·.1) then table.map (·.1) else table.map (·.1) ++ [f.name] := by
  induction table with
  | nil => rfl
  | cons entry rest ih =>
      obtain ⟨key, fs⟩ := entry
      by_cases here : key = f.name
      · simp [append, here]
      · simp only [append, if_neg here, List.map_cons, ih, List.mem_cons, Ne.symm here, false_or]
        split <;> rfl

theorem TidyTable.append {table : List (String × List Function)} (tidy : TidyTable table) (f : Function) :
    TidyTable (Level.append table f) where
  nodup := by
    rw [map_append]
    split
    next => exact tidy.nodup
    next absent =>
      refine List.nodup_append.mpr ⟨tidy.nodup, List.nodup_singleton _, ?_⟩
      intro name member other single same
      exact absent (List.mem_singleton.mp single ▸ same ▸ member)
  named := by
    have named := tidy.named
    clear tidy
    induction table with
    | nil => simp [Level.append]
    | cons entry rest ih =>
        obtain ⟨here, later⟩ := List.forall_mem_cons.mp named
        obtain ⟨key, fs⟩ := entry
        unfold Level.append
        split
        next same =>
          refine List.forall_mem_cons.mpr ⟨?_, later⟩
          intro g member
          rcases List.mem_append.mp member with old | new
          · exact here g old
          · rw [List.mem_singleton.mp new, ← same]
        next => exact List.forall_mem_cons.mpr ⟨here, ih later⟩

theorem Tidy.add {l : Level} (tidy : l.Tidy) (kind : CallKind) (f : Function) : (l.add kind f).Tidy := by
  intro other
  cases kind with
  | function =>
      cases other with
      | function => exact (tidy .function).append f
      | method => exact tidy .method
  | method =>
      cases other with
      | function => exact tidy .function
      | method => exact (tidy .method).append f

theorem filter_tidy {table : List (String × List Function)} (tidy : TidyTable table) (name : String) :
    (table.flatMap (·.2)).filter (·.name = name) = listed table name := by
  obtain ⟨nodup, named⟩ := tidy
  induction table with
  | nil => rfl
  | cons entry rest ih =>
      obtain ⟨here, later⟩ := List.forall_mem_cons.mp named
      obtain ⟨once, distinct⟩ := List.nodup_cons.mp nodup
      rw [List.flatMap_cons, List.filter_append, ih distinct later, listed_cons]
      split
      next same =>
        have all : entry.2.filter (·.name = name) = entry.2 := by
          apply List.filter_eq_self.mpr
          intro f member
          simpa [same] using here f member
        have none : listed rest name = [] := by
          rw [← ih distinct later, List.filter_eq_nil_iff]
          intro f member
          obtain ⟨other, present, inside⟩ := List.mem_flatMap.mp member
          rw [later other present f inside, ← same]
          simpa using ne_of_mem_of_not_mem (List.mem_map_of_mem present) once
        rw [all, none, List.append_nil]
      next other =>
        have none : entry.2.filter (·.name = name) = [] := by
          apply List.filter_eq_nil_iff.mpr
          intro f member
          simpa [here f member] using other
        rw [none, List.nil_append]

theorem listed_perm {table other : List (String × List Function)} (perm : table.Perm other)
    (nodup : (table.map (·.1)).Nodup) (name : String) : listed table name = listed other name := by
  induction perm with
  | nil => rfl
  | cons entry _ ih => rw [listed_cons, listed_cons, ih (List.nodup_cons.mp nodup).2]
  | swap first second rest =>
      have apart : second.1 ≠ first.1 := by
        simp only [List.map_cons, List.nodup_cons, List.mem_cons, not_or] at nodup
        exact nodup.1.1
      simp only [listed_cons]
      by_cases here : first.1 = name
      · have other : second.1 ≠ name := here ▸ apart
        simp only [if_pos here, if_neg other]
      · simp only [if_neg here]
  | trans front _ ihFront ihBack => exact (ihFront nodup).trans (ihBack ((front.map _).nodup nodup))

theorem Tidy.offered {l : Level} (tidy : l.Tidy) (kind : CallKind) (name : String) :
    Registry.offered [l.entries] kind name = l.overloads kind name := by
  refine Eq.trans ?_ (filter_tidy (tidy kind) name)
  cases kind <;>
    simp [Registry.offered, entries, table, List.filter_flatMap, List.map_flatMap, List.filter_map,
      Function.comp_def]

theorem Reordered.tidy {l m : Level} (reordered : l.Reordered m) (tidy : l.Tidy) : m.Tidy := by
  intro kind
  have perm := reordered kind
  exact ⟨(perm.map _).nodup (tidy kind).nodup, fun entry member =>
    (tidy kind).named entry (perm.mem_iff.mpr member)⟩

theorem Reordered.overloads {l m : Level} (reordered : l.Reordered m) (tidy : l.Tidy) (kind : CallKind)
    (name : String) : m.overloads kind name = l.overloads kind name :=
  (listed_perm (reordered kind) (tidy kind).nodup name).symm

end Level

namespace Registry

variable {r s : Registry} {own : List (CallKind × Function)} {outer : List (List (CallKind × Function))}

/-- Both registries have the same levels, but for the order in which the tables of a level hold their names.
-/
def Reordered (r s : Registry) : Prop := List.Forall₂ Level.Reordered r.levels s.levels

theorem Registered.tidy (registered : r.Registered own outer) : ∀ l ∈ r.levels, l.Tidy := by
  have empty : Level.Tidy {} := by
    intro kind
    cases kind <;> exact ⟨List.nodup_nil, nofun⟩
  induction registered with
  | empty => exact List.forall_mem_singleton.mpr empty
  | child below ih => exact List.forall_mem_cons.mpr ⟨empty, ih⟩
  | add before kind f ih =>
      obtain ⟨here, below⟩ := List.forall_mem_cons.mp ih
      exact List.forall_mem_cons.mpr ⟨here.add kind f, below⟩

theorem Reordered.offered (reordered : r.Reordered s) (tidy : ∀ l ∈ r.levels, l.Tidy) (kind : CallKind)
    (name : String) : offered (s.levels.map (·.entries)) kind name = r.overloads kind name := by
  have step {ls ms : List Level} (reordered : List.Forall₂ Level.Reordered ls ms) (tidy : ∀ l ∈ ls, l.Tidy) :
      Registry.offered (ms.map (·.entries)) kind name = ls.flatMap (·.overloads kind name) := by
    induction reordered with
    | nil => rfl
    | cons first _ ih =>
        obtain ⟨here, below⟩ := List.forall_mem_cons.mp tidy
        rw [List.map_cons, offered_cons, ih below, (first.tidy here).offered, first.overloads here,
          List.flatMap_cons]
  exact step reordered tidy

theorem filter_rank (layers : List (List (CallKind × Function))) (name : String) (kind : CallKind)
    (count : Nat) :
    layers.flatten.filter (rank · = (name, kind, count)) =
      ((offered layers kind name).filter (·.signature.args.length = count)).map (kind, ·) := by
  unfold offered
  induction layers.flatten with
  | nil => rfl
  | cons entry rest ih =>
      obtain ⟨other, f⟩ := entry
      by_cases named : other = kind ∧ f.name = name
      · obtain ⟨rfl, rfl⟩ := named
        by_cases counted : f.signature.args.length = count
        · simpa [rank, counted] using ih
        · simpa [rank, counted] using ih
      · have apart : rank (other, f) ≠ (name, kind, count) := by
          simp only [rank, ne_eq, Prod.mk.injEq]
          exact fun same => named ⟨same.2.1, same.1⟩
        simpa only [List.filter_cons, apart, named, decide_false, Bool.false_eq_true, if_false] using ih

/-- Of each rank the levels hold what was registered, in the order of the levels and of the registrations. -/
theorem Reordered.filter_entries (reordered : r.Reordered s) (registered : r.Registered own outer)
    (k : String × CallKind × Nat) :
    (s.levels.flatMap (·.entries)).filter (rank · = k) = (own :: outer).flatten.filter (rank · = k) := by
  obtain ⟨name, kind, count⟩ := k
  obtain ⟨here, below⟩ := registered.overloads_eq kind name
  rw [List.flatMap_def, filter_rank, filter_rank, reordered.offered registered.tidy,
    Registry.overloads_eq, here,
    below, ← offered_cons]

theorem Reordered.signatures_eq (reordered : r.Reordered s) (registered : r.Registered own outer) :
    s.signatures = (own :: outer).flatten.mergeSort listedBefore := by
  apply eq_of_sorted (fun a b => @Precedes.antisymm a b) (pairwise_listed _) (pairwise_listed _)
  intro k
  rw [filter_listed, filter_listed, reordered.filter_entries registered]

/-- Every registry that comes about has a list of what was registered on its levels. In whichever order the
tables of its levels hold their names, the listing is the same. It has each registration once, in order, and
those of one name, kind and number of fixed arguments stand as they were registered, the own ones before those
of the levels below. -/
theorem signatures_orderFree :
    (∀ r : Registry, r.Reachable → ∃ own outer, r.Registered own outer) ∧
      ∀ (r : Registry) (own : List (CallKind × Function)) (outer : List (List (CallKind × Function))),
        r.Registered own outer → ∀ s t : Registry, r.Reordered s → r.Reordered t →
          s.signatures = t.signatures ∧
            s.signatures.Perm (own :: outer).flatten ∧
            s.signatures.Pairwise Precedes ∧
            ∀ k, s.signatures.filter (rank · = k) = (own :: outer).flatten.filter (rank · = k) := by
  refine ⟨fun _ reachable => reachable.registered, ?_⟩
  intro r own outer registered s t first second
  rw [first.signatures_eq registered, second.signatures_eq registered]
  exact ⟨rfl, List.mergeSort_perm _ _, pairwise_listed _, filter_listed _⟩

/-- Two orders of the names f and g, and functions f of one argument on two levels: the own one is listed
first. -/
theorem signatures_orderFree_of_shadowing :
    ∃ (r s t : Registry) (own : List (CallKind × Function)) (outer : List (List (CallKind × Function)))
      (near far : Function),
      r.Registered own outer ∧ r.Reordered s ∧ r.Reordered t ∧
        s.own.functions.map (·.1) = ["g", "f"] ∧ t.own.functions.map (·.1) = ["f", "g"] ∧
        s.signatures = t.signatures ∧ s.signatures.Perm (own :: outer).flatten ∧
        near.signature ≠ far.signature ∧
        s.signatures.filter (rank · = ("f", .function, 1)) = [(.function, near), (.function, far)] := by
  let body : NativeBody := .pure fun _ => .ok (.boolean true)
  let far : Function := ⟨"f", ⟨[.of .boolean], none, .boolean⟩, .native body⟩
  let near : Function := ⟨"f", ⟨[.of .number], none, .boolean⟩, .native body⟩
  let g : Function := ⟨"g", ⟨[.any], none, .boolean⟩, .native body⟩
  let below : Registry := ({} : Registry).add .function far
  let r : Registry := (below.child.add .function g).add .function near
  let t : Registry := ⟨⟨[("f", [near]), ("g", [g])], []⟩, r.ancestors⟩
  have registered : r.Registered [(.function, g), (.function, near)] [[(.function, far)]] :=
    .add (.add (.child (.add .empty .function far)) .function g) .function near
  have same (l : Level) : l.Reordered l := fun _ => .refl _
  have kept : r.Reordered r := .cons (same _) (.cons (same _) .nil)
  have swapped : r.Reordered t := by
    refine .cons ?_ (.cons (same _) .nil)
    intro kind
    cases kind with
    | function => exact .swap _ _ _
    | method => exact .nil
  obtain ⟨alike, complete, -, stable⟩ := signatures_orderFree.2 r _ _ registered r t kept swapped
  exact ⟨r, r, t, _, _, near, far, registered, kept, swapped, rfl, rfl, alike, complete, by decide,
    stable ("f", .function, 1)⟩

end Registry

end CardExpr
