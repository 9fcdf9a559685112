/-! Tables keyed by name and kept in the order of their names, and ordered sets. -/

namespace CardExpr

abbrev Table (α : Type) := List (String × α)

namespace Table

variable {α : Type}

def find? : Table α → String → Option α
  | [], _ => none
  | (key, value) :: rest, name => if key = name then some value else find? rest name

def contains (t : Table α) (name : String) : Bool := (t.find? name).isSome

/-- Adds an entry in its place, or replaces the one of that name. -/
def insert : Table α → String → α → Table α
  | [], name, value => [(name, value)]
  | (key, old) :: rest, name, value =>
    if key = name then (name, value) :: rest
    else if name < key then (name, value) :: (key, old) :: rest
    else (key, old) :: insert rest name value

def keys (t : Table α) : List String := t.map (·.1)

/-- Of two entries of one name the later one counts. -/
def ofList (entries : List (String × α)) : Table α :=
  entries.foldl (fun t entry => t.insert entry.1 entry.2) []

@[simp] theorem find?_nil (name : String) : find? ([] : Table α) name = none := rfl

theorem find?_insert (t : Table α) (name other : String) (value : α) :
    (t.insert name value).find? other = if name = other then some value else t.find? other := by
  induction t with
  | nil => simp [insert, find?]
  | cons entry rest ih =>
    obtain ⟨key, old⟩ := entry
    by_cases hk : key = name
    · subst hk
      by_cases ho : key = other <;> simp [insert, find?, ho]
    · by_cases hl : name < key
      · simp [insert, find?, hk, hl]
      · by_cases ho : key = other
        · subst ho
          have : ¬ name = key := fun h => hk h.symm
          simp [insert, find?, hk, hl, this]
        · simp [insert, find?, hk, hl, ho, ih]

end Table

/-- Adds an element in its place unless it is there. -/
def insertOrdered {α : Type} [DecidableEq α] (before : α → α → Bool) (x : α) : List α → List α
  | [] => [x]
  | y :: ys =>
    if x = y then y :: ys
    else if before x y then x :: y :: ys
    else y :: insertOrdered before x ys

def orderedSet {α : Type} [DecidableEq α] (before : α → α → Bool) (xs : List α) : List α :=
  xs.foldl (fun set x => insertOrdered before x set) []

theorem mem_insertOrdered {α : Type} [DecidableEq α] (before : α → α → Bool) (x z : α) (ys : List α) :
    z ∈ insertOrdered before x ys ↔ z = x ∨ z ∈ ys := by
  induction ys with
  | nil => simp [insertOrdered]
  | cons y ys ih =>
    unfold insertOrdered
    split
    · rename_i h
      simp [h]
    · split
      · simp
      · simp only [List.mem_cons, ih]
        exact or_left_comm

theorem mem_orderedSet {α : Type} [DecidableEq α] (before : α → α → Bool) (xs : List α) (z : α) :
    z ∈ orderedSet before xs ↔ z ∈ xs := by
  have fold : ∀ (set : List α),
      z ∈ xs.foldl (fun set x => insertOrdered before x set) set ↔ z ∈ set ∨ z ∈ xs := by
    induction xs with
    | nil => simp
    | cons x xs ih =>
        intro set
        rw [List.foldl_cons, ih, mem_insertOrdered, List.mem_cons, or_comm (a := z = x), or_assoc]
  rw [orderedSet, fold]
  simp

def nameBefore (a b : String) : Bool := decide (a < b)

/-- Names without repetition, in order. -/
abbrev nameSet (names : List String) : List String := orderedSet nameBefore names

end CardExpr
