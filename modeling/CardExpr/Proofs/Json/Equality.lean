import CardExpr.Json.Basic

/-! JSON without doubles is compared by computation. -/

namespace CardExpr

namespace Json

mutual

/-- Equality, except that no double equals another one. -/
def equals : Json → Json → Bool
  | .null, .null => true
  | .bool a, .bool b => a == b
  | .number (.int m), .number (.int n) => m == n
  | .string s, .string t => s == t
  | .array items, .array others => equalItems items others
  | .object members, .object others => equalMembers members others
  | _, _ => false

def equalItems : List Json → List Json → Bool
  | [], [] => true
  | a :: as, b :: bs => equals a b && equalItems as bs
  | _, _ => false

def equalMembers : List (String × Json) → List (String × Json) → Bool
  | [], [] => true
  | (k, a) :: as, (l, b) :: bs => k == l && equals a b && equalMembers as bs
  | _, _ => false

end

mutual

theorem eq_of_equals (a b : Json) (same : a.equals b = true) : a = b := by
  cases a with
  | null => cases b <;> first | rfl | cases same
  | bool x =>
      cases b with
      | bool y => exact congrArg _ (eq_of_beq same)
      | _ => cases same
  | string s =>
      cases b with
      | string t => exact congrArg _ (eq_of_beq same)
      | _ => cases same
  | number m =>
      cases b with
      | number n =>
          cases m with
          | int m =>
              cases n with
              | int n => exact congrArg _ (congrArg _ (eq_of_beq same))
              | float x => cases same
          | float x => cases same
      | _ => cases m <;> cases same
  | array items =>
      cases b with
      | array others => exact congrArg _ (eq_of_equalItems items others same)
      | _ => cases same
  | object members =>
      cases b with
      | object others => exact congrArg _ (eq_of_equalMembers members others same)
      | _ => cases same

theorem eq_of_equalItems (as bs : List Json) (same : equalItems as bs = true) : as = bs := by
  cases as with
  | nil => cases bs <;> first | rfl | cases same
  | cons a as =>
      cases bs with
      | nil => cases same
      | cons b bs =>
          obtain ⟨first, rest⟩ := Bool.and_eq_true_iff.mp same
          rw [eq_of_equals a b first, eq_of_equalItems as bs rest]

theorem eq_of_equalMembers (as bs : List (String × Json)) (same : equalMembers as bs = true) : as = bs := by
  cases as with
  | nil => cases bs <;> first | rfl | cases same
  | cons a as =>
      obtain ⟨k, a⟩ := a
      cases bs with
      | nil => cases same
      | cons b bs =>
          obtain ⟨l, b⟩ := b
          obtain ⟨member, rest⟩ := Bool.and_eq_true_iff.mp same
          obtain ⟨name, first⟩ := Bool.and_eq_true_iff.mp member
          rw [eq_of_beq name, eq_of_equals a b first, eq_of_equalMembers as bs rest]

end

theorem eq_some_of_equals {found : Option Json} {json : Json} (same : found.any (·.equals json) = true) :
    found = some json := by
  cases found with
  | none => cases same
  | some other => rw [eq_of_equals other json same]

end Json

end CardExpr
