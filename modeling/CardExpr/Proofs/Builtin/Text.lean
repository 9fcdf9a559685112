import CardExpr.Proofs.Builtin.Arithmetic
import CardExpr.Proofs.Text.Search

/-!
Positions in strings. The functions that measure, cut and search strings all count characters, and agree.
-/

namespace CardExpr

namespace Positions

def len (e : Expr) : Expr := .call "len" [e]

def substring (e i j : Expr) : Expr := .call "substring" [e, i, j]

def contains (e f : Expr) : Expr := .call "contains" [e, f]

def index (e f : Expr) : Expr := .call "index" [e, f]

def lastIndex (e f : Expr) : Expr := .call "lastIndex" [e, f]

/-- A text of no more bytes than can be addressed. -/
def Addressable (text : String) : Prop := (Text.encode text.toList).length ≤ Int64.maxValue.toInt

instance : DecidablePred Addressable := fun _ => inferInstanceAs (Decidable (_ ≤ _))

/-- The characters from one position to another are what the second tree comes to. -/
def StandsAt (s : Setting) (depth : Nat) (e f : Expr) (n : Int64) : Prop :=
  ∃ v, s.ComesTo depth f v ∧
    s.ComesTo (depth + 3) (substring e (.integer n) (.binary .add (.integer n) (len f))) v

def slice (text : String) (a b : Int) : String :=
  String.ofList ((text.toList.drop a.toNat).take (b - a).toNat)

structure Within (text : String) (a b : Int) : Prop where
  nonnegative : 0 ≤ a
  ordered : a ≤ b
  inside : b ≤ text.length

/-- What a cut from one position to another comes to, where both of them and the count are known. -/
structure Cuts (s : Setting) (depth : Nat) (e i j : Expr) (a b count : Int64) : Prop where
  succeeds_iff : (∃ v, s.ComesTo (depth + 1) (substring e i j) v) ↔ 0 ≤ a ∧ a ≤ b ∧ b ≤ count
  counts : ∀ v, s.ComesTo (depth + 1) (substring e i j) v →
    ∃ n : Int64, s.ComesTo (depth + 2) (len (substring e i j)) (.integer n) ∧ n.toInt = b.toInt - a.toInt
  joins : ∀ k c v w, s.ComesTo depth k (.integer c) → s.ComesTo (depth + 1) (substring e i j) v →
    s.ComesTo (depth + 1) (substring e j k) w →
    ∃ u, s.ComesTo (depth + 2) (.binary .add (substring e i j) (substring e j k)) u ∧
      s.ComesTo (depth + 1) (substring e i k) u

/-- What the searches come to. Positions count characters, also where the bytes of the text are searched. -/
inductive Searches (s : Setting) (depth : Nat) (e f : Expr) (text part : String) : Prop where
  | nowhere
      (isContained : s.ComesTo (depth + 1) (contains e f) (.boolean false))
      (first : s.ComesTo (depth + 1) (index e f) (.integer (-1)))
      (last : s.ComesTo (depth + 1) (lastIndex e f) (.integer (-1)))
      (missing : ∀ n, ¬ StandsAt s depth e f n)
      (missingBytes : ∀ k, ¬ Text.OccursAt (Text.encode part.toList) (Text.encode text.toList) k)
  | somewhere {n m : Int64}
      (isContained : s.ComesTo (depth + 1) (contains e f) (.boolean true))
      (first : s.ComesTo (depth + 1) (index e f) (.integer n))
      (last : s.ComesTo (depth + 1) (lastIndex e f) (.integer m))
      (ordered : 0 ≤ n ∧ n ≤ m)
      (isLeast : IsLeast {i | StandsAt s depth e f i} n)
      (isGreatest : IsGreatest {i | StandsAt s depth e f i} m)
      (firstByte : IsLeast {k | Text.OccursAt (Text.encode part.toList) (Text.encode text.toList) k}
        (Text.byteOffset text.toList n.toInt.toNat))
      (lastByte : IsGreatest {k | Text.OccursAt (Text.encode part.toList) (Text.encode text.toList) k}
        (Text.byteOffset text.toList m.toInt.toNat))

section Slices

variable {text : String} {a b c : Int}

theorem length_slice (within : Within text a b) : ((slice text a b).length : Int) = b - a := by
  obtain ⟨nonnegative, ordered, inside⟩ := within
  rw [slice, String.length_ofList, List.length_take, List.length_drop, String.length_toList]
  omega

theorem slice_append (first : Within text a b) (second : Within text b c) :
    slice text a b ++ slice text b c = slice text a c := by
  obtain ⟨nonnegative, ordered, -⟩ := first
  have further := second.ordered
  have whole : (c - a).toNat = (b - a).toNat + (c - b).toNat := by omega
  have behind : b.toNat = a.toNat + (b - a).toNat := by omega
  rw [slice, slice, slice, ← String.ofList_append, whole, List.take_add, List.drop_drop, behind]

theorem substring_eq_ok_iff {a b : Int64} {v : Value} :
    Builtin.substring ⟨"substring", [.string text, .integer a, .integer b]⟩ = .ok v ↔
      Within text a.toInt b.toInt ∧ v = .string (slice text a.toInt b.toInt) := by
  show (if a.toInt < 0 ∨ (text.length : Int) < b.toInt then _ else
    if b.toInt < a.toInt then _ else Except.ok (Value.string (slice text a.toInt b.toInt))) = _ ↔ _
  split
  next outside =>
    refine iff_of_false nofun ?_
    rintro ⟨⟨nonnegative, ordered, inside⟩, -⟩
    omega
  next inside =>
    split
    next descending =>
      refine iff_of_false nofun ?_
      rintro ⟨⟨nonnegative, ordered, inside⟩, -⟩
      omega
    next ordered =>
      have within : Within text a.toInt b.toInt := ⟨by omega, by omega, by omega⟩
      simp [within, eq_comm]

/-- A part occurs where the characters are its own from there on. -/
theorem occursAt_iff_slice {part : String} {n : Int} :
    0 ≤ n ∧ Text.OccursAt part.toList text.toList n.toNat ↔
      Within text n (n + part.length) ∧ part = slice text n (n + part.length) := by
  have width : (n + part.length - n).toNat = part.toList.length := by
    rw [String.length_toList]
    omega
  rw [Text.occursAt_iff_take, slice, width, ← String.toList_inj, String.toList_ofList]
  simp only [String.length_toList]
  constructor
  · rintro ⟨nonnegative, fits, same⟩
    exact ⟨⟨nonnegative, by omega, by omega⟩, same.symm⟩
  · rintro ⟨⟨nonnegative, -, inside⟩, same⟩
    exact ⟨nonnegative, by omega, same.symm⟩

end Slices

section Calls

variable {s : Setting} {depth : Nat} {e f i j : Expr} {text part : String} {a b : Int64}

theorem fits_length (addressable : Addressable text) : FitsInt64 text.length := by
  have chars := Text.length_le_length_encode text.toList
  rw [String.length_toList] at chars
  unfold Addressable at addressable
  rw [Int64.toInt_maxValue] at addressable
  rw [fitsInt64_iff]
  omega

theorem result_len (later : Registry.builtins.Later s.functions) (known : s.ComesTo depth e (.string text)) :
    s.ComesTo (depth + 1) (len e) (.integer (Int64.ofInt text.length)) := by
  have tried : (Registry.builtinsOf .function "len").head? =
      some ⟨"len", ⟨[Builtin.string], none, .integer⟩, .native (.pure (Builtin.onString Builtin.lengthOf))⟩ :=
    rfl
  exact Setting.ComesTo.result_builtin (.cons known .nil) later tried ⟨.cons (.same .string) .nil, nofun⟩

theorem result_substring (later : Registry.builtins.Later s.functions)
    (known : s.ComesTo depth e (.string text))
    (start : s.ComesTo depth i (.integer a)) (stop : s.ComesTo depth j (.integer b)) :
    (eval (depth + 1) s (substring e i j)).result =
      Builtin.substring ⟨"substring", [.string text, .integer a, .integer b]⟩ := by
  have tried : (Registry.builtinsOf .function "substring").head? = some ⟨"substring",
      ⟨[Builtin.string, Builtin.integer, Builtin.integer], none, .string⟩,
      .native (.pure Builtin.substring)⟩ := rfl
  exact Setting.ComesTo.result_builtin (.cons known (.cons start (.cons stop .nil))) later tried
    ⟨.cons (.same .string) (.cons (.same .integer) (.cons (.same .integer) .nil)), nofun⟩

theorem result_onStrings {name : String} {returns : ValueType} {answer : String → String → Value}
    (later : Registry.builtins.Later s.functions)
    (tried : (Registry.builtinsOf .function name).head? = some ⟨name,
      ⟨[Builtin.string, Builtin.string], none, returns⟩, .native (.pure (Builtin.onStrings answer))⟩)
    (known : s.ComesTo depth e (.string text)) (sought : s.ComesTo depth f (.string part)) :
    s.ComesTo (depth + 1) (.call name [e, f]) (answer text part) :=
  Setting.ComesTo.result_builtin (.cons known (.cons sought .nil)) later tried
    ⟨.cons (.same .string) (.cons (.same .string) .nil), nofun⟩

theorem result_contains (later : Registry.builtins.Later s.functions)
    (known : s.ComesTo depth e (.string text)) (sought : s.ComesTo depth f (.string part)) :
    s.ComesTo (depth + 1) (contains e f) (.boolean (Text.find? part.toList text.toList).isSome) := by
  have tried : (Registry.builtinsOf .function "contains").head? = some ⟨"contains",
      ⟨[Builtin.string, Builtin.string], none, .boolean⟩,
      .native (.pure (Builtin.onStrings Builtin.containsText))⟩ := rfl
  exact result_onStrings later tried known sought

theorem result_index (later : Registry.builtins.Later s.functions) (known : s.ComesTo depth e (.string text))
    (sought : s.ComesTo depth f (.string part)) :
    s.ComesTo (depth + 1) (index e f) (Builtin.positionOf (Text.find? part.toList text.toList)) := by
  have tried : (Registry.builtinsOf .function "index").head? = some ⟨"index",
      ⟨[Builtin.string, Builtin.string], none, .integer⟩,
      .native (.pure (Builtin.onStrings fun s t => Builtin.positionOf (Text.find? t.toList s.toList)))⟩ := rfl
  exact result_onStrings later tried known sought

theorem result_lastIndex (later : Registry.builtins.Later s.functions)
    (known : s.ComesTo depth e (.string text)) (sought : s.ComesTo depth f (.string part)) :
    s.ComesTo (depth + 1) (lastIndex e f) (Builtin.positionOf (Text.findLast? part.toList text.toList)) := by
  have tried : (Registry.builtinsOf .function "lastIndex").head? = some ⟨"lastIndex",
      ⟨[Builtin.string, Builtin.string], none, .integer⟩,
      .native (.pure (Builtin.onStrings fun s t =>
        Builtin.positionOf (Text.findLast? t.toList s.toList)))⟩ := rfl
  exact result_onStrings later tried known sought

theorem standsAt_iff (later : Registry.builtins.Later s.functions) (known : s.ComesTo depth e (.string text))
    (sought : s.ComesTo depth f (.string part)) (short : Addressable text) (shortPart : Addressable part)
    (n : Int64) :
    StandsAt s depth e f n ↔ 0 ≤ n.toInt ∧ Text.OccursAt part.toList text.toList n.toInt.toNat := by
  have start (more : Nat) : s.ComesTo (depth + more + 1) (.integer n) (.integer n) := rfl
  have measured : s.ComesTo (depth + 1) (len f) (.integer (Int64.ofInt part.length)) :=
    result_len later sought
  have sum : (eval (depth + 2) s (.binary .add (.integer n) (len f))).result =
      checkedInt "+" (n.toInt + part.length) := by
    rw [Setting.result_binary rfl (start 0) measured, Joins.add.applyBinary_integers,
      (fits_length shortPart).toInt_ofInt]
    rfl
  rw [occursAt_iff_slice]
  by_cases fits : FitsInt64 (n.toInt + part.length)
  · have stop : s.ComesTo (depth + 2) (.binary .add (.integer n) (len f))
        (.integer (Int64.ofInt (n.toInt + part.length))) := sum.trans (checkedInt_of_fits _ fits)
    have cut := result_substring later (known.mono (Nat.le_add_right depth 2)) (start 1) stop
    constructor
    · rintro ⟨v, same, ends⟩
      cases same.symm.trans sought
      obtain ⟨within, value⟩ := substring_eq_ok_iff.mp (cut.symm.trans ends)
      rw [fits.toInt_ofInt] at within value
      exact ⟨within, Value.string.inj value⟩
    · rintro ⟨within, same⟩
      refine ⟨_, sought, cut.trans (substring_eq_ok_iff.mpr ?_)⟩
      rw [fits.toInt_ofInt]
      exact ⟨within, congrArg Value.string same⟩
  · constructor
    · rintro ⟨v, -, ends⟩
      obtain ⟨values, operands⟩ := ends.arguments
      obtain _ | ⟨-, _ | ⟨-, _ | ⟨stop, -⟩⟩⟩ := operands
      have exact := exact_checkedInt "+" (n.toInt + part.length)
      rw [← sum, stop] at exact
      cases exact with
      | fits value => exact absurd (value ▸ fitsInt64_toInt _) fits
    · rintro ⟨⟨nonnegative, -, inside⟩, -⟩
      have bounds := (fitsInt64_iff _).mp (fits_length short)
      exact absurd ((fitsInt64_iff _).mpr (by omega)) fits

theorem result_cut (later : Registry.builtins.Later s.functions) (known : s.ComesTo depth e (.string text))
    (start : s.ComesTo depth i (.integer a)) (stop : s.ComesTo depth j (.integer b)) (v : Value) :
    s.ComesTo (depth + 1) (substring e i j) v ↔
      Within text a.toInt b.toInt ∧ v = .string (slice text a.toInt b.toInt) := by
  unfold Setting.ComesTo
  rw [result_substring later known start stop]
  exact substring_eq_ok_iff

theorem cuts (later : Registry.builtins.Later s.functions) (known : s.ComesTo depth e (.string text))
    (short : Addressable text) (start : s.ComesTo depth i (.integer a))
    (stop : s.ComesTo depth j (.integer b)) :
    Cuts s depth e i j a b (Int64.ofInt text.length) := by
  have cut := result_cut later known start stop
  have total := (fits_length short).toInt_ofInt
  constructor
  case succeeds_iff =>
    simp only [cut, Int64.le_iff_toInt_le, Int64.toInt_zero, total]
    constructor
    · rintro ⟨-, ⟨nonnegative, ordered, inside⟩, -⟩
      exact ⟨nonnegative, ordered, inside⟩
    · rintro ⟨nonnegative, ordered, inside⟩
      exact ⟨_, ⟨nonnegative, ordered, inside⟩, rfl⟩
  case counts =>
    intro v ends
    obtain ⟨within, rfl⟩ := (cut v).mp ends
    refine ⟨_, result_len later ends, ?_⟩
    rw [length_slice within]
    apply FitsInt64.toInt_ofInt
    have inside := (fitsInt64_iff _).mp (fitsInt64_toInt b)
    obtain ⟨nonnegative, ordered, -⟩ := within
    rw [fitsInt64_iff]
    omega
  case joins =>
    intro k c v w further first second
    obtain ⟨before, rfl⟩ := (cut v).mp first
    obtain ⟨behind, rfl⟩ := (result_cut later known stop further w).mp second
    have whole : Within text a.toInt c.toInt :=
      ⟨before.nonnegative, before.ordered.trans behind.ordered, behind.inside⟩
    refine ⟨.string (slice text a.toInt c.toInt), ?_,
      (result_cut later known start further _).mpr ⟨whole, rfl⟩⟩
    rw [Setting.ComesTo, IsStrict.binary rfl, first, second, ← slice_append before behind]
    rfl

section Extremes

variable {n : Nat} (short : Addressable text) (occurs : Text.OccursAt part.toList text.toList n)

include short occurs

theorem toInt_position : (Int64.ofNat n).toInt = n := by
  have bounds := (fitsInt64_iff _).mp (fits_length short)
  have inside := occurs.1
  rw [String.length_toList] at inside
  have fits : FitsInt64 n := (fitsInt64_iff _).mpr ⟨by omega, by omega⟩
  exact fits.toInt_ofInt

variable (stands : ∀ i, StandsAt s depth e f i ↔
  0 ≤ i.toInt ∧ Text.OccursAt part.toList text.toList i.toInt.toNat)

include stands

theorem standsAt_position : StandsAt s depth e f (Int64.ofNat n) := by
  rw [stands, toInt_position short occurs, Int.toNat_natCast]
  exact ⟨Int.natCast_nonneg n, occurs⟩

theorem isLeast_position (first : ∀ m, Text.OccursAt part.toList text.toList m → n ≤ m) :
    IsLeast {i | StandsAt s depth e f i} (Int64.ofNat n) := by
  refine ⟨standsAt_position short occurs stands, fun i standing => ?_⟩
  obtain ⟨nonnegative, other⟩ := (stands i).mp standing
  have ordered := first _ other
  rw [Int64.le_iff_toInt_le, toInt_position short occurs]
  omega

theorem isGreatest_position (last : ∀ m, Text.OccursAt part.toList text.toList m → n ≥ m) :
    IsGreatest {i | StandsAt s depth e f i} (Int64.ofNat n) := by
  refine ⟨standsAt_position short occurs stands, fun i standing => ?_⟩
  obtain ⟨nonnegative, other⟩ := (stands i).mp standing
  have ordered := last _ other
  rw [Int64.le_iff_toInt_le, toInt_position short occurs]
  omega

end Extremes

theorem searches (later : Registry.builtins.Later s.functions) (known : s.ComesTo depth e (.string text))
    (sought : s.ComesTo depth f (.string part)) (short : Addressable text) (shortPart : Addressable part) :
    Searches s depth e f text part := by
  have contained := result_contains later known sought
  have first := result_index later known sought
  have last := result_lastIndex later known sought
  have stands := standsAt_iff later known sought short shortPart
  have search := Text.finds_first part.toList text.toList
  have searchLast := Text.finds_last part.toList text.toList
  generalize Text.find? part.toList text.toList = found at contained first search
  generalize Text.findLast? part.toList text.toList = foundLast at last searchLast
  cases search with
  | nowhere missing =>
      cases searchLast with
      | nowhere =>
          have missed (n : Int64) : ¬ StandsAt s depth e f n := fun standing =>
            missing _ ((stands n).mp standing).2
          exact .nowhere contained first last missed (Text.not_occursAt_encode missing)
      | place occurs => exact absurd occurs (missing _)
  | @place n occurs extreme =>
      cases searchLast with
      | nowhere missing => exact absurd occurs (missing _)
      | @place m occursLast extremeLast =>
          have number := toInt_position short occurs
          have numberLast := toInt_position short occursLast
          have least := isLeast_position short occurs stands extreme
          have greatest := isGreatest_position short occursLast stands extremeLast
          refine .somewhere contained first last ⟨?_, least.2 greatest.1⟩ least greatest ?_ ?_
          · rw [Int64.le_iff_toInt_le, number]
            exact Int.natCast_nonneg n
          · rw [number, Int.toNat_natCast]
            exact Text.isLeast_byteOffset occurs extreme
          · rw [numberLast, Int.toNat_natCast]
            exact Text.isGreatest_byteOffset occursLast extremeLast

end Calls

/-- Whatever is registered over the built-in functions, and for all trees that come to strings and integers: a
cut succeeds exactly within the characters, counts the characters between its positions, and joins with the
one behind it; a string that is searched for is contained exactly where the searches find a position, and
these are the first and the last of all positions where a cut as long as the string comes to it. -/
theorem agree (s : Setting) (later : Registry.builtins.Later s.functions) (depth : Nat) (e : Expr)
    (text : String) (known : s.ComesTo depth e (.string text)) (short : Addressable text) :
    ∃ count : Int64, s.ComesTo (depth + 1) (len e) (.integer count) ∧ count.toInt = text.length ∧
      (∀ i j a b, s.ComesTo depth i (.integer a) → s.ComesTo depth j (.integer b) →
        Cuts s depth e i j a b count) ∧
      ∀ f part, s.ComesTo depth f (.string part) → Addressable part → Searches s depth e f text part := by
  refine ⟨_, result_len later known, (fits_length short).toInt_ofInt, fun i j a b start stop => ?_,
    fun f part sought shortPart => ?_⟩
  · exact cuts later known short start stop
  · exact searches later known sought short shortPart

/-- Two occurrences overlap, behind a character of three bytes. -/
theorem agree_on_overlapping :
    ∃ (s : Setting) (e f : Expr) (text part : String) (count : Int64), Registry.builtins.Later s.functions ∧
      s.ComesTo 1 e (.string text) ∧ s.ComesTo 1 f (.string part) ∧ Addressable text ∧ Addressable part ∧
      text = "€ééé" ∧ part = "éé" ∧ count.toInt = 4 ∧ Cuts s 1 e (.integer 1) (.integer 3) 1 3 count ∧
      s.ComesTo 2 (index e f) (.integer 1) ∧ s.ComesTo 2 (lastIndex e f) (.integer 2) ∧
      IsLeast {i | StandsAt s 1 e f i} 1 ∧ IsGreatest {i | StandsAt s 1 e f i} 2 ∧
      IsLeast {k | Text.OccursAt (Text.encode part.toList) (Text.encode text.toList) k} 3 := by
  let s : Setting := ⟨.ofTable [], .builtins, {}, .epoch⟩
  have later : Registry.builtins.Later s.functions := .refl
  have known : s.ComesTo 1 (.string "€ééé") (.string "€ééé") := rfl
  have sought : s.ComesTo 1 (.string "éé") (.string "éé") := rfl
  have short : Addressable "€ééé" := by decide
  have shortPart : Addressable "éé" := by decide
  have first : s.ComesTo 2 (index (.string "€ééé") (.string "éé")) (.integer 1) :=
    result_index later known sought
  have last : s.ComesTo 2 (lastIndex (.string "€ééé") (.string "éé")) (.integer 2) :=
    result_lastIndex later known sought
  obtain ⟨count, -, total, cut, search⟩ := agree s later 1 _ _ known short
  cases search _ _ sought shortPart with
  | nowhere _ missing => cases first.symm.trans missing
  | somewhere _ found foundLast _ least greatest firstByte =>
      cases found.symm.trans first
      cases foundLast.symm.trans last
      exact ⟨s, _, _, _, _, count, later, known, sought, short, shortPart, rfl, rfl, total,
        cut _ _ _ _ rfl rfl, first, last, least, greatest, firstByte⟩

end Positions

end CardExpr
