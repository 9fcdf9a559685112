import Mathlib.Data.Nat.Digits.Lemmas
import Mathlib.Tactic.Positivity
import Mathlib.Tactic.Ring
import Mathlib.Tactic.SplitIfs
import CardExpr.Color

/-!
Colors as text. The texts of colors are a number sign and three, four, six or eight hexadecimal digits; the
digits are those of one number, in which each channel has two.
-/

namespace CardExpr.Color

/-- The character is the digit of the value, in either case. -/
def IsHexDigit (c : Char) (d : Nat) : Prop :=
  "0123456789abcdef".toList[d]? = some c ∨ "0123456789ABCDEF".toList[d]? = some c

instance : DecidableRel IsHexDigit := fun _ _ => inferInstanceAs (Decidable (_ ∨ _))

/-- The text is a number sign and as many digits as a color may have. -/
structure Spells (text : String) (digits : List Nat) : Prop where
  spelled : ∃ hex, text.toList = '#' :: hex ∧ List.Forall₂ IsHexDigit hex digits
  count : digits.length ∈ [3, 4, 6, 8]

def number (digits : List Nat) : Nat := Nat.ofDigits 16 digits.reverse

def doubled {α : Type} (digits : List α) : List α := digits.flatMap fun d => [d, d]

/-- Two digits for each channel, alpha first. Short forms have each of them once; without alpha a color is
opaque. -/
def fullDigits (digits : List Nat) : List Nat :=
  match digits.length with
  | 3 => 15 :: 15 :: doubled digits
  | 4 => doubled digits
  | 6 => 15 :: 15 :: digits
  | _ => digits

section Digits

variable {c : Char} {d : Nat} {hex : List Char} {digits : List Nat}

theorem IsHexDigit.lt (digit : IsHexDigit c d) : d < 16 := by
  rcases digit with lower | upper
  · exact (List.getElem?_eq_some_iff.mp lower).1
  · exact (List.getElem?_eq_some_iff.mp upper).1

theorem hexDigit?_eq_some_iff : hexDigit? c = some d ↔ IsHexDigit c d := by
  constructor
  · intro digit
    have ascii : c.toNat < 128 := by
      unfold hexDigit? at digit
      split_ifs at digit with decimal lower upper
      · exact Nat.lt_of_le_of_lt decimal.2 (by decide)
      · exact Nat.lt_of_le_of_lt lower.2 (by decide)
      · exact Nat.lt_of_le_of_lt upper.2 (by decide)
    have listed : ∀ n < 128, ∀ d ∈ hexDigit? (Char.ofNat n), IsHexDigit (Char.ofNat n) d := by decide
    have found := listed c.toNat ascii
    rw [Char.ofNat_toNat] at found
    exact found d digit
  · intro digit
    have small := digit.lt
    have lower : ∀ d < 16, "0123456789abcdef".toList[d]?.bind hexDigit? = some d := by decide
    have upper : ∀ d < 16, "0123456789ABCDEF".toList[d]?.bind hexDigit? = some d := by decide
    rcases digit with found | found
    · simpa only [found, Option.bind_some] using lower d small
    · simpa only [found, Option.bind_some] using upper d small

theorem lt_of_digits (spelled : List.Forall₂ IsHexDigit hex digits) : ∀ d ∈ digits, d < 16 := by
  induction spelled with
  | nil => simp
  | cons digit _ ih => exact List.forall_mem_cons.mpr ⟨digit.lt, ih⟩

theorem all_isSome_iff : (hex.all fun c => (hexDigit? c).isSome) = true ↔
    ∃ digits, List.Forall₂ IsHexDigit hex digits := by
  induction hex with
  | nil => exact ⟨fun _ => ⟨[], .nil⟩, fun _ => rfl⟩
  | cons c hex ih =>
      rw [List.all_cons, Bool.and_eq_true, ih, Option.isSome_iff_exists]
      constructor
      · rintro ⟨⟨d, digit⟩, digits, rest⟩
        exact ⟨d :: digits, .cons (hexDigit?_eq_some_iff.mp digit) rest⟩
      · rintro ⟨digits, spelled⟩
        cases spelled with
        | cons digit rest => exact ⟨⟨_, hexDigit?_eq_some_iff.mpr digit⟩, _, rest⟩

end Digits

section Numbers

variable {digits : List Nat}

@[simp] theorem number_nil : number [] = 0 := rfl

@[simp] theorem number_cons (d : Nat) (digits : List Nat) :
    number (d :: digits) = d * 16 ^ digits.length + number digits := by
  rw [number, number, List.reverse_cons, Nat.ofDigits_append, Nat.ofDigits_singleton, List.length_reverse]
  ring

theorem number_lt (small : ∀ d ∈ digits, d < 16) : number digits < 16 ^ digits.length := by
  have below := Nat.ofDigits_lt_base_pow_length (by decide) fun d member =>
    small d (List.mem_reverse.mp member)
  rwa [List.length_reverse] at below

end Numbers

section Words

variable {hex : List Char} {digits : List Nat} {start word x y : UInt32}

/-- Digits are read into a word as long as it holds them. -/
theorem foldlM_appendDigit (spelled : List.Forall₂ IsHexDigit hex digits)
    (fits : start.toNat * 16 ^ digits.length + number digits < 2 ^ 32) :
    ∃ word, hex.foldlM appendDigit start = some word ∧
      word.toNat = start.toNat * 16 ^ digits.length + number digits := by
  induction spelled generalizing start with
  | nil => exact ⟨start, rfl, by simp⟩
  | @cons c d hex digits digit rest ih =>
      have total : (16 * start.toNat + d) * 16 ^ digits.length + number digits =
          start.toNat * 16 ^ (digits.length + 1) + (d * 16 ^ digits.length + number digits) := by ring
      rw [List.length_cons, number_cons, ← total] at fits
      have next : 16 * start.toNat + d < 2 ^ 32 := calc
        16 * start.toNat + d ≤ (16 * start.toNat + d) * 16 ^ digits.length :=
          Nat.le_mul_of_pos_right _ (by positivity)
        _ ≤ (16 * start.toNat + d) * 16 ^ digits.length + number digits := Nat.le_add_right _ _
        _ < 2 ^ 32 := fits
      have appended : appendDigit start c = some (UInt32.ofNat (16 * start.toNat + d)) := by
        unfold appendDigit
        rw [hexDigit?_eq_some_iff.mpr digit]
        exact if_pos next
      have value : (UInt32.ofNat (16 * start.toNat + d)).toNat = 16 * start.toNat + d :=
        UInt32.toNat_ofNat_of_lt' next
      obtain ⟨word, read, same⟩ := ih (by rwa [value])
      refine ⟨word, ?_, by rw [same, value, total, List.length_cons, number_cons]⟩
      rw [List.foldlM_cons, appended]
      exact read

theorem toNat_or_shiftLeft {k : Nat} (below : y.toNat < 2 ^ k) (fits : x.toNat < 2 ^ (32 - k))
    (narrow : k < 32) :
    ((x <<< UInt32.ofNat k) ||| y).toNat = x.toNat * 2 ^ k + y.toNat := by
  have shift : (UInt32.ofNat k).toNat % 32 = k := by
    rw [UInt32.toNat_ofNat_of_lt' (Nat.lt_trans narrow (by decide)), Nat.mod_eq_of_lt narrow]
  have whole : x.toNat * 2 ^ k < 2 ^ 32 := calc
    x.toNat * 2 ^ k < 2 ^ (32 - k) * 2 ^ k := Nat.mul_lt_mul_of_pos_right fits (by positivity)
    _ = 2 ^ 32 := by rw [← Nat.pow_add, Nat.sub_add_cancel (Nat.le_of_lt narrow)]
  rw [UInt32.toNat_or, UInt32.toNat_shiftLeft, shift, Nat.mod_eq_of_lt (by rwa [Nat.shiftLeft_eq]),
    ← Nat.shiftLeft_add_eq_or_of_lt below, Nat.shiftLeft_eq]

theorem toNat_digitAt {i : Nat} (within : i < 8) : (digitAt word i).toNat = word.toNat / 16 ^ i % 16 := by
  have shift : (UInt32.ofNat (4 * i)).toNat % 32 = 4 * i := by
    rw [UInt32.toNat_ofNat_of_lt' (Nat.lt_trans (show 4 * i < 32 by omega) (by decide))]
    omega
  have mask : (0xF : UInt32).toNat = 2 ^ 4 - 1 := rfl
  rw [digitAt, UInt32.toNat_and, UInt32.toNat_shiftRight, shift, mask, Nat.and_two_pow_sub_one_eq_mod,
    Nat.shiftRight_eq_div_pow, Nat.pow_mul]

theorem toNat_appendTwice (digit : x.toNat < 16) (fits : start.toNat < 2 ^ 24) :
    (appendTwice start x).toNat = start.toNat * 256 + x.toNat * 17 := by
  have pair : ((x <<< 4) ||| x).toNat = x.toNat * 2 ^ 4 + x.toNat :=
    toNat_or_shiftLeft (k := 4) digit (by omega) (by decide)
  have appended : ((start <<< 8) ||| ((x <<< 4) ||| x)).toNat =
    start.toNat * 2 ^ 8 + ((x <<< 4) ||| x).toNat :=
    toNat_or_shiftLeft (k := 8) (by omega) fits (by decide)
  rw [appendTwice, UInt32.or_assoc, appended, pair]
  omega

@[simp] theorem length_doubled {α : Type} (digits : List α) :
    (doubled digits).length = 2 * digits.length := by
  induction digits with
  | nil => rfl
  | cons d digits ih =>
      simp only [doubled, List.flatMap_cons, List.length_append, List.length_cons, List.length_nil] at ih ⊢
      omega

theorem number_doubled_cons (d : Nat) (digits : List Nat) :
    number (doubled (d :: digits)) = 17 * d * 256 ^ digits.length + number (doubled digits) := by
  show number (d :: d :: doubled digits) = _
  rw [number_cons, number_cons, List.length_cons, length_doubled, Nat.pow_succ, Nat.pow_mul]
  ring

/-- The last digits of a word are written twice behind what there is. -/
theorem toNat_foldl_appendTwice (small : ∀ d ∈ digits, d < 16) (few : digits.length ≤ 8)
    (ends : word.toNat % 16 ^ digits.length = number digits)
    (fits : (start.toNat + 1) * 256 ^ digits.length ≤ 2 ^ 32) :
    ((List.range digits.length).reverse.foldl (fun expanded i => appendTwice expanded (digitAt word i))
      start).toNat =
      start.toNat * 256 ^ digits.length + number (doubled digits) := by
  induction digits generalizing start with
  | nil => simp [doubled]
  | cons d digits ih =>
      have rest : ∀ d ∈ digits, d < 16 := fun d member => small d (List.mem_cons_of_mem _ member)
      have digit : d < 16 := small d List.mem_cons_self
      have below := number_lt rest
      have positive : 0 < 16 ^ digits.length := Nat.pow_pos (by decide)
      rw [List.length_cons] at few
      rw [List.length_cons, Nat.pow_succ, number_cons] at ends
      rw [List.length_cons, Nat.pow_succ', ← Nat.mul_assoc] at fits
      have last : word.toNat % 16 ^ digits.length = number digits := by
        rw [← Nat.mod_mul_right_mod, ends, Nat.mul_add_mod', Nat.mod_eq_of_lt below]
      have first : (digitAt word digits.length).toNat = d := by
        rw [toNat_digitAt (by omega), ← Nat.mod_mul_right_div_self, ends, Nat.add_comm,
          Nat.add_mul_div_right _ _ positive, Nat.div_eq_of_lt below, Nat.zero_add]
      have room : (start.toNat + 1) * 256 ≤ 2 ^ 32 :=
        Nat.le_trans (Nat.le_mul_of_pos_right _ (Nat.pow_pos (by decide))) fits
      have step : (appendTwice start (digitAt word digits.length)).toNat = start.toNat * 256 + d * 17 := by
        rw [toNat_appendTwice (by rwa [first]) (by omega), first]
      have more : (start.toNat * 256 + d * 17 + 1) * 256 ^ digits.length ≤ 2 ^ 32 :=
        Nat.le_trans (Nat.mul_le_mul_right _ (by omega)) fits
      rw [List.length_cons, List.range_succ, List.reverse_append, List.reverse_singleton,
        List.singleton_append,
        List.foldl_cons, ih rest (by omega) last (by rwa [step]), step, number_doubled_cons, Nat.pow_succ]
      ring

theorem toNat_expand (small : ∀ d ∈ digits, d < 16) (few : digits.length ≤ 4)
    (same : word.toNat = number digits) :
    (expand word digits.length).toNat = number (doubled digits) := by
  have below := number_lt small
  have ends : word.toNat % 16 ^ digits.length = number digits := by rw [same, Nat.mod_eq_of_lt below]
  have fits : ((0 : UInt32).toNat + 1) * 256 ^ digits.length ≤ 2 ^ 32 := by
    rw [UInt32.toNat_zero, Nat.zero_add, Nat.one_mul]
    exact Nat.le_trans (Nat.pow_le_pow_right (by decide) few) (by decide)
  rw [expand, toNat_foldl_appendTwice small (by omega)
    ends fits, UInt32.toNat_zero, Nat.zero_mul, Nat.zero_add]

/-- A number of six digits leaves the highest byte to alpha. -/
theorem toNat_opaque (six : digits.length = 6) (small : ∀ d ∈ digits, d < 16)
    (same : word.toNat = number digits) :
    (0xFF000000 ||| word).toNat = number (15 :: 15 :: digits) := by
  have below := number_lt small
  rw [six, ← same] at below
  have joined : (((0xFF : UInt32) <<< 24) ||| word).toNat = (0xFF : UInt32).toNat * 2 ^ 24 + word.toNat :=
    toNat_or_shiftLeft (k := 24) below (by decide) (by decide)
  have alpha : ((0xFF : UInt32) <<< 24) = 0xFF000000 := by decide
  rw [← alpha, joined, number_cons, number_cons, List.length_cons, six, same]
  show 255 * 2 ^ 24 + number digits = _
  omega

end Words

theorem eq_of_toNat {c d : Color} (same : c.argb.toNat = d.argb.toNat) : c = d := by
  cases c
  cases d
  exact congrArg Color.mk (UInt32.toNat_inj.mp same)

section Parsing

variable {text : String} {hex : List Char} {digits : List Nat} {c : Color}

theorem readHex?_of_digits (spelled : List.Forall₂ IsHexDigit hex digits) (least : 0 < digits.length)
    (most : digits.length ≤ 8) : ∃ word, readHex? hex = some word ∧ word.toNat = number digits := by
  have fits : (0 : UInt32).toNat * 16 ^ digits.length + number digits < 2 ^ 32 := by
    rw [UInt32.toNat_zero, Nat.zero_mul, Nat.zero_add]
    calc
      number digits < 16 ^ digits.length := number_lt (lt_of_digits spelled)
      _ ≤ 16 ^ 8 := Nat.pow_le_pow_right (by decide) most
      _ = 2 ^ 32 := by decide
  obtain ⟨word, read, same⟩ := foldlM_appendDigit spelled fits
  rw [UInt32.toNat_zero, Nat.zero_mul, Nat.zero_add] at same
  have nonempty : ¬ hex.isEmpty = true := by
    rw [List.isEmpty_iff_length_eq_zero, spelled.length_eq]
    omega
  exact ⟨word, (if_neg nonempty).trans read, same⟩

theorem parse_of_spells (spells : Spells text digits) :
    ∃ c, parse text = .ok c ∧ c.argb.toNat = number (fullDigits digits) := by
  obtain ⟨⟨hex, written, spelled⟩, count⟩ := spells
  simp only [List.mem_cons, List.not_mem_nil, or_false] at count
  have small := lt_of_digits spelled
  have twice : ∀ d ∈ doubled digits, d < 16 := by
    intro d member
    obtain ⟨e, listed, same⟩ := List.mem_flatMap.mp member
    have : d = e := by simpa using same
    exact this ▸ small e listed
  obtain ⟨word, read, same⟩ := readHex?_of_digits spelled (by omega) (by omega)
  unfold parse
  simp only [written, all_isSome_iff.mpr ⟨digits, spelled⟩, if_true, read, spelled.length_eq, fullDigits]
  rcases count with three | four | six | eight
  · have expanded := toNat_expand small (by omega) same
    simp only [three] at expanded ⊢
    exact ⟨_, rfl, toNat_opaque (by rw [length_doubled, three]) twice expanded⟩
  · have expanded := toNat_expand small (by omega) same
    simp only [four] at expanded ⊢
    exact ⟨_, rfl, expanded⟩
  · simp only [six]
    exact ⟨_, rfl, toNat_opaque six small same⟩
  · simp only [eight]
    exact ⟨_, rfl, same⟩

theorem spells_of_parse (parsed : parse text = .ok c) : ∃ digits, Spells text digits := by
  unfold parse at parsed
  split at parsed
  next hex written =>
    split at parsed
    next all =>
      obtain ⟨digits, spelled⟩ := all_isSome_iff.mp all
      refine ⟨digits, ⟨hex, written, spelled⟩, ?_⟩
      rw [← spelled.length_eq]
      split at parsed <;> simp_all
    next => cases parsed
  next => cases parsed

theorem parse_eq_ok_iff :
    parse text = .ok c ↔ ∃ digits, Spells text digits ∧ c.argb.toNat = number (fullDigits digits) := by
  constructor
  · intro parsed
    obtain ⟨digits, spells⟩ := spells_of_parse parsed
    obtain ⟨other, found, value⟩ := parse_of_spells spells
    cases found.symm.trans parsed
    exact ⟨digits, spells, value⟩
  · rintro ⟨digits, spells, value⟩
    obtain ⟨other, found, same⟩ := parse_of_spells spells
    rw [found, eq_of_toNat (same.trans value.symm)]

theorem toOption_parse_eq_some_iff :
    (parse text).toOption = some c ↔ ∃ digits, Spells text digits ∧
    c.argb.toNat = number (fullDigits digits) := by
  rw [← parse_eq_ok_iff]
  cases parse text <;> simp [Except.toOption]

theorem text_of_parse {e : ColorError} (refused : parse text = .error e) : e = ⟨text⟩ := by
  unfold parse at refused
  split at refused
  · split at refused
    · split at refused <;> cases refused
      rfl
    · exact (Except.error.inj refused).symm
  · exact (Except.error.inj refused).symm

theorem parse_eq_error_iff {e : ColorError} :
    parse text = .error e ↔ e = ⟨text⟩ ∧ ¬ ∃ digits, Spells text digits := by
  constructor
  · intro refused
    refine ⟨text_of_parse refused, fun ⟨digits, spells⟩ => ?_⟩
    obtain ⟨c, found, -⟩ := parse_of_spells spells
    cases found.symm.trans refused
  · rintro ⟨rfl, other⟩
    cases parsed : parse text with
    | ok c => exact absurd (spells_of_parse parsed) other
    | error e => exact congrArg Except.error (text_of_parse parsed)

theorem forall₂_doubled (spelled : List.Forall₂ IsHexDigit hex digits) :
    List.Forall₂ IsHexDigit (doubled hex) (doubled digits) := by
  induction spelled with
  | nil => exact .nil
  | cons digit _ ih => exact .cons digit (.cons digit ih)

theorem fullDigits_doubled (short : digits.length = 3 ∨ digits.length = 4) :
    fullDigits (doubled digits) = fullDigits digits := by
  rcases short with three | four
  · simp only [fullDigits, length_doubled, three]
  · simp only [fullDigits, length_doubled, four]

theorem all_doubled (p : Char → Bool) (hex : List Char) : (doubled hex).all p = hex.all p := by
  induction hex with
  | nil => rfl
  | cons c hex ih =>
      show (p c && (p c && (doubled hex).all p)) = (p c && hex.all p)
      rw [ih, ← Bool.and_assoc, Bool.and_self]

theorem toOption_parse_eq_none (other : ¬ ∃ digits, List.Forall₂ IsHexDigit hex digits) :
    (parse (String.ofList ('#' :: hex))).toOption = none := by
  cases parsed : parse (String.ofList ('#' :: hex)) with
  | error e => rfl
  | ok c =>
      obtain ⟨digits, ⟨chars, written, spelled⟩, -⟩ := spells_of_parse parsed
      rw [String.toList_ofList] at written
      cases written
      exact absurd ⟨digits, spelled⟩ other

theorem parse_doubled (short : hex.length = 3 ∨ hex.length = 4) :
    (parse (String.ofList ('#' :: hex))).toOption =
      (parse (String.ofList ('#' :: doubled hex))).toOption := by
  by_cases all : ∃ digits, List.Forall₂ IsHexDigit hex digits
  · obtain ⟨digits, spelled⟩ := all
    rw [spelled.length_eq] at short
    have once : Spells (String.ofList ('#' :: hex)) digits :=
      ⟨⟨hex, String.toList_ofList, spelled⟩, by rcases short with count | count <;> simp [count]⟩
    have twice : Spells (String.ofList ('#' :: doubled hex)) (doubled digits) :=
      ⟨⟨doubled hex, String.toList_ofList, forall₂_doubled spelled⟩, by
        rcases short with count | count <;> simp [count]⟩
    obtain ⟨c, parsed, value⟩ := parse_of_spells once
    rw [← fullDigits_doubled short] at value
    rw [parsed, parse_eq_ok_iff.mpr ⟨_, twice, value⟩]
  · have twice : ¬ ∃ digits, List.Forall₂ IsHexDigit (doubled hex) digits := by
      rwa [← all_isSome_iff, all_doubled, all_isSome_iff]
    rw [toOption_parse_eq_none all, toOption_parse_eq_none twice]

end Parsing

section Printing

variable {n : Nat}

/-- The digits of a color, the highest one first. -/
def digits (c : Color) : List Nat := [28, 24, 20, 16, 12, 8, 4, 0].map fun k => (c.argb.toNat >>> k) % 16

theorem isHexDigit_upperHexDigit (digit : n < 16) : IsHexDigit (upperHexDigit n) n := by
  revert n
  decide

theorem number_digits (c : Color) : number c.digits = c.argb.toNat := by
  have size := c.argb.toNat_lt
  simp only [digits, List.map_cons, List.map_nil, number_cons, number_nil, List.length_cons, List.length_nil,
    Nat.shiftRight_eq_div_pow]
  omega

theorem spells_text (c : Color) : Spells c.text c.digits where
  spelled := by
    refine ⟨c.digits.map upperHexDigit, ?_, ?_⟩
    · rw [text, String.toList_ofList]
      rfl
    · rw [digits, List.forall₂_map_left_iff, List.forall₂_same]
      intro d member
      obtain ⟨k, -, rfl⟩ := List.mem_map.mp member
      exact isHexDigit_upperHexDigit (Nat.mod_lt _ (by decide))
  count := by simp [digits]

theorem parse_text (c : Color) : parse c.text = .ok c :=
  parse_eq_ok_iff.mpr ⟨c.digits, spells_text c, (number_digits c).symm⟩

theorem text_injective : Function.Injective text := by
  intro c d same
  have parsed := parse_text c
  rw [same, parse_text d] at parsed
  exact (Except.ok.inj parsed).symm

theorem map_text_injective : Function.Injective (Except.map text : Except ColorError Color → _) := by
  intro a b same
  cases a with
  | error e =>
      cases b with
      | error f => exact congrArg Except.error (Except.error.inj same)
      | ok d => cases same
  | ok c =>
      cases b with
      | error f => cases same
      | ok d => exact congrArg Except.ok (text_injective (Except.ok.inj same))

end Printing

section Channels

variable {c : Color} {k j : Channel} {v : UInt8} {i : Nat}

theorem toNat_channel (c : Color) (k : Channel) :
    (c.channel k).toNat = c.argb.toNat / 2 ^ k.shift.toNat % 2 ^ 8 := by
  have shift : k.shift.toNat % 32 = k.shift.toNat := by cases k <;> rfl
  rw [channel, UInt32.toNat_toUInt8, UInt32.toNat_shiftRight, shift, Nat.shiftRight_eq_div_pow]

theorem toNat_argb (c : Color) : c.argb.toNat =
    Nat.ofDigits 256 ([.blue, .green, .red, .alpha].map fun k => (c.channel k).toNat) := by
  have size := c.argb.toNat_lt
  simp only [List.map_cons, List.map_nil, toNat_channel, Nat.ofDigits_cons, Nat.ofDigits_nil]
  show _ = c.argb.toNat / 2 ^ 0 % 2 ^ 8 + 256 * (c.argb.toNat / 2 ^ 8 % 2 ^ 8 + 256 *
    (c.argb.toNat / 2 ^ 16 % 2 ^ 8 +
    256 * (c.argb.toNat / 2 ^ 24 % 2 ^ 8 + 256 * 0)))
  omega

theorem testBit_withChannel (within : i < 32) :
    (c.withChannel k v).argb.toNat.testBit i =
      if k.shift.toNat ≤ i ∧ i < k.shift.toNat + 8 then v.toNat.testBit (i - k.shift.toNat)
      else c.argb.toNat.testBit i := by
  have shift : k.shift.toNat % 32 = k.shift.toNat := by cases k <;> rfl
  have cleared (x : UInt32) : (~~~x).toNat.testBit i = !x.toNat.testBit i := by
    rw [UInt32.toNat_not, UInt32.size, Nat.sub_sub, Nat.add_comm, Nat.testBit_two_pow_sub_succ x.toNat_lt,
      decide_eq_true within, Bool.true_and]
  have mask : (0xFF : UInt32).toNat = 2 ^ 8 - 1 := rfl
  have beyond (high : 8 ≤ i - k.shift.toNat) : v.toNat.testBit (i - k.shift.toNat) = false :=
    Nat.testBit_lt_two_pow (Nat.lt_of_lt_of_le v.toNat_lt (Nat.pow_le_pow_right (by decide) high))
  simp only [withChannel, UInt32.toNat_or, UInt32.toNat_and, UInt32.toNat_shiftLeft,
    UInt8.toNat_toUInt32, cleared,
    shift, mask, Nat.testBit_or, Nat.testBit_and, Nat.testBit_mod_two_pow, Nat.testBit_shiftLeft,
    Nat.testBit_two_pow_sub_one, within, decide_true, Bool.true_and]
  split
  next inside =>
    have narrow : i - k.shift.toNat < 8 := by omega
    simp [inside.1, narrow]
  next outside =>
    by_cases behind : k.shift.toNat ≤ i
    · have wide : ¬ i - k.shift.toNat < 8 := by omega
      simp [behind, wide, beyond (Nat.le_of_not_lt wide)]
    · simp [behind]

theorem shift_apart (other : j ≠ k) :
    k.shift.toNat + 8 ≤ j.shift.toNat ∨ j.shift.toNat + 8 ≤ k.shift.toNat := by
  revert other
  cases j <;> cases k <;> decide

theorem channel_withChannel (c : Color) (k j : Channel) (v : UInt8) :
    (c.withChannel k v).channel j = if j = k then v else c.channel j := by
  apply UInt8.toNat_inj.mp
  apply Nat.eq_of_testBit_eq
  intro i
  by_cases within : i < 8
  · have word : i + j.shift.toNat < 32 := by
      have most : j.shift.toNat ≤ 24 := by cases j <;> decide
      omega
    have bits : ((c.withChannel k v).channel j).toNat.testBit i =
        (c.withChannel k v).argb.toNat.testBit (i + j.shift.toNat) := by
      rw [toNat_channel, Nat.testBit_mod_two_pow, Nat.testBit_div_two_pow, decide_eq_true within,
        Bool.true_and]
    rw [bits, testBit_withChannel word]
    by_cases same : j = k
    · subst same
      rw [if_pos (by omega), if_pos rfl, Nat.add_sub_cancel]
    · have apart := shift_apart same
      rw [if_neg (by omega), if_neg same, toNat_channel, Nat.testBit_mod_two_pow, Nat.testBit_div_two_pow,
        decide_eq_true within, Bool.true_and]
  · have beyond : 2 ^ 8 ≤ 2 ^ i := Nat.pow_le_pow_right (by decide) (Nat.le_of_not_lt within)
    have none (x : UInt8) : x.toNat.testBit i = false :=
      Nat.testBit_lt_two_pow (Nat.lt_of_lt_of_le x.toNat_lt beyond)
    rw [none, none]

end Channels

/-- The texts that are read are exactly a number sign and three, four, six or eight digits, and the color is
the number of the digits in full; a short form is read as its digits doubled. A color is read back from its
text, so the texts of two accepted texts are one exactly where their colors are. A color is the number of its
four channels, of which one is replaced without the others. -/
theorem parsing_exact :
    (∀ text c, parse text = .ok c ↔ ∃ digits, Spells text digits ∧
      c.argb.toNat = number (fullDigits digits)) ∧
    (∀ text e, parse text = .error e ↔ e = ⟨text⟩ ∧ ¬ ∃ digits, Spells text digits) ∧
    (∀ hex : List Char, hex.length = 3 ∨ hex.length = 4 →
      (parse (String.ofList ('#' :: hex))).toOption = (parse (String.ofList ('#' :: doubled hex))).toOption) ∧
    (∀ c, parse c.text = .ok c) ∧
    (∀ first second, (parse first).map text = (parse second).map text ↔ parse first = parse second) ∧
    (∀ c : Color, c.argb.toNat =
      Nat.ofDigits 256 ([.blue, .green, .red, .alpha].map fun k => (c.channel k).toNat)) ∧
    ∀ (c : Color) (k j : Channel) (v : UInt8), (c.withChannel k v).channel j =
      if j = k then v else c.channel j := by
  exact ⟨fun _ _ => parse_eq_ok_iff, fun _ _ => parse_eq_error_iff, fun _ => parse_doubled, parse_text,
    fun _ _ => map_text_injective.eq_iff, toNat_argb, channel_withChannel⟩

theorem parsing_exact_of_short_form :
    (['F', '0', 'a'].length = 3 ∨ ['F', '0', 'a'].length = 4) ∧
    (parse (String.ofList ('#' :: ['F', '0', 'a']))).toOption =
      (parse (String.ofList ('#' :: doubled ['F', '0', 'a']))).toOption ∧
    (parse (String.ofList ('#' :: ['F', '0', 'a']))).toOption = some ⟨0xFFFF00AA⟩ :=
  ⟨by decide, parsing_exact.2.2.1 ['F', '0', 'a'] (by decide), by decide⟩

end CardExpr.Color
