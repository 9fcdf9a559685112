import CardExpr.Proofs.Text.Search

/-! Bytes read back. The bytes of a text spell that text and no other. -/

namespace CardExpr.Text

/-- The first byte begins a character of so many more bytes, has these bits of it and allows the second byte.
-/
def Leads (count code first second : Nat) : Prop :=
  ∃ low high, leader? first = some (count, code, low, high) ∧ low ≤ second ∧ second ≤ high

section Characters

variable {count code good low high b n fuel position : Nat} {bytes rest : List Nat}

theorem leads_of_two (least : 0x80 ≤ n) (most : n < 0x800) :
    Leads 1 (n / 64) (0xC0 + n / 64) (0x80 + n % 64) := by
  have first : 0xC2 ≤ 0xC0 + n / 64 ∧ 0xC0 + n / 64 ≤ 0xDF := by omega
  refine ⟨0x80, 0xBF, ?_, by omega, by omega⟩
  rw [leader?, if_pos first, Nat.add_sub_cancel_left]

/-- The bounds of the second byte leave out what fewer bytes spell, and surrogates. -/
theorem leads_of_three (least : 0x800 ≤ n) (most : n < 0x10000) (scalar : n < 0xD800 ∨ 0xDFFF < n) :
    Leads 2 (n / 4096) (0xE0 + n / 4096) (0x80 + n / 64 % 64) := by
  have found : ∃ code low high, leader? (0xE0 + n / 4096) = some (2, code, low, high) ∧ code = n / 4096 ∧
      low ≤ 0x80 + n / 64 % 64 ∧ 0x80 + n / 64 % 64 ≤ high := by
    unfold leader?
    split_ifs <;> first | omega | exact ⟨_, _, _, rfl, by omega, by omega, by omega⟩
  obtain ⟨_, low, high, leader, rfl, within⟩ := found
  exact ⟨low, high, leader, within⟩

/-- They leave out what fewer bytes spell, and what is no code point. -/
theorem leads_of_four (least : 0x10000 ≤ n) (most : n < 0x110000) :
    Leads 3 (n / 262144) (0xF0 + n / 262144) (0x80 + n / 4096 % 64) := by
  have found : ∃ code low high, leader? (0xF0 + n / 262144) = some (3, code, low, high) ∧ code = n / 262144 ∧
      low ≤ 0x80 + n / 4096 % 64 ∧ 0x80 + n / 4096 % 64 ≤ high := by
    unfold leader?
    split_ifs <;> first | omega | exact ⟨_, _, _, rfl, by omega, by omega, by omega⟩
  obtain ⟨_, low, high, leader, rfl, within⟩ := found
  exact ⟨low, high, leader, within⟩

theorem tails_succ (within : low ≤ b ∧ b ≤ high) :
    tails (count + 1) code good low high (b :: rest) =
      tails count (code * 64 + b % 64) (good + 1) 0x80 0xBF rest :=
  if_pos within

theorem tails_tail (n : Nat) :
    tails (count + 1) code good 0x80 0xBF ((0x80 + n % 64) :: rest) =
      tails count (code * 64 + n % 64) (good + 1) 0x80 0xBF rest := by
  have bits : (0x80 + n % 64) % 64 = n % 64 := by omega
  rw [tails_succ (by omega), bits]

theorem decodeFrom_of_leads {second : Nat} (leads : Leads (count + 1) code b second) (long : 0x80 ≤ b)
    (spelled : tails count (code * 64 + second % 64) 2 0x80 0xBF bytes = .ok (n, rest)) :
    decodeFrom (fuel + 1) position (b :: second :: bytes) =
      (decodeFrom fuel (position + (count + 1) + 1) rest).map (Char.ofNat n :: ·) := by
  obtain ⟨low, high, leader, within⟩ := leads
  rw [decodeFrom, if_neg (Nat.not_lt.mpr long), leader]
  simp only [tails_succ within, spelled]

theorem decodeFrom_encodeChar (c : Char) (fuel position : Nat) (rest : List Nat) :
    decodeFrom (fuel + 1) position (encodeChar c ++ rest) =
      (decodeFrom fuel (position + (encodeChar c).length) rest).map (c :: ·) := by
  have scalar : c.toNat < 0xD800 ∨ 0xDFFF < c.toNat ∧ c.toNat < 0x110000 := c.valid
  have same := Char.ofNat_toNat c
  unfold encodeChar
  generalize c.toNat = n at scalar same
  subst same
  simp only
  split_ifs with one two three
  · rw [List.singleton_append, decodeFrom, if_pos one]
    rfl
  · have spelled : tails 0 (n / 64 * 64 + (0x80 + n % 64) % 64) 2 0x80 0xBF rest = .ok (n, rest) := by
      rw [tails, show n / 64 * 64 + (0x80 + n % 64) % 64 = n by omega]
    exact decodeFrom_of_leads (leads_of_two (by omega) two) (by omega) spelled
  · have spelled : tails 1 (n / 4096 * 64 + (0x80 + n / 64 % 64) % 64) 2 0x80 0xBF ((0x80 + n % 64) :: rest) =
        .ok (n, rest) := by
      rw [tails_tail, tails, show (n / 4096 * 64 + (0x80 + n / 64 % 64) % 64) * 64 + n % 64 = n by omega]
    exact decodeFrom_of_leads (leads_of_three (by omega) three (by omega)) (by omega) spelled
  · have spelled : tails 2 (n / 262144 * 64 + (0x80 + n / 4096 % 64) % 64) 2 0x80 0xBF
        ((0x80 + n / 64 % 64) :: (0x80 + n % 64) :: rest) = .ok (n, rest) := by
      rw [tails_tail, tails_tail, tails,
        show ((n / 262144 * 64 + (0x80 + n / 4096 % 64) % 64) * 64 + n / 64 % 64) * 64 + n % 64 = n by omega]
    exact decodeFrom_of_leads (leads_of_four (by omega) (by omega)) (by omega) spelled

end Characters

/-- A character takes one step of the fuel, and at least one byte. -/
theorem decodeFrom_encode {cs : List Char} {fuel : Nat} (enough : cs.length ≤ fuel) (position : Nat) :
    decodeFrom fuel position (encode cs) = .ok cs := by
  induction cs generalizing fuel position with
  | nil => cases fuel <;> rfl
  | cons c cs ih =>
      cases fuel with
      | zero => exact absurd enough (Nat.not_succ_le_zero _)
      | succ fuel =>
          rw [encode_cons, decodeFrom_encodeChar, ih (Nat.le_of_succ_le_succ enough)]
          rfl

theorem decode_encode (cs : List Char) : decode (encode cs) = .ok cs :=
  decodeFrom_encode (length_le_length_encode cs) 0

theorem lt_of_mem_encode {cs : List Char} {b : Nat} (member : b ∈ encode cs) : b < 256 := by
  obtain ⟨c, -, inside⟩ := List.mem_flatMap.mp member
  have scalar : c.toNat < 0xD800 ∨ 0xDFFF < c.toNat ∧ c.toNat < 0x110000 := c.valid
  unfold encodeChar at inside
  simp only at inside
  split_ifs at inside <;> simp only [List.mem_cons, List.not_mem_nil, or_false] at inside <;> omega

theorem encodeChar_ofNat {n : Nat} (ascii : n < 0x80) : encodeChar (Char.ofNat n) = [n] := by
  revert n
  decide

end CardExpr.Text
