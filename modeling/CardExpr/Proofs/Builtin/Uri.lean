import CardExpr.Proofs.Evaluation.Operands
import CardExpr.Proofs.Function.Builtin
import CardExpr.Proofs.Text.Utf8

/-!
Components of a URI. What is encoded has nothing in it that a URI gives a meaning to, and is decoded to what
it was.
-/

namespace CardExpr

namespace Text.Percent

/-- Letters, digits, nine marks, and percent signs with two capital hexadecimal digits behind each. -/
inductive IsComponent : List Char → Prop where
  | nil : IsComponent []
  | plain {c : Char} {cs : List Char} (stands : c.isAlphanum = true ∨ c ∈ "-_.!~*'()".toList)
      (rest : IsComponent cs) : IsComponent (c :: cs)
  | escape {h l : Char} {cs : List Char} (high : h ∈ "0123456789ABCDEF".toList)
      (low : l ∈ "0123456789ABCDEF".toList) (rest : IsComponent cs) : IsComponent ('%' :: h :: l :: cs)

section Bytes

variable {b n : Nat} {bytes rest : List Nat}

theorem hexDigit_mem (digit : n < 16) : hexDigit n ∈ "0123456789ABCDEF".toList := by
  revert n
  decide

theorem encodeChar_hexDigit (digit : n < 16) : encodeChar (hexDigit n) = [(hexDigit n).toNat] := by
  revert n
  decide

theorem hexValue?_hexDigit (digit : n < 16) : hexValue? (hexDigit n).toNat = some n := by
  revert n
  decide

theorem lt_of_isPlain (plain : isPlain b = true) : b < 0x80 ∧ b ≠ 37 := by
  simp only [isPlain, Bool.or_eq_true, decide_eq_true_eq, beq_iff_eq] at plain
  omega

theorem stands_of_isPlain (plain : isPlain b = true) :
    (Char.ofNat b).isAlphanum = true ∨ Char.ofNat b ∈ "-_.!~*'()".toList := by
  have ascii := (lt_of_isPlain plain).1
  revert plain
  revert b
  decide

theorem isComponent_encodeBytes (small : ∀ b ∈ bytes, b < 256) : IsComponent (bytes.flatMap encodeByte) := by
  induction bytes with
  | nil => exact .nil
  | cons b bytes ih =>
      have rest := ih fun b member => small b (List.mem_cons_of_mem _ member)
      have byte := small b List.mem_cons_self
      rw [List.flatMap_cons, encodeByte]
      split
      next plain => exact .plain (stands_of_isPlain plain) rest
      next => exact .escape (hexDigit_mem (by omega)) (hexDigit_mem (by omega)) rest

theorem decodeBytes_of_ne (notPercent : b ≠ 37) : decodeBytes (b :: rest) = b :: decodeBytes rest := by
  rw [decodeBytes.eq_def]
  exact if_neg notPercent

/-- The bytes of an encoded byte are decoded to it. -/
theorem decodeBytes_encodeByte (byte : b < 256) :
    decodeBytes (Text.encode (encodeByte b) ++ rest) = b :: decodeBytes rest := by
  unfold encodeByte
  split
  next plain =>
    obtain ⟨ascii, notPercent⟩ := lt_of_isPlain plain
    rw [encode_cons, encodeChar_ofNat ascii, encode_nil, List.append_nil, List.singleton_append,
      decodeBytes_of_ne notPercent]
  next =>
    have high : b / 16 < 16 := by omega
    have low : b % 16 < 16 := by omega
    simp only [encode_cons, encode_nil, encodeChar_hexDigit high, encodeChar_hexDigit low, List.append_nil,
      List.cons_append, List.nil_append]
    show decodeBytes (37 :: (hexDigit (b / 16)).toNat :: (hexDigit (b % 16)).toNat :: rest) = _
    rw [decodeBytes, if_pos rfl]
    simp only [hexValue?_hexDigit high, hexValue?_hexDigit low, Nat.div_add_mod]

theorem decodeBytes_encodeBytes (small : ∀ b ∈ bytes, b < 256) :
    decodeBytes (Text.encode (bytes.flatMap encodeByte)) = bytes := by
  induction bytes with
  | nil => rfl
  | cons b bytes ih =>
      rw [List.flatMap_cons, encode_append, decodeBytes_encodeByte (small b List.mem_cons_self),
        ih fun b member => small b (List.mem_cons_of_mem _ member)]

end Bytes

theorem isComponent_encode (text : String) : IsComponent (encode text).toList := by
  rw [encode, String.toList_ofList]
  exact isComponent_encodeBytes fun _ => lt_of_mem_encode

theorem decode_encode (text : String) : decode (encode text) = .ok text := by
  rw [decode, encode, String.toList_ofList, decodeBytes_encodeBytes fun _ => lt_of_mem_encode,
    Text.decode_encode]
  exact congrArg Except.ok String.ofList_toList

end Text.Percent

namespace Uri

def encoded (e : Expr) : Expr := .call "encodeUri" [e]

def decoded (e : Expr) : Expr := .call "decodeUri" [e]

variable {s : Setting} {depth : Nat} {e : Expr} {text : String}

theorem result_encoded (later : Registry.builtins.Later s.functions)
    (known : s.ComesTo depth e (.string text)) :
    s.ComesTo (depth + 1) (encoded e) (.string (Text.Percent.encode text)) := by
  have tried : (Registry.builtinsOf .function "encodeUri").head? = some ⟨"encodeUri",
      ⟨[Builtin.string], none, .string⟩,
      .native (.pure (Builtin.onString fun s => .string (Text.Percent.encode s)))⟩ := rfl
  exact Setting.ComesTo.result_builtin (.cons known .nil) later tried ⟨.cons (.same .string) .nil, nofun⟩

theorem decodeUri_of_decode {original : String} (decodes : Text.Percent.decode text = .ok original) :
    Builtin.decodeUri ⟨"decodeUri", [.string text]⟩ = .ok (.string original) := by
  have given : Args.string ⟨"decodeUri", [.string text]⟩ 0 = .ok text := rfl
  unfold Builtin.decodeUri
  simp only [given, bind, Except.bind, decodes]
  rfl

theorem result_decoded (later : Registry.builtins.Later s.functions)
    (known : s.ComesTo depth e (.string text))
    {original : String} (decodes : Text.Percent.decode text = .ok original) :
    s.ComesTo (depth + 1) (decoded e) (.string original) := by
  have tried : (Registry.builtinsOf .function "decodeUri").head? = some ⟨"decodeUri",
      ⟨[Builtin.string], none, .string⟩, .native (.pure Builtin.decodeUri)⟩ := rfl
  have fits : Signature.Fits ⟨[Builtin.string], none, .string⟩ [.string text] [] :=
    ⟨.cons (.same .string) .nil, nofun⟩
  exact (Setting.ComesTo.result_builtin (.cons known .nil) later tried fits).trans
    (decodeUri_of_decode decodes)

/-- Whatever is registered over the built-in functions, and for every tree that comes to a string: it is
encoded to a component of a URI, which is decoded to the string again, so no other string is encoded to the
same. -/
theorem encoding_roundTrip (s : Setting) (later : Registry.builtins.Later s.functions)
    (depth : Nat) (e : Expr) (text : String) (known : s.ComesTo depth e (.string text)) :
    ∃ component : String, s.ComesTo (depth + 1) (encoded e) (.string component) ∧
      Text.Percent.IsComponent component.toList ∧ s.ComesTo (depth + 2) (decoded (encoded e)) (.string text) ∧
      ∀ f other, s.ComesTo depth f (.string other) → s.ComesTo (depth + 1) (encoded f) (.string component) →
        other = text := by
  refine ⟨_, result_encoded later known, Text.Percent.isComponent_encode text,
    result_decoded later (result_encoded later known) (Text.Percent.decode_encode text), ?_⟩
  intro f other given same
  have encodings : Text.Percent.encode other = Text.Percent.encode text :=
    Value.string.inj (Except.ok.inj ((result_encoded later given).symm.trans same))
  have decodings := Text.Percent.decode_encode other
  rw [encodings, Text.Percent.decode_encode] at decodings
  exact (Except.ok.inj decodings).symm

/-- A text that looks encoded, with a character of two bytes. -/
theorem encoding_roundTrip_of_escape :
    ∃ (s : Setting) (e : Expr) (text component : String), Registry.builtins.Later s.functions ∧
      s.ComesTo 1 e (.string text) ∧ text = "%41 é" ∧ component = "%2541%20%C3%A9" ∧
      s.ComesTo 2 (encoded e) (.string component) ∧ Text.Percent.IsComponent component.toList ∧
      s.ComesTo 3 (decoded (encoded e)) (.string text) ∧
      ∀ f other, s.ComesTo 1 f (.string other) → s.ComesTo 2 (encoded f) (.string component) →
      other = text := by
  let s : Setting := ⟨.ofTable [], .builtins, {}, .epoch⟩
  have later : Registry.builtins.Later s.functions := .refl
  have known : s.ComesTo 1 (.string "%41 é") (.string "%41 é") := rfl
  have escaped : Text.Percent.encode "%41 é" = "%2541%20%C3%A9" := by decide
  obtain ⟨component, comes, shape, back, unique⟩ := encoding_roundTrip s later 1 _ _ known
  have same := (result_encoded later known).symm.trans comes
  rw [escaped] at same
  cases same
  exact ⟨s, _, _, _, later, known, rfl, rfl, comes, shape, back, unique⟩

end Uri

end CardExpr
