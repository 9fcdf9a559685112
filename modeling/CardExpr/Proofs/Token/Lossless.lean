import CardExpr.Proofs.Token.Slice

/-!
Tokenizing loses nothing. The tokens of a source nest properly, and the source cut where they stand gives a
spelling of each, with only blanks besides.
-/

namespace CardExpr.Spelling

open Lexer

/-- The tokens, from an offset to the end of the source, cut the characters behind it into pieces. -/
inductive Tiles : List Frame → Nat → List Char → List Token → Prop where
  | done (offset : Nat) : Tiles [] offset [] [⟨.templateEnd, offset⟩, ⟨.endOfInput, offset⟩]
  | next {opened : List Frame} {offset : Nat} {blanks taken behind : List Char} {k : TokenKind}
      {tokens : List Token} (blank : ∀ c ∈ blanks, Text.isBlank c = true)
      (inside : blanks ≠ [] → opened.head? = some .span) (piece : Piece opened k taken)
      (alone : ∀ content other, k = .text content → (tokens.map (·.kind)).head? ≠ some (.text other))
      (rest : Tiles (after opened k) (offset + blanks.length + taken.length) behind tokens) :
      Tiles opened offset (blanks ++ (taken ++ behind)) (⟨k, offset + blanks.length⟩ :: tokens)

theorem Admits.outside {opened : List Frame} {content : String} (admits : Admits opened (.text content)) :
    opened.head? ≠ some .span := by
  cases admits with
  | text outside => exact outside
  | inner isInner => cases isInner

theorem run_eq_ok {steps : Nat} {opened : List Opened} {offset : Nat} {cs : List Char} {tokens : List Token}
    (ran : run (steps + 1) opened offset cs = .ok tokens) :
    (step opened offset cs = .ok none ∧ tokens = [⟨.templateEnd, offset⟩, ⟨.endOfInput, offset⟩]) ∨
      ∃ s more, step opened offset cs = .ok (some s) ∧ run steps s.opened s.offset s.rest = .ok more ∧
        tokens = s.token :: more := by
  rw [run] at ran
  cases stepped : step opened offset cs with
  | error e =>
      rw [stepped] at ran
      cases ran
  | ok result =>
      rw [stepped] at ran
      cases result with
      | none =>
          cases ran
          exact .inl ⟨rfl, rfl⟩
      | some s =>
          cases further : run steps s.opened s.offset s.rest with
          | error e =>
              simp only [bind, Except.bind, further] at ran
              cases ran
          | ok more =>
              simp only [bind, Except.bind, further] at ran
              cases ran
              exact .inr ⟨s, more, rfl, further, rfl⟩

theorem step_eq_none {opened : List Opened} {offset : Nat} {cs : List Char}
    (ended : step opened offset cs = .ok none) : opened = [] ∧ cs = [] := by
  unfold step at ended
  split at ended
  · exact ⟨rfl, rfl⟩
  · obtain ⟨s, -, same⟩ := exists_of_map_eq_ok ended
    cases same
  · cases ended
  · split at ended
    · cases ended
    · obtain ⟨s, -, same⟩ := exists_of_map_eq_ok ended
      cases same
  · obtain ⟨s, -, same⟩ := exists_of_map_eq_ok ended
    cases same

theorem head_ne_text_of_run {steps : Nat} {opened : List Opened} {offset : Nat} {cs : List Char}
    {tokens : List Token} (outside : (opened.map Frame.ofOpened).head? ≠ some .span)
    (ends : EndsText ((opened.map Frame.ofOpened).head? == some .quote) cs)
    (ran : run steps opened offset cs = .ok tokens) (other : String) :
    (tokens.map (·.kind)).head? ≠ some (.text other) := by
  cases steps with
  | zero =>
      cases ran
      exact nofun
  | succ steps =>
      rcases run_eq_ok ran with ⟨-, rfl⟩ | ⟨s, more, stepped, -, rfl⟩
      · exact nofun
      have kind : s.token.kind = .spanStart ∨ s.token.kind = .templateEnd := by
        cases ends with
        | done =>
            cases opened with
            | nil => cases stepped
            | cons first outer =>
                cases first with
                | quote start => cases stepped
                | span start => exact absurd rfl outside
        | span rest =>
            obtain ⟨t, cut, kind, -⟩ := cuts_spanStart rfl outside rest offset
            cases stepped.symm.trans cut
            exact .inl kind
        | quote inQuotes rest =>
            obtain ⟨frames, same⟩ := List.head?_eq_some_iff.mp (beq_iff_eq.mp inQuotes)
            obtain ⟨t, cut, kind, -⟩ := cuts_unquote same rest offset
            cases stepped.symm.trans cut
            exact .inr kind
      intro text
      have first : s.token.kind = .text other := Option.some.inj text
      rw [first] at kind
      rcases kind with kind | kind
      · cases kind
      · cases kind

/-- By induction on the steps, each of which takes a piece off the characters. -/
theorem tiles_of_run {steps : Nat} {opened : List Opened} {offset : Nat} {cs : List Char}
    {tokens : List Token} (enough : cs.length < steps) (ran : run steps opened offset cs = .ok tokens) :
    Tiles (opened.map Frame.ofOpened) offset cs tokens := by
  induction steps generalizing opened offset cs tokens with
  | zero => exact absurd enough (Nat.not_lt_zero _)
  | succ steps ih =>
      rcases run_eq_ok ran with ⟨ended, rfl⟩ | ⟨s, more, stepped, further, rfl⟩
      · obtain ⟨rfl, rfl⟩ := step_eq_none ended
        exact .done offset
      obtain ⟨blanks, behind, rfl, blank, inside, takes⟩ := step_eq_some stepped
      cases takes with
      | @intro taken rest k next piece frames ends =>
          have consumed : 0 < taken.length := List.length_pos_iff.mpr piece.present
          simp only [List.length_append] at enough
          have fewer : rest.length < steps := by omega
          have tiles := ih fewer further
          rw [frames] at tiles
          refine .next blank inside piece ?_ tiles
          rintro content other rfl
          rw [after_text] at frames
          have outside := piece.admits.outside
          exact head_ne_text_of_run (frames ▸ outside) (frames ▸ ends content rfl) further other

/-- The kinds stand where they may, no text follows another, and all that is opened is closed. -/
inductive Balanced : List Frame → List TokenKind → Prop where
  | done : Balanced [] [.templateEnd]
  | next {opened : List Frame} {k : TokenKind} {ks : List TokenKind} (admits : Admits opened k)
      (alone : ∀ content other, k = .text content → ks.head? ≠ some (.text other))
      (rest : Balanced (after opened k) ks) : Balanced opened (k :: ks)

/-- The characters spell the token, with only blanks behind, and these only if the next one is in a span. -/
def Covers (opened : List Frame) (k : TokenKind) (cs : List Char) : Prop :=
  ∃ word blanks, cs = word ++ blanks ∧ Spells opened k word ∧ (∀ c ∈ blanks, Text.isBlank c = true) ∧
    (blanks ≠ [] → (after opened k).head? = some .span)

def piece (cs : List Char) (a b : Token) : List Char := (cs.drop a.offset).take (b.offset - a.offset)

/-- The characters cut where the tokens stand. -/
def pieces (cs : List Char) : List Token → List (List Char)
  | a :: b :: rest => piece cs a b :: pieces cs (b :: rest)
  | _ => []

def framesAfter (tokens : List Token) : List Frame := tokens.foldl (fun opened t => after opened t.kind) []

/-- The tokens nest properly, follow one another to the end, and cut the source into their spellings. -/
structure Lossless (cs : List Char) (tokens : List Token) : Prop where
  ended : ∃ front, tokens = front ++ [⟨.endOfInput, cs.length⟩] ∧ ∀ t ∈ front, t.kind ≠ .endOfInput
  nested : ∃ body, tokens.map (·.kind) = .templateStart :: body ++ [.endOfInput] ∧ Balanced [] body
  ordered : tokens.Pairwise fun a b => a.offset ≤ b.offset
  covered : ∀ before a b later, tokens = before ++ a :: b :: later →
    Covers (framesAfter before) a.kind (piece cs a b)
  whole : (pieces cs tokens).flatten = cs
  few : tokens.length ≤ cs.length + 3

theorem piece_append {front middle behind : List Char} {a b : Token} (start : a.offset = front.length)
    (stop : b.offset = front.length + middle.length) : piece (front ++ (middle ++ behind)) a b = middle := by
  unfold piece
  rw [start, stop, List.drop_left, Nat.add_sub_cancel_left, List.take_left]

theorem flatten_pieces {cs : List Char} {a : Token} {rest : List Token}
    (ordered : (a :: rest).Pairwise fun a b => a.offset ≤ b.offset)
    (ended : ∀ t ∈ (a :: rest).getLast?, t.offset = cs.length) :
    (pieces cs (a :: rest)).flatten = cs.drop a.offset := by
  induction rest generalizing a with
  | nil =>
      have stop : a.offset = cs.length := ended a rfl
      rw [stop, List.drop_length]
      rfl
  | cons b rest ih =>
      obtain ⟨above, further⟩ := List.pairwise_cons.mp ordered
      have later := ih further fun t last => ended t (by rwa [List.getLast?_cons_cons])
      have forward : a.offset ≤ b.offset := above b List.mem_cons_self
      rw [pieces, List.flatten_cons, later]
      calc
        piece cs a b ++ cs.drop b.offset
          = (cs.drop a.offset).take (b.offset - a.offset) ++
            (cs.drop a.offset).drop (b.offset - a.offset) := by
            rw [List.drop_drop, Nat.add_sub_cancel' forward, piece]
        _ = cs.drop a.offset := List.take_append_drop _ _

section Tiles

variable {opened : List Frame} {offset : Nat} {cs : List Char} {tokens : List Token}

theorem Admits.ne_endOfInput {k : TokenKind} (admits : Admits opened k) : k ≠ .endOfInput := by
  rintro rfl
  cases admits with
  | inner isInner => cases isInner

theorem Tiles.ended (tiles : Tiles opened offset cs tokens) :
    ∃ front, tokens = front ++ [⟨.endOfInput, offset + cs.length⟩] ∧ ∀ t ∈ front, t.kind ≠ .endOfInput := by
  induction tiles with
  | done offset =>
      refine ⟨[⟨.templateEnd, offset⟩], rfl, fun t member => ?_⟩
      rw [List.mem_singleton.mp member]
      exact nofun
  | @next opened offset blanks taken behind k tokens _ _ piece _ _ ih =>
      obtain ⟨front, rfl, others⟩ := ih
      refine ⟨⟨k, offset + blanks.length⟩ :: front, ?_, List.forall_mem_cons.mpr ⟨?_, others⟩⟩
      · simp only [List.length_append, List.cons_append, Nat.add_assoc]
      · exact piece.admits.ne_endOfInput

theorem Tiles.balanced (tiles : Tiles opened offset cs tokens) :
    ∃ body, tokens.map (·.kind) = body ++ [.endOfInput] ∧ Balanced opened body := by
  induction tiles with
  | done offset => exact ⟨[.templateEnd], rfl, .done⟩
  | @next opened offset blanks taken behind k tokens _ _ piece alone _ ih =>
      obtain ⟨body, kinds, balanced⟩ := ih
      refine ⟨k :: body, congrArg (k :: ·) kinds,
        .next piece.admits (fun content other text first => ?_) balanced⟩
      refine alone content other text ?_
      rw [kinds, List.head?_append, first]
      rfl

theorem Tiles.offset_le (tiles : Tiles opened offset cs tokens) : ∀ t ∈ tokens, offset ≤ t.offset := by
  induction tiles with
  | done offset => simp
  | @next opened offset blanks taken behind k tokens _ _ _ _ _ ih =>
      refine List.forall_mem_cons.mpr ⟨Nat.le_add_right offset _, fun t member => ?_⟩
      have later := ih t member
      omega

theorem Tiles.ordered (tiles : Tiles opened offset cs tokens) :
    tokens.Pairwise fun a b => a.offset ≤ b.offset := by
  induction tiles with
  | done offset => simp
  | @next opened offset blanks taken behind k tokens _ _ _ _ rest ih =>
      refine List.pairwise_cons.mpr ⟨fun t member => ?_, ih⟩
      have later := rest.offset_le t member
      show offset + blanks.length ≤ t.offset
      omega

theorem Tiles.length_le (tiles : Tiles opened offset cs tokens) : tokens.length ≤ cs.length + 2 := by
  induction tiles with
  | done offset => exact Nat.le_refl 2
  | @next opened offset blanks taken behind k tokens _ _ piece _ _ ih =>
      have consumed : 0 < taken.length := List.length_pos_iff.mpr piece.present
      simp only [List.length_cons, List.length_append]
      omega

theorem Tiles.head {b : Token} (tiles : Tiles opened offset cs (b :: tokens)) :
    ∃ blanks behind, cs = blanks ++ behind ∧ b.offset = offset + blanks.length ∧
      (∀ c ∈ blanks, Text.isBlank c = true) ∧ (blanks ≠ [] → opened.head? = some .span) := by
  cases tiles with
  | done => exact ⟨[], [], rfl, rfl, nofun, nofun⟩
  | next blank inside => exact ⟨_, _, rfl, rfl, blank, inside⟩

/-- By induction on the pieces, with the part of the source that is already cut before them. -/
theorem Tiles.covered (tiles : Tiles opened offset cs tokens) {front : List Char}
    (start : front.length = offset) {before later : List Token} {a b : Token}
    (split : tokens = before ++ a :: b :: later) :
    Covers (before.foldl (fun opened t => after opened t.kind) opened) a.kind (piece (front ++ cs) a b) := by
  induction tiles generalizing front before with
  | done offset =>
      cases before with
      | nil =>
          cases split
          exact ⟨[], [], by simp [piece], .fixed .templateEnd, nofun, nofun⟩
      | cons t before =>
          have lengths := congrArg List.length split
          simp only [List.length_append, List.length_cons, List.length_nil] at lengths
          omega
  | @next opened offset blanks taken behind k tokens blank inside slice alone rest ih =>
      cases before with
      | nil =>
          cases split
          obtain ⟨more, further, rfl, stands, blank, inside⟩ := rest.head
          have cut : front ++ (blanks ++ (taken ++ (more ++ further))) =
              (front ++ blanks) ++ ((taken ++ more) ++ further) := by simp only [List.append_assoc]
          refine ⟨taken, more, ?_, slice.spells, blank, inside⟩
          rw [cut]
          refine piece_append ?_ ?_
          · rw [List.length_append, start]
          · rw [stands, List.length_append, List.length_append, start, Nat.add_assoc]
      | cons t before =>
          cases split
          have aligned : (front ++ (blanks ++ taken)).length = offset + blanks.length + taken.length := by
            simp only [List.length_append, start, Nat.add_assoc]
          have covers := ih aligned rfl
          simp only [List.append_assoc] at covers
          exact covers

end Tiles

theorem tiles_of_tokenize {source : String} {tokens : List Token} (done : tokenize source = .ok tokens) :
    ∃ more, tokens = ⟨.templateStart, 0⟩ :: more ∧ Tiles [] 0 source.toList more := by
  unfold tokenize at done
  cases ran : run (source.toList.length + 1) [] 0 source.toList with
  | error e =>
      simp only [bind, Except.bind, ran] at done
      cases done
  | ok more =>
      simp only [bind, Except.bind, ran] at done
      cases done
      exact ⟨more, rfl, tiles_of_run (Nat.lt_succ_self _) ran⟩

/-- The tokens of a source end with the end of input, nest properly, follow one another, and cut the source
into their spellings, so that every character belongs to one of them. -/
theorem tokenize_lossless (source : String) (tokens : List Token) (done : tokenize source = .ok tokens) :
    Lossless source.toList tokens := by
  obtain ⟨more, rfl, tiles⟩ := tiles_of_tokenize done
  have ordered : (⟨.templateStart, 0⟩ :: more : List Token).Pairwise fun a b => a.offset ≤ b.offset :=
    List.pairwise_cons.mpr ⟨fun t _ => Nat.zero_le t.offset, tiles.ordered⟩
  obtain ⟨front, ended, others⟩ := tiles.ended
  rw [Nat.zero_add] at ended
  constructor
  case ended =>
    exact ⟨⟨.templateStart, 0⟩ :: front, congrArg _ ended, List.forall_mem_cons.mpr ⟨nofun, others⟩⟩
  case nested =>
    obtain ⟨body, kinds, balanced⟩ := tiles.balanced
    exact ⟨body, congrArg _ kinds, balanced⟩
  case ordered => exact ordered
  case covered =>
    intro before a b later split
    cases before with
    | nil =>
        cases split
        obtain ⟨blanks, behind, -, stands, -, inside⟩ := tiles.head
        have none : blanks = [] := by
          by_contra present
          cases inside present
        subst none
        exact ⟨[], [], by simp [piece, stands], .fixed .templateStart, nofun, nofun⟩
    | cons t before =>
        cases split
        exact @Tiles.covered _ _ _ _ tiles [] rfl before later a b rfl
  case whole =>
    refine flatten_pieces ordered fun t last => ?_
    rw [ended, ← List.cons_append, List.getLast?_concat] at last
    cases last
    rfl
  case few =>
    have fewer := tiles.length_le
    rw [List.length_cons]
    omega

/-- Quotes inside a span hold an escape and a span with a digit too many, and blanks stand between tokens. -/
theorem tokenize_lossless_of_quotes :
    ∃ (source : String) (tokens : List Token), tokenize source = .ok tokens ∧
      Lossless source.toList tokens ∧
      pieces source.toList tokens =
        [[], ['é', '\\', '@'], ['@', '\x7b', ' '], ['\''], ['a', '\\', 'n'], ['@', '\x7b'],
         ['0', '7'], ['\x7d'], ['\'', '\t'], ['+'], ['1', ' '], ['\x7d'], []] := by
  let cs : List Char :=
    ['é', '\\', '@', '@', '\x7b', ' ', '\'', 'a', '\\', 'n', '@', '\x7b', '0', '7', '\x7d', '\'', '\t',
     '+', '1', ' ', '\x7d']
  let tokens : List Token := [⟨.templateStart, 0⟩, ⟨.text (String.ofList ['é', '@']), 0⟩, ⟨.spanStart, 3⟩,
    ⟨.templateStart, 6⟩, ⟨.text (String.ofList ['a', '\n']), 7⟩, ⟨.spanStart, 10⟩, ⟨.integer 7, 12⟩,
    ⟨.spanEnd, 14⟩, ⟨.templateEnd, 15⟩, ⟨.plus, 17⟩, ⟨.integer 1, 18⟩, ⟨.spanEnd, 20⟩, ⟨.templateEnd, 21⟩,
    ⟨.endOfInput, 21⟩]
  have done : tokenize (String.ofList cs) = .ok tokens := by
    unfold tokenize
    simp only [String.toList_ofList]
    rfl
  refine ⟨String.ofList cs, tokens, done, tokenize_lossless _ tokens done, ?_⟩
  rw [String.toList_ofList]
  rfl

end CardExpr.Spelling
