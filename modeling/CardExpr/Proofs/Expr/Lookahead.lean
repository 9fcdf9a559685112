import CardExpr.Proofs.Expr.Soundness

/-!
What a run of the parser tells of every other run, on tokens that begin like its own: up to the token that it
looks at last, another run does the same or does not succeed.
-/

namespace CardExpr.Parser

open Grammar

variable {α β : Type}

def Cursor.tokens (c : Cursor) : List Token := c.current :: c.ahead

def kinds (ts : List Token) : List TokenKind := ts.map (·.kind)

/-- Tokens of these kinds are the first before the cursor. -/
def Opens (ts : List Token) (c : Cursor) : Prop := kinds ts <+: kinds c.tokens

/-- The token that an error is about. Of a method's name that the end of the list is in place of, it is the
point before the end. -/
inductive Blames (e : ParseError) (before : List Token) (found : Token) (after : List Token) : Prop where
  | found (same : e.found = found) (inside : ¬ (e.expected = .methodName ∧ after = []))
  | point (init : List Token) (named : e.expected = .methodName) (last : after = [])
      (behind : before = init ++ [e.found]) (point : e.found.kind = .dot)

/-- The parser, wherever it takes what the other has used, does so with the same value. -/
def Follows (q : Parser α) (a : α) (used : List Token) (looked : Token) : Prop :=
  ∀ d b d', Opens (used ++ [looked]) d → q d = .ok b d' →
    b = a ∧ kinds d.tokens = kinds used ++ kinds d'.tokens

/-- The parser takes no tokens that begin like these. -/
def Rejects (q : Parser α) (ts : List Token) : Prop := ∀ d b d', Opens ts d → q d ≠ .ok b d'

/-- How many tokens are taken of those that the error is about: what is no method's name is taken too. -/
def lag (e : ParseError) : Nat := if e.expected = .methodName then 1 else 0

/-- How `p` ends at the cursor, and what that says of `q`. Where `p` fails, `V` holds of what is before the
token that the error is about. -/
def Foretells (p q : Parser α) (c : Cursor) (V : List TokenKind → Prop) : Prop :=
  match p c with
  | .ok a c' => ∃ used, c.tokens = used ++ c'.tokens ∧ c'.taken = c.taken + used.length ∧
      Follows q a used c'.current
  | .error e c' => ∃ before found after, c.tokens = before ++ found :: after ∧
      c'.taken = c.taken + before.length + lag e ∧ V (kinds before) ∧ Blames e before found after ∧
      Rejects q (before ++ [found])

theorem Cursor.taken_advance (c : Cursor) : c.advance.taken = c.taken + 1 := by
  unfold Cursor.advance
  cases c.ahead <;> rfl

theorem kinds_append (ts us : List Token) : kinds (ts ++ us) = kinds ts ++ kinds us := List.map_append

theorem Left.kinds_eq {c : Cursor} {ks : List TokenKind} (left : Left c ks) :
    kinds c.tokens = ks ++ [.endOfInput] := left

theorem Left.tokens_eq {c : Cursor} {k : TokenKind} {rest : List TokenKind} (left : Left c (k :: rest)) :
    c.tokens = c.current :: c.advance.tokens := by
  have behind : c.ahead.map (·.kind) = rest ++ [.endOfInput] := (List.cons.inj left).2
  unfold Cursor.advance Cursor.tokens
  cases ahead : c.ahead with
  | nil =>
      rw [ahead] at behind
      exact absurd behind.symm (List.append_ne_nil_of_right_ne_nil rest (List.cons_ne_nil _ []))
  | cons next more => rfl

theorem Opens.take {ts us : List Token} {d : Cursor} (opens : Opens (ts ++ us) d) : Opens ts d := by
  unfold Opens at opens ⊢
  rw [kinds_append] at opens
  exact (List.prefix_append _ _).trans opens

theorem Opens.drop {ts us : List Token} {d d' : Cursor} (opens : Opens (ts ++ us) d)
    (split : kinds d.tokens = kinds ts ++ kinds d'.tokens) : Opens us d' := by
  unfold Opens at opens ⊢
  rwa [split, kinds_append, List.prefix_append_right_inj] at opens

theorem Opens.current_eq {t : Token} {ts : List Token} {d : Cursor} (opens : Opens (t :: ts) d) :
    d.current.kind = t.kind :=
  (List.cons_prefix_cons.mp opens).1.symm

theorem Cursor.read_eq {c : Cursor} {used after : List Token} {looked : Token}
    (split : c.tokens = used ++ looked :: after) : ∃ ts, used ++ [looked] = c.current :: ts := by
  cases used with
  | nil => exact ⟨[], congrArg (fun t => [t]) (List.cons.inj split).1.symm⟩
  | cons t used => exact ⟨used ++ [looked], congrArg (· :: (used ++ [looked])) (List.cons.inj split).1.symm⟩

/-- Where more was taken and looked at behind `used`, tokens that open alike also open like `used` and what
is behind it. -/
theorem Opens.start {used more after : List Token} {looked : Token} {between d : Cursor}
    (split : between.tokens = more ++ looked :: after) (opens : Opens (used ++ more ++ [looked]) d) :
    Opens (used ++ [between.current]) d := by
  obtain ⟨ts, read⟩ := between.read_eq split
  rw [List.append_assoc, read, ← List.singleton_append, ← List.append_assoc] at opens
  exact opens.take

theorem Opens.advance {t u : Token} {ts : List Token} {d : Cursor} (opens : Opens (t :: u :: ts) d) :
    kinds d.tokens = t.kind :: kinds d.advance.tokens ∧ Opens (u :: ts) d.advance := by
  obtain ⟨same, behind⟩ := List.cons_prefix_cons.mp opens
  have ahead : d.ahead = d.advance.tokens := by
    unfold Cursor.advance Cursor.tokens
    cases rest : d.ahead with
    | nil =>
        rw [rest] at behind
        cases List.prefix_nil.mp behind
    | cons next more => rfl
  rw [ahead] at behind
  refine ⟨?_, behind⟩
  calc
    kinds d.tokens = d.current.kind :: kinds d.ahead := rfl
    _ = t.kind :: kinds d.advance.tokens := by rw [ahead, ← show t.kind = d.current.kind from same]

/-- A bind that ends well on tokens that open alike begins like the observed one and goes on behind it. -/
theorem Follows.bind {q : Parser α} {g : α → Parser β} {a : α} {b : β} {used more after : List Token}
    {looked : Token} {between d d' : Cursor} (follows : Follows q a used between.current)
    (split : between.tokens = more ++ looked :: after) (opens : Opens (used ++ more ++ [looked]) d)
    (run : (q >>= g) d = .ok b d') :
    ∃ d₁, g a d₁ = .ok b d' ∧ kinds d.tokens = kinds used ++ kinds d₁.tokens ∧
    Opens (more ++ [looked]) d₁ := by
  obtain ⟨x, d₁, start, rest⟩ := (bind_eq_ok q g d b d').mp run
  obtain ⟨rfl, parts⟩ := follows d x d₁ (opens.start split) start
  rw [List.append_assoc] at opens
  exact ⟨d₁, rest, parts, opens.drop parts⟩

theorem expect_bind (accepts : TokenKind → Bool) (expected : Expected) (f : Unit → Parser β) (c : Cursor) :
    (expect accepts expected >>= f) c =
      if accepts c.current.kind then (advance >>= f) c else (fail expected : Parser β) c := by
  have run : expect accepts expected c = (if accepts c.current.kind then advance else fail expected) c := rfl
  show EStateM.bind (expect accepts expected) f c = _
  unfold EStateM.bind
  rw [run]
  cases accepts c.current.kind <;> rfl

theorem Blames.append {e : ParseError} {before after : List Token} {found : Token} (used : List Token)
    (blames : Blames e before found after) : Blames e (used ++ before) found after := by
  cases blames with
  | found same inside => exact .found same inside
  | point init named last behind point =>
      exact .point (used ++ init) named last (by rw [behind, List.append_assoc]) point

namespace Foretells

variable {p q : Parser α} {f g : α → Parser β} {c : Cursor} {ks : List TokenKind}
  {V : List TokenKind → Prop}

theorem mono {W : List TokenKind → Prop} (foretells : Foretells p q c V) (weaker : ∀ ks, V ks → W ks) :
    Foretells p q c W := by
  unfold Foretells at foretells ⊢
  split at foretells
  · exact foretells
  · obtain ⟨before, found, after, split, taken, holds, blames, rejects⟩ := foretells
    exact ⟨before, found, after, split, taken, weaker _ holds, blames, rejects⟩

theorem congr {p' q' : Parser α} (same : p c = p' c)
    (likewise : ∀ d : Cursor, d.current.kind = c.current.kind → q d = q' d)
    (foretells : Foretells p' q' c V) :
    Foretells p q c V := by
  have begins {used after : List Token} {looked : Token} (split : c.tokens = used ++ looked :: after)
      {d : Cursor} (opens : Opens (used ++ [looked]) d) : q d = q' d := by
    obtain ⟨ts, read⟩ := c.read_eq split
    exact likewise d (read ▸ opens).current_eq
  unfold Foretells at foretells ⊢
  rw [same]
  split at foretells
  · obtain ⟨used, split, taken, follows⟩ := foretells
    exact ⟨used, split, taken, fun d b d' opens run => follows d b d' opens (begins split opens ▸ run)⟩
  · obtain ⟨before, found, after, split, taken, holds, blames, rejects⟩ := foretells
    exact ⟨before, found, after, split, taken, holds, blames,
      fun d b d' opens run => rejects d b d' opens (begins split opens ▸ run)⟩

theorem pure (a : α) (c : Cursor) (V : List TokenKind → Prop) :
    Foretells (Pure.pure a) (Pure.pure a) c V := by
  refine ⟨[], rfl, rfl, fun d b d' opens run => ?_⟩
  cases run
  exact ⟨rfl, rfl⟩

theorem fail {expected : Expected} (other : expected ≠ .methodName) (holds : V []) :
    Foretells (Parser.fail expected : Parser α) (Parser.fail expected) c V := by
  refine ⟨[], c.current, c.ahead, rfl, ?_, holds, .found rfl fun slip => other slip.1,
    fun _ _ _ _ run => nomatch run⟩
  show c.taken = c.taken + 0 + lag ⟨expected, c.current⟩
  rw [lag, if_neg other, Nat.add_zero]

theorem ofFail {expected : Expected} (foretells : Foretells p q c V) :
    Foretells p (Parser.fail expected) c V := by
  unfold Foretells at foretells ⊢
  split at foretells
  · obtain ⟨used, split, taken, -⟩ := foretells
    exact ⟨used, split, taken, fun _ _ _ _ run => nomatch run⟩
  · obtain ⟨before, found, after, split, taken, holds, blames, -⟩ := foretells
    exact ⟨before, found, after, split, taken, holds, blames, fun _ _ _ _ run => nomatch run⟩

theorem bind {D : α → List TokenKind → Prop} (left : Left c ks)
    (sound : Yields p ks fun a rest => ∃ used, ks = used ++ rest ∧ D a used) (first : Foretells p q c V)
    (second : ∀ a c' used rest, ks = used ++ rest → Left c' rest → D a used →
      Foretells (f a) (g a) c' fun more => V (used ++ more)) :
    Foretells (p >>= f) (q >>= g) c V := by
  unfold Foretells at first ⊢
  show match EStateM.bind p f c with | .ok _ _ => _ | .error _ _ => _
  unfold EStateM.bind
  cases run : p c with
  | error e between =>
      rw [run] at first
      obtain ⟨before, found, after, split, taken, holds, blames, rejects⟩ := first
      refine ⟨before, found, after, split, taken, holds, blames, fun d b d' opens further => ?_⟩
      obtain ⟨a, d₁, start, -⟩ := (bind_eq_ok q g d b d').mp further
      exact rejects d a d₁ opens start
  | ok a between =>
      rw [run] at first
      obtain ⟨used, split, taken, follows⟩ := first
      obtain ⟨rest, behind, used', parted, holds⟩ := sound c a between left run
      have same : used' = kinds used := by
        have whole : kinds used ++ kinds between.tokens = ks ++ [.endOfInput] := by
          rw [← kinds_append, ← split, left.kinds_eq]
        rw [behind.kinds_eq, parted, List.append_assoc] at whole
        exact (List.append_cancel_right whole).symm
      subst same
      have later := second a between _ rest parted behind holds
      unfold Foretells at later
      dsimp only
      split at later
      · obtain ⟨more, also, count, further⟩ := later
        refine ⟨used ++ more, by rw [split, also, List.append_assoc],
          by rw [count, taken, List.length_append, Nat.add_assoc], fun d b d' opens run => ?_⟩
        obtain ⟨d₁, ran, parts, opened⟩ := follows.bind also opens run
        obtain ⟨same, remains⟩ := further d₁ b d' opened ran
        exact ⟨same, by rw [parts, remains, kinds_append, List.append_assoc]⟩
      · obtain ⟨more, found, after, also, count, holds, blames, rejects⟩ := later
        refine ⟨used ++ more, found, after, by rw [split, also, List.append_assoc],
          by rw [count, taken, List.length_append, ← Nat.add_assoc], ?_, blames.append used,
          fun d b d' opens run => ?_⟩
        · rw [kinds_append]
          exact holds
        · obtain ⟨d₁, ran, -, opened⟩ := follows.bind also opens run
          exact rejects d₁ b d' opened ran

theorem peek {f g : TokenKind → Parser β} (further : Foretells (f c.current.kind) (g c.current.kind) c V) :
    Foretells (Parser.peek >>= f) (Parser.peek >>= g) c V :=
  congr rfl (fun d same => congrArg (fun k => g k d) same) further

theorem advance {f g : Unit → Parser β} {k : TokenKind} {rest : List TokenKind} (left : Left c (k :: rest))
    (further : ∀ c', Left c' rest → Foretells (f ()) (g ()) c' fun more => V (k :: more)) :
    Foretells (Parser.advance >>= f) (Parser.advance >>= g) c V := by
  have sound : Yields Parser.advance (k :: rest) fun _ out => ∃ used, k :: rest = used ++ out ∧
    used = [k] := by
    intro c _ c' left run
    cases run
    exact ⟨rest, left.advance, [k], rfl, rfl⟩
  have step : Foretells Parser.advance Parser.advance c V := by
    refine ⟨[c.current], left.tokens_eq, c.taken_advance, fun d _ d' opens run => ?_⟩
    cases run
    exact ⟨rfl, opens.advance.1⟩
  refine bind left sound step fun _ c' used out split behind taken => ?_
  subst taken
  exact further c' ((List.cons.inj split).2 ▸ behind)

theorem expect {f g : Unit → Parser β} {accepts : TokenKind → Bool} {expected : Expected}
    {kind : TokenKind} (left : Left c ks) (other : expected ≠ .methodName)
    (only : ∀ k, accepts k = true → k = kind) (inside : isEndOfInput kind = false) (holds : V [])
    (further : ∀ c' rest, ks = kind :: rest → Left c' rest →
      Foretells (f ()) (g ()) c' fun more => V (kind :: more)) :
    Foretells (Parser.expect accepts expected >>= f) (Parser.expect accepts expected >>= g) c V := by
  cases accepted : accepts c.current.kind with
  | false =>
      have stuck (h : Unit → Parser β) (d : Cursor) (same : d.current.kind = c.current.kind) :
          (Parser.expect accepts expected >>= h) d = (Parser.fail expected : Parser β) d := by
        rw [expect_bind, same, accepted]
        rfl
      exact congr (stuck f c rfl) (fun d same => stuck g d same) (fail other holds)
  | true =>
      have taken (h : Unit → Parser β) (d : Cursor) (same : d.current.kind = c.current.kind) :
          (Parser.expect accepts expected >>= h) d = (Parser.advance >>= h) d := by
        rw [expect_bind, same, accepted]
        rfl
      obtain ⟨rest, rfl⟩ := head_eq_cons (left.kind_eq.symm.trans (only _ accepted)) inside
      refine congr (taken f c rfl) (fun d same => taken g d same) (advance left fun c' behind => ?_)
      exact further c' rest rfl behind

end Foretells

def access : Parser String := do
  let point := (← get).current
  advance
  methodName point

theorem methodName_of_name (point : Token) {c : Cursor} {name : String}
    (named : c.current.kind = .identifier name) :
    methodName point c = .ok name c.advance := by
  obtain ⟨⟨kind, offset⟩, ahead, taken⟩ := c
  cases named
  rfl

theorem methodName_of_other (point : Token) {c : Cursor}
    (unnamed : ∀ name, c.current.kind ≠ .identifier name) :
    methodName point c = .error ⟨.methodName, if c.ahead.isEmpty then point else c.current⟩ c.advance := by
  obtain ⟨⟨kind, offset⟩, ahead, taken⟩ := c
  cases kind with
  | identifier name => exact absurd rfl (unnamed name)
  | _ => rfl

theorem access_of_name {c : Cursor} {name : String} (named : c.advance.current.kind = .identifier name) :
    access c = .ok name c.advance.advance :=
  methodName_of_name c.current named

theorem access_of_other {c : Cursor} (unnamed : ∀ name, c.advance.current.kind ≠ .identifier name) :
    access c = .error ⟨.methodName, if c.advance.ahead.isEmpty then c.current else c.advance.current⟩
      c.advance.advance :=
  methodName_of_other c.current unnamed

theorem yields_access (ks : List TokenKind) :
    Yields access (.dot :: ks) fun name rest => ∃ used, .dot :: ks = used ++ rest ∧
    used = [.dot, .identifier name] := by
  refine .get fun c looked => .advance ((yields_methodName _ ks).mono fun name rest same => ?_)
  exact ⟨[.dot, .identifier name], congrArg (_ :: ·) same, rfl⟩

theorem foretells_access {c : Cursor} {rest : List TokenKind} {V : List TokenKind → Prop}
    (left : Left c (.dot :: rest)) (holds : V [.dot]) : Foretells access access c V := by
  have point : c.current.kind = .dot := left.kind_eq
  have behind := left.advance
  unfold Foretells
  by_cases named : ∃ name, c.advance.current.kind = .identifier name
  · obtain ⟨name, named⟩ := named
    obtain ⟨more, rfl⟩ := head_eq_cons (behind.kind_eq.symm.trans named) rfl
    rw [access_of_name named]
    refine ⟨[c.current, c.advance.current], ?_, ?_, fun d b d' opens run => ?_⟩
    · rw [left.tokens_eq, behind.tokens_eq]
      rfl
    · rw [c.advance.taken_advance, c.taken_advance]
      rfl
    · obtain ⟨first, opened⟩ := opens.advance
      obtain ⟨second, -⟩ := opened.advance
      rw [access_of_name (opened.current_eq.trans named)] at run
      cases run
      exact ⟨rfl, by rw [first, second]; rfl⟩
  · have unnamed := not_exists.mp named
    rw [access_of_other unnamed]
    refine ⟨[c.current], c.advance.current, c.advance.ahead, left.tokens_eq, ?_, ?_, ?_, ?_⟩
    · rw [c.advance.taken_advance, c.taken_advance]
      rfl
    · rwa [show kinds [c.current] = [.dot] from congrArg (fun k => [k]) point]
    · cases last : c.advance.ahead with
      | nil => exact .point [] rfl rfl rfl point
      | cons next more => exact .found rfl fun slip => nomatch slip.2
    · intro d b d' opens run
      obtain ⟨-, opened⟩ := opens.advance
      rw [access_of_other fun name same => unnamed name (opened.current_eq.symm.trans same)] at run
      cases run

end CardExpr.Parser
