import CardExpr.Proofs.Calendar.Quoting
import CardExpr.Proofs.Evaluation.Operands
import CardExpr.Proofs.Function.Builtin

/-!
Instants written by patterns. What a pattern holds literally is written as it stands, and no pattern comes to
a format that cannot be written.
-/

namespace CardExpr

namespace DatePattern

open Calendar

def formatted (e p : Expr) : Expr := .call "formatDateAsUTC" [e, p]

/-- A text as a pattern: between quotes, its own quotes doubled. -/
def quoted (text : String) : String := String.ofList (quoteText text.toList)

section Calls

variable {s : Setting} {depth : Nat} {e p : Expr} {t : DateTime} {pattern : String}

def outcome (formats : Except PatternError String) : Except EvalError Value :=
  (formats.map Value.string).mapError fun e => .function "formatDateAsUTC" (.invalidPattern e)

theorem formatDate_eq (t : DateTime) (pattern : String) :
    Builtin.formatDate ⟨"formatDateAsUTC", [.datetime t, .string pattern]⟩ =
      outcome (formatPattern t pattern) := by
  have instant : Args.datetime ⟨"formatDateAsUTC", [.datetime t, .string pattern]⟩ 0 = .ok t := rfl
  have given : Args.string ⟨"formatDateAsUTC", [.datetime t, .string pattern]⟩ 1 = .ok pattern := rfl
  unfold Builtin.formatDate
  simp only [instant, given, bind, Except.bind]
  cases formatPattern t pattern <;> rfl

theorem result_formatted (later : Registry.builtins.Later s.functions)
    (known : s.ComesTo depth e (.datetime t)) (given : s.ComesTo depth p (.string pattern)) :
    (eval (depth + 1) s (formatted e p)).result = outcome (formatPattern t pattern) := by
  have tried : (Registry.builtinsOf .function "formatDateAsUTC").head? = some ⟨"formatDateAsUTC",
      ⟨[Builtin.datetime, Builtin.string], none, .string⟩, .native (.pure Builtin.formatDate)⟩ := rfl
  rw [← formatDate_eq]
  exact Setting.ComesTo.result_builtin (.cons known (.cons given .nil)) later tried
    ⟨.cons (.same .datetime) (.cons (.same .string) .nil), nofun⟩

end Calls

/-- The translation fails exactly where the scan of the pattern ends at a defect, which it reports; otherwise
it is the codes of the pieces that were scanned, one after the other, and is read as these pieces and nothing
else. So the call comes to their texts, or fails with the defect, whatever is registered over the built-in
functions and for all trees that come to an instant and the pattern. -/
theorem translates_exactly (pattern : String) :
    (∀ defect, translatePattern pattern.toList = .error defect ↔
      ∃ pieces, Scans pattern.toList pieces (some defect)) ∧
    (∀ format, translatePattern pattern.toList = .ok format ↔
      ∃ pieces, Scans pattern.toList pieces none ∧ format = pieces.flatMap Piece.code) ∧
    (∀ pieces, Scans pattern.toList pieces none → readFormat (pieces.flatMap Piece.code) = some pieces) ∧
    ∀ (s : Setting), Registry.builtins.Later s.functions → ∀ (depth : Nat) (e p : Expr) (t : DateTime),
      s.ComesTo depth e (.datetime t) → s.ComesTo depth p (.string pattern) →
      (∀ pieces, Scans pattern.toList pieces none →
        s.ComesTo (depth + 1) (formatted e p) (.string (String.ofList (render t pieces)))) ∧
      ∀ pieces defect, Scans pattern.toList pieces (some defect) →
        (eval (depth + 1) s (formatted e p)).result =
          .error (.function "formatDateAsUTC" (.invalidPattern defect)) := by
  refine ⟨fun defect => translatePattern_eq_error_iff, fun format => translatePattern_eq_ok_iff,
    fun pieces _ => readFormat_codes pieces, fun s later depth e p t known given => ?_⟩
  have called := result_formatted later known given
  constructor
  · intro pieces scans
    exact called.trans (congrArg outcome (formatPattern_of_scans scans t))
  · intro pieces defect scans
    exact called.trans (congrArg outcome (formatPattern_of_defect scans t))

/-- A number, a name and a padded number, percent signs in and outside quotes, and an unknown letter before a
quote that is not closed. -/
theorem translates_exactly_of_percent :
    ∃ (s : Setting) (e p q : Expr) (t : DateTime) (pattern wrong : String) (pieces : List Piece),
      Registry.builtins.Later s.functions ∧ s.ComesTo 1 e (.datetime t) ∧ s.ComesTo 1 p (.string pattern) ∧
      s.ComesTo 1 q (.string wrong) ∧ pattern = "yyyy MMM dd'%Y'%''" ∧ wrong = "d Q'" ∧
      Scans pattern.toList pieces none ∧ translatePattern pattern.toList = .ok "%Y %b %d%%Y%%'".toList ∧
      readFormat "%Y %b %d%%Y%%'".toList = some pieces ∧
      s.ComesTo 2 (formatted e p) (.string "1970 Jan 01%Y%'") ∧
      (eval 2 s (formatted e q)).result =
        .error (.function "formatDateAsUTC" (.invalidPattern (.unsupportedLetter 'Q'))) := by
  let s : Setting := ⟨.ofTable [("t", .datetime .epoch)], .builtins, {}, .epoch⟩
  have later : Registry.builtins.Later s.functions := .refl
  have known : s.ComesTo 1 (.variable "t") (.datetime .epoch) := rfl
  have given : s.ComesTo 1 (.string "yyyy MMM dd'%Y'%''") (.string "yyyy MMM dd'%Y'%''") := rfl
  have other : s.ComesTo 1 (.string "d Q'") (.string "d Q'") := rfl
  have scans : Scans "yyyy MMM dd'%Y'%''".toList
      [.field .year, .literal ' ', .field .monthShort, .literal ' ', .field .dayPadded, .literal '%',
       .literal 'Y', .literal '%', .literal '\''] none := by
    apply @Scans.field 'y' 3 _ _ _ _ (by decide) (.year (by decide)) (by decide)
    apply Scans.literal (by decide) rfl
    apply @Scans.field 'M' 2 _ _ _ _ (by decide) .monthShort (by decide)
    apply Scans.literal (by decide) rfl
    apply @Scans.field 'd' 1 _ _ _ _ (by decide) (.dayPadded (by decide)) (by decide)
    apply @Scans.quoted ['%', 'Y'] _ _ _ (by decide) (by decide)
    exact .literal (by decide) rfl (.doubled .done)
  have defect : Scans "d Q'".toList [.field .day, .literal ' '] (some (.unsupportedLetter 'Q')) :=
    @Scans.field 'd' 0 _ _ _ _ (by decide) .day (by decide)
      (.literal (by decide) rfl (.unsupported rfl (by decide)))
  obtain ⟨-, ok, read, calls⟩ := translates_exactly "yyyy MMM dd'%Y'%''"
  obtain ⟨-, -, -, otherCalls⟩ := translates_exactly "d Q'"
  obtain ⟨comes, -⟩ := calls s later 1 _ _ _ known given
  obtain ⟨-, refused⟩ := otherCalls s later 1 _ _ _ known other
  exact ⟨s, _, _, _, _, _, _, _, later, known, given, other, rfl, rfl, scans, (ok _).mpr ⟨_, scans, rfl⟩,
    read _ scans, comes _ scans, refused _ _ defect⟩

theorem render_literals (t : DateTime) (text : List Char) : render t (text.map .literal) = text := by
  rw [render, List.flatMap_map]
  exact List.flatMap_singleton' text

/-- Every text can be quoted and shows itself, but for its quotes: it shows exactly itself where these stand
before and behind all its other characters. -/
theorem quoted_shows (s : Setting) (later : Registry.builtins.Later s.functions) (depth : Nat) (e p : Expr)
    (t : DateTime) (text : String) (known : s.ComesTo depth e (.datetime t))
    (given : s.ComesTo depth p (.string (quoted text))) :
    ∃ shown : String, s.ComesTo (depth + 1) (formatted e p) (.string shown) ∧
      shown.toList = shownText false text.toList ∧ (shown = text ↔ QuotesOutside text.toList) := by
  have scans : Scans (quoted text).toList ((shownText false text.toList).map .literal) none := by
    rw [quoted, String.toList_ofList]
    exact (scans_quoteText text.toList).1
  have written := formatPattern_of_scans scans t
  rw [render_literals] at written
  refine ⟨String.ofList (shownText false text.toList),
    (result_formatted later known given).trans (congrArg outcome written), String.toList_ofList, ?_⟩
  rw [← shownText_eq_iff, ← String.toList_inj, String.toList_ofList]

/-- A quote before all other characters, and more of them behind. -/
theorem quoted_shows_of_outer :
    ∃ (s : Setting) (e p : Expr) (t : DateTime) (text : String), Registry.builtins.Later s.functions ∧
      s.ComesTo 1 e (.datetime t) ∧ s.ComesTo 1 p (.string (quoted text)) ∧ text = "'d%''" ∧
      quoted text = "'''d%'''''" ∧ s.ComesTo 2 (formatted e p) (.string text) := by
  let s : Setting := ⟨.ofTable [("t", .datetime .epoch)], .builtins, {}, .epoch⟩
  have later : Registry.builtins.Later s.functions := .refl
  have known : s.ComesTo 1 (.variable "t") (.datetime .epoch) := rfl
  have given : s.ComesTo 1 (.string (quoted "'d%''")) (.string (quoted "'d%''")) := rfl
  have outside : QuotesOutside "'d%''".toList := ⟨1, ['d', '%'], 2, rfl, by decide, by decide⟩
  obtain ⟨shown, comes, -, same⟩ := quoted_shows s later 1 _ _ _ "'d%''" known given
  cases same.mpr outside
  exact ⟨s, _, _, _, _, later, known, given, rfl, by decide, comes⟩

/-- A quote between other characters is lost. -/
theorem quoted_loses_apostrophe :
    ∃ (s : Setting) (e p : Expr) (t : DateTime) (text : String), Registry.builtins.Later s.functions ∧
      s.ComesTo 1 e (.datetime t) ∧ s.ComesTo 1 p (.string (quoted text)) ∧ text = "it's" ∧
      quoted text = "'it''s'" ∧ s.ComesTo 2 (formatted e p) (.string "its") ∧
      ¬ s.ComesTo 2 (formatted e p) (.string text) := by
  let s : Setting := ⟨.ofTable [("t", .datetime .epoch)], .builtins, {}, .epoch⟩
  have later : Registry.builtins.Later s.functions := .refl
  have known : s.ComesTo 1 (.variable "t") (.datetime .epoch) := rfl
  have given : s.ComesTo 1 (.string (quoted "it's")) (.string (quoted "it's")) := rfl
  have pattern : quoted "it's" = "'it''s'" := by decide
  have scans : Scans (quoted "it's").toList (("its".toList).map .literal) none := by
    rw [quoted, String.toList_ofList]
    exact (scans_quoteText "it's".toList).1
  have written := formatPattern_of_scans scans .epoch
  have comes : s.ComesTo 2 (formatted (.variable "t") (.string (quoted "it's"))) (.string "its") :=
    (result_formatted later known given).trans (congrArg outcome written)
  refine ⟨s, _, _, _, _, later, known, given, rfl, pattern, comes, fun same => ?_⟩
  have texts : "its" = "it's" := Value.string.inj (Except.ok.inj (comes.symm.trans same))
  exact absurd texts (by decide)

end DatePattern

end CardExpr
