import CardExpr.Proofs.Calendar.Pattern

/-!
Quoted text in date patterns. Between quotes a doubled quote ends the text and begins the next one, so no text
shows the quotes that stand between its other characters as they are.
-/

namespace CardExpr.Calendar

def doubleQuotes (text : List Char) : List Char :=
    text.flatMap fun c => if c = '\'' then ['\'', '\''] else [c]

def quoteText (text : List Char) : List Char := '\'' :: (doubleQuotes text ++ ['\''])

/-- What a quoted text shows. The first quote behind another character is lost, and a text that does not end
with such a character shows one more. -/
def shownText : (behindOther : Bool) → List Char → List Char
  | true, [] => []
  | false, [] => ['\'']
  | true, c :: rest => if c = '\'' then shownText false rest else c :: shownText true rest
  | false, c :: rest => if c = '\'' then '\'' :: shownText false rest else c :: shownText true rest

def QuotesLast (text : List Char) : Prop :=
  ∃ core behind, text = core ++ List.replicate behind '\'' ∧ '\'' ∉ core

/-- The text has other characters than quotes, and its quotes stand before and behind all of them. -/
def QuotesOutside (text : List Char) : Prop :=
  ∃ before core behind, text = List.replicate before '\'' ++
    (core ++ List.replicate behind '\'') ∧ core ≠ [] ∧
    '\'' ∉ core

section Scanning

variable {c : Char} {text : List Char}

theorem doubleQuotes_other (other : c ≠ '\'') (text : List Char) :
    doubleQuotes (c :: text) = c :: doubleQuotes text := by
  rw [doubleQuotes, List.flatMap_cons, if_neg other]
  rfl

/-- Before a text the scan is outside quotes, or behind other characters inside of them. -/
theorem scans_quoteText (text : List Char) :
    Scans (quoteText text) ((shownText false text).map .literal) none ∧
      ∀ inside, inside ≠ [] → '\'' ∉ inside →
        Scans ('\'' :: (inside ++ (doubleQuotes text ++ ['\''])))
        ((inside ++ shownText true text).map .literal)
          none := by
  induction text with
  | nil =>
      refine ⟨.doubled .done, fun inside nonempty unquoted => ?_⟩
      rw [List.map_append]
      exact .quoted nonempty unquoted .done
  | cons c text ih =>
      obtain ⟨outside, within⟩ := ih
      by_cases quote : c = '\''
      · subst quote
        refine ⟨.doubled outside, fun inside nonempty unquoted => ?_⟩
        rw [List.map_append]
        exact .quoted nonempty unquoted outside
      · refine ⟨?_, fun inside nonempty unquoted => ?_⟩
        · have first := within [c] (List.cons_ne_nil c []) (by simpa using Ne.symm quote)
          rw [quoteText, doubleQuotes_other quote, shownText, if_neg quote]
          exact first
        · have longer := within (inside ++ [c]) (by simp) (by simp [unquoted, Ne.symm quote])
          rw [doubleQuotes_other quote, shownText, if_neg quote]
          simpa using longer

end Scanning

section Quotes

variable {c : Char} {text : List Char}

theorem quotesLast_quote : QuotesLast ('\'' :: text) ↔ ∃ n, text = List.replicate n '\'' := by
  constructor
  · rintro ⟨_ | ⟨d, core⟩, behind, same, unquoted⟩
    · cases behind with
      | zero => cases same
      | succ n => exact ⟨n, (List.cons.inj same).2⟩
    · exact absurd ((List.cons.inj same).1 ▸ List.mem_cons_self) unquoted
  · rintro ⟨n, rfl⟩
    exact ⟨[], n + 1, rfl, List.not_mem_nil⟩

theorem quotesLast_other (other : c ≠ '\'') : QuotesLast (c :: text) ↔ QuotesLast text := by
  constructor
  · rintro ⟨_ | ⟨d, core⟩, behind, same, unquoted⟩
    · cases behind with
      | zero => cases same
      | succ n => exact absurd (List.cons.inj same).1 other
    · exact ⟨core, behind, (List.cons.inj same).2, fun member => unquoted (List.mem_cons_of_mem _ member)⟩
  · rintro ⟨core, behind, rfl, unquoted⟩
    exact ⟨c :: core, behind, rfl, by simp [unquoted, Ne.symm other]⟩

theorem not_quotesOutside_nil : ¬ QuotesOutside [] := by
  rintro ⟨before, core, behind, same, nonempty, -⟩
  simp [nonempty] at same

theorem quotesOutside_quote : QuotesOutside ('\'' :: text) ↔ QuotesOutside text := by
  constructor
  · rintro ⟨_ | before, core, behind, same, nonempty, unquoted⟩
    · obtain ⟨d, core, rfl⟩ := List.exists_cons_of_ne_nil nonempty
      exact absurd ((List.cons.inj same).1 ▸ List.mem_cons_self) unquoted
    · exact ⟨before, core, behind, (List.cons.inj same).2, nonempty, unquoted⟩
  · rintro ⟨before, core, behind, rfl, nonempty, unquoted⟩
    exact ⟨before + 1, core, behind, rfl, nonempty, unquoted⟩

theorem quotesOutside_other (other : c ≠ '\'') : QuotesOutside (c :: text) ↔ QuotesLast text := by
  constructor
  · rintro ⟨_ | before, core, behind, same, nonempty, unquoted⟩
    · obtain ⟨d, core, rfl⟩ := List.exists_cons_of_ne_nil nonempty
      exact ⟨core, behind, (List.cons.inj same).2, fun member => unquoted (List.mem_cons_of_mem _ member)⟩
    · exact absurd (List.cons.inj same).1 other
  · rintro ⟨core, behind, rfl, unquoted⟩
    exact ⟨0, c :: core, behind, rfl, List.cons_ne_nil c core, by simp [unquoted, Ne.symm other]⟩

/-- One quote more is shown of a text of quotes only. -/
theorem shownText_eq_cons_iff : shownText false text = '\'' :: text ↔ ∃ n, text = List.replicate n '\'' := by
  induction text with
  | nil => exact ⟨fun _ => ⟨0, rfl⟩, fun _ => rfl⟩
  | cons c text ih =>
      by_cases quote : c = '\''
      · subst quote
        rw [shownText, if_pos rfl, List.cons_inj_right, ih]
        constructor
        · rintro ⟨n, rfl⟩
          exact ⟨n + 1, rfl⟩
        · rintro ⟨_ | n, same⟩
          · cases same
          · exact ⟨n, (List.cons.inj same).2⟩
      · rw [shownText, if_neg quote]
        refine iff_of_false (fun same => quote (List.cons.inj same).1) ?_
        rintro ⟨_ | n, same⟩
        · cases same
        · exact quote (List.cons.inj same).1

theorem shownText_behind_eq_iff : shownText true text = text ↔ QuotesLast text := by
  induction text with
  | nil => exact ⟨fun _ => ⟨[], 0, rfl, List.not_mem_nil⟩, fun _ => rfl⟩
  | cons c text ih =>
      by_cases quote : c = '\''
      · subst quote
        rw [shownText, if_pos rfl, shownText_eq_cons_iff, quotesLast_quote]
      · rw [shownText, if_neg quote, List.cons_inj_right, ih, quotesLast_other quote]

theorem shownText_eq_iff : shownText false text = text ↔ QuotesOutside text := by
  induction text with
  | nil => exact iff_of_false nofun not_quotesOutside_nil
  | cons c text ih =>
      by_cases quote : c = '\''
      · subst quote
        rw [shownText, if_pos rfl, List.cons_inj_right, ih, quotesOutside_quote]
      · rw [shownText, if_neg quote, List.cons_inj_right, shownText_behind_eq_iff, quotesOutside_other quote]

end Quotes

end CardExpr.Calendar
