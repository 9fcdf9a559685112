import CardExpr.Session.Settle

/-! What the small operations on a session change, one part of the session at a time. -/

namespace CardExpr.Session

variable {ν : Type}

theorem heldCard?_eq_some (s : Session ν) (i : ObserverId) (c : Card ν) :
    s.heldCard? i = some c ↔ s.isHeld i = true ∧ s.card? i = some c := by
  unfold heldCard?
  split
  next held => simp [held]
  next dropped => simp [dropped]

theorem getElem?_modifyCard (s : Session ν) (i j : ObserverId) (f : Card ν → Card ν) :
    (s.modifyCard i f).observers[j]? =
      (s.observers[j]?).map fun slot =>
        if i = j then
          match slot.observer with
          | .card c => { slot with observer := .card (f c) }
          | .watcher _ => slot
        else slot := by
  unfold modifyCard
  rw [List.getElem?_modify]
  rfl

theorem card?_modifyCard (s : Session ν) (i j : ObserverId) (f : Card ν → Card ν) :
    (s.modifyCard i f).card? j = if i = j then (s.card? j).map f else s.card? j := by
  unfold card?
  rw [getElem?_modifyCard]
  by_cases same : i = j
  · rw [if_pos same]
    cases found : s.observers[j]? with
    | none => rfl
    | some slot =>
        obtain ⟨observer, held⟩ := slot
        cases observer <;> simp [same]
  · simp [same]

theorem isHeld_modifyCard (s : Session ν) (i j : ObserverId) (f : Card ν → Card ν) :
    (s.modifyCard i f).isHeld j = s.isHeld j := by
  unfold isHeld
  rw [getElem?_modifyCard]
  cases found : s.observers[j]? with
  | none => rfl
  | some slot =>
      obtain ⟨observer, held⟩ := slot
      by_cases same : i = j
      · cases observer <;> simp [same]
      · simp [same]

theorem card?_dropObserver (s : Session ν) (i j : ObserverId) :
    (s.dropObserver i).card? j = s.card? j := by
  unfold card? dropObserver
  rw [List.getElem?_modify]
  cases found : s.observers[j]? with
  | none => rfl
  | some slot =>
      obtain ⟨observer, held⟩ := slot
      by_cases same : i = j
      · cases observer <;> simp [same]
      · simp [same]

theorem isHeld_of_dropObserver (s : Session ν) (i j : ObserverId)
    (held : (s.dropObserver i).isHeld j = true) : s.isHeld j = true := by
  unfold isHeld dropObserver at held
  rw [List.getElem?_modify] at held
  unfold isHeld
  cases found : s.observers[j]? with
  | none => simp [found] at held
  | some slot =>
      by_cases same : i = j
      · simp [found, same] at held
      · simpa [found, same] using held

theorem card?_addObserver (s : Session ν) (observer : Observer ν) (i : ObserverId) :
    (s.addObserver observer).2.card? i =
      if i = s.observers.length then
        match observer with
        | .card c => some c
        | .watcher _ => none
      else s.card? i := by
  unfold card? addObserver
  rcases Nat.lt_trichotomy i s.observers.length with before | rfl | behind
  · rw [List.getElem?_append_left before, if_neg (Nat.ne_of_lt before)]
  · rw [List.getElem?_concat_length, if_pos rfl]
    cases observer <;> rfl
  · have outside : (s.observers ++ [{ observer := observer }])[i]? = none := by
      apply List.getElem?_eq_none
      rw [List.length_append, List.length_singleton]
      exact behind
    rw [outside, if_neg (Nat.ne_of_gt behind), List.getElem?_eq_none (Nat.le_of_lt behind)]

theorem isHeld_addObserver_of_lt (s : Session ν) (observer : Observer ν) (i : ObserverId)
    (before : i < s.observers.length) : (s.addObserver observer).2.isHeld i = s.isHeld i := by
  unfold isHeld addObserver
  rw [List.getElem?_append_left before]

theorem lt_length_of_card? (s : Session ν) (i : ObserverId) (c : Card ν) (found : s.card? i = some c) :
    i < s.observers.length := by
  unfold card? at found
  by_cases inside : i < s.observers.length
  · exact inside
  · rw [List.getElem?_eq_none (Nat.le_of_not_lt inside)] at found
    cases found

end CardExpr.Session
