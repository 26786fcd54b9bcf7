/-
Places in a text, filled one after the other or at once.

To fill two places one after the other is to search what was put in for the first one. A
place that begins with a letter which it has only once cannot overlap itself, so each of its
occurrences is exchanged, and nothing else. To fill both places at once is to exchange, in
the text where the first place is filled already, those occurrences of the second one that
were there from the start.

So both ways exchange occurrences of one place in one text, and they differ in how many.
This is what `Exchanged` counts. Whoever exchanges as many as there are has exchanged all of
them; and if what is put in differs from the place, to leave one out shows
(`Exchanged.eq_substituteChars_iff`). The last part is not obvious when the two are equally
long: then the letters have to be compared.
-/
import LintGate.Text.Substitution
import Mathlib.Data.List.Basic

set_option autoImplicit false

namespace LintGate.Text

/-! ## Occurrences -/

/-- How often a place occurs in a text. -/
def occurrences (place : List Char) : List Char → Nat
  | [] => 0
  | c :: s => (if place.isPrefixOf (c :: s) then 1 else 0) + occurrences place s

/-- Fills places at once: what was put in is not searched, for any of them. -/
def fillPlaces (places : List (List Char × List Char)) : List Char → List Char
  | [] => []
  | c :: rest =>
    match places.find? fun p => p.1.isPrefixOf (c :: rest) with
    | some (place, text) => text ++ fillPlaces places (rest.drop (place.length - 1))
    | none => c :: fillPlaces places rest
termination_by s => s.length
decreasing_by
  · simp only [List.length_drop, List.length_cons]
    omega
  · simp

/-- **A text is read from the front**: there stands one of some places, or a letter at which none of them
begins. -/
theorem reading_induction (places : List (List Char)) (hplaces : [] ∉ places)
    {motive : List Char → Prop} (nil : motive [])
    (place : ∀ p ∈ places, ∀ s, motive s → motive (p ++ s))
    (letter : ∀ c s, (∀ p ∈ places, p.isPrefixOf (c :: s) = false) → motive s → motive (c :: s))
    (s : List Char) : motive s := by
  induction hlength : s.length using Nat.strongRecOn generalizing s with
  | ind n ih =>
    cases s with
    | nil => exact nil
    | cons c s =>
      by_cases hsome : ∃ p ∈ places, p.isPrefixOf (c :: s) = true
      · obtain ⟨p, hp, hfront⟩ := hsome
        obtain ⟨rest, hrest⟩ := List.isPrefixOf_iff_prefix.mp hfront
        rw [← hrest] at hlength ⊢
        apply place p hp
        apply ih rest.length _ rest rfl
        have hpos : 0 < p.length := List.length_pos_of_ne_nil (fun h => hplaces (h ▸ hp))
        rw [← hlength, List.length_append]
        omega
      · apply letter
        · intro p hp
          rw [← Bool.not_eq_true]
          exact fun hfront => hsome ⟨p, hp, hfront⟩
        · apply ih s.length _ s rfl
          rw [← hlength]
          exact Nat.lt_succ_self _

variable {first c : Char} {others others' text text' s t : List Char} {n : Nat}

theorem isPrefixOf_append (place s : List Char) : place.isPrefixOf (place ++ s) = true :=
  List.isPrefixOf_iff_prefix.mpr (List.prefix_append place s)

/-- A place does not begin at another letter than its first. -/
theorem isPrefixOf_of_ne (h : c ≠ first) (s : List Char) :
    (first :: others).isPrefixOf (c :: s) = false := by
  have hne : (first == c) = false := beq_eq_false_iff_ne.mpr (Ne.symm h)
  rw [List.isPrefixOf, hne, Bool.false_and]

theorem occurrences_cons_of_not (h : (first :: others).isPrefixOf (c :: s) = false) :
    occurrences (first :: others) (c :: s) = occurrences (first :: others) s := by
  simp only [occurrences, h, Bool.false_eq_true, if_false, Nat.zero_add]

/-- A place does not begin inside a text without its first letter. -/
theorem occurrences_append_of_not_mem {front : List Char} (h : first ∉ front) (s : List Char) :
    occurrences (first :: others) (front ++ s) = occurrences (first :: others) s := by
  induction front with
  | nil => rfl
  | cons c front ih =>
    obtain ⟨hc, hfront⟩ := not_or.mp (mt List.mem_cons.mpr h)
    rw [List.cons_append, occurrences_cons_of_not (isPrefixOf_of_ne (Ne.symm hc) _)]
    exact ih hfront

/-- A place in front is one occurrence more. -/
theorem occurrences_place_append (h : first ∉ others) (s : List Char) :
    occurrences (first :: others) (first :: (others ++ s))
      = occurrences (first :: others) s + 1 := by
  have hfront : (first :: others).isPrefixOf (first :: (others ++ s)) = true :=
    isPrefixOf_append (first :: others) s
  rw [occurrences, if_pos hfront, occurrences_append_of_not_mem h, Nat.add_comm]

/-- Where a place begins, it stands in front of the rest. -/
theorem exists_of_isPrefixOf (h : (first :: others).isPrefixOf (c :: s) = true) :
    c = first ∧ ∃ rest, s = others ++ rest := by
  obtain ⟨rest, hrest⟩ := List.isPrefixOf_iff_prefix.mp h
  rw [List.cons_append, List.cons.injEq] at hrest
  exact ⟨hrest.1.symm, rest, hrest.2.symm⟩

/-! ## Filling one place -/

/-- The place in front is filled, and what is put in is not searched. -/
theorem substituteChars_place_append (first : Char) (others text s : List Char) :
    substituteChars first others text (first :: (others ++ s))
      = text ++ substituteChars first others text s := by
  rw [substituteChars, if_pos ⟨rfl, isPrefixOf_append others s⟩, List.drop_left]

theorem substituteChars_cons_of_not (h : (first :: others).isPrefixOf (c :: s) = false) :
    substituteChars first others text (c :: s) = c :: substituteChars first others text s := by
  have hnot : ¬(c = first ∧ others.isPrefixOf s = true) := by
    rintro ⟨rfl, hrest⟩
    rw [List.isPrefixOf, beq_self_eq_true, Bool.true_and, hrest] at h
    cases h
  rw [substituteChars, if_neg hnot]

/-- Nothing is filled inside a text without the first letter of the place. -/
theorem substituteChars_append_of_not_mem {front : List Char} (h : first ∉ front) (s : List Char) :
    substituteChars first others text (front ++ s)
      = front ++ substituteChars first others text s := by
  induction front with
  | nil => rfl
  | cons c front ih =>
    obtain ⟨hc, hfront⟩ := not_or.mp (mt List.mem_cons.mpr h)
    rw [List.cons_append, substituteChars_cons_of_not (isPrefixOf_of_ne (Ne.symm hc) _),
      ih hfront, List.cons_append]

/-! ## Exchanging some occurrences -/

/-- A text in which some occurrences of a place were exchanged, and how many. -/
inductive Exchanged (first : Char) (others text : List Char) : List Char → List Char → Nat → Prop where
  | nil : Exchanged first others text [] [] 0
  | keep {s t : List Char} {n : Nat} (c : Char) (h : Exchanged first others text s t n) :
      Exchanged first others text (c :: s) (c :: t) n
  | put {s t : List Char} {n : Nat} (h : Exchanged first others text s t n) :
      Exchanged first others text (first :: (others ++ s)) (text ++ t) (n + 1)

namespace Exchanged

/-- A text in front in which nothing is exchanged. -/
theorem append (h : Exchanged first others text s t n) (front : List Char) :
    Exchanged first others text (front ++ s) (front ++ t) n := by
  induction front with
  | nil => exact h
  | cons c front ih => exact .keep c ih

/-- Nothing is exchanged inside a text without the first letter of the place. -/
theorem of_append {front : List Char} (hfront : first ∉ front)
    (h : Exchanged first others text (front ++ s) t n) :
    ∃ t', t = front ++ t' ∧ Exchanged first others text s t' n := by
  induction front generalizing t with
  | nil => exact ⟨t, rfl, h⟩
  | cons c front ih =>
    obtain ⟨hc, hrest⟩ := not_or.mp (mt List.mem_cons.mpr hfront)
    rw [List.cons_append] at h
    generalize hwhole : front ++ s = whole at h
    cases h with
    | keep _ h =>
      rw [← hwhole] at h
      obtain ⟨t', rfl, h'⟩ := ih hrest h
      exact ⟨t', rfl, h'⟩
    | put h => exact absurd rfl hc

/-- Filling a place exchanges each of its occurrences. -/
theorem substituteChars (hfirst : first ∉ others) (s : List Char) :
    Exchanged first others text s (substituteChars first others text s)
      (occurrences (first :: others) s) := by
  induction s using reading_induction [first :: others] (by simp) with
  | nil =>
    rw [Text.substituteChars]
    exact .nil
  | place p hp s ih =>
    rw [List.mem_singleton.mp hp, List.cons_append, substituteChars_place_append,
      occurrences_place_append hfirst]
    exact .put ih
  | letter c s hnot ih =>
    have hletter := hnot _ (List.mem_singleton_self _)
    rw [substituteChars_cons_of_not hletter, occurrences_cons_of_not hletter]
    exact .keep c ih

theorem le (hfirst : first ∉ others) (h : Exchanged first others text s t n) :
    n ≤ occurrences (first :: others) s := by
  induction h with
  | nil => exact Nat.le_refl 0
  | keep c h ih =>
    unfold occurrences
    exact Nat.le_trans ih (Nat.le_add_left _ _)
  | put h ih =>
    rw [occurrences_place_append hfirst]
    exact Nat.succ_le_succ ih

/-- Whoever exchanges as many occurrences as there are exchanges all of them. -/
theorem eq_substituteChars (hfirst : first ∉ others) (h : Exchanged first others text s t n)
    (hall : n = occurrences (first :: others) s) : t = Text.substituteChars first others text s := by
  induction h with
  | nil => rw [Text.substituteChars]
  | @keep s t n c h ih =>
    have hle := h.le hfirst
    by_cases hplace : (first :: others).isPrefixOf (c :: s) = true
    · -- one was left out here
      rw [occurrences, if_pos hplace] at hall
      omega
    · rw [Bool.not_eq_true] at hplace
      rw [occurrences_cons_of_not hplace] at hall
      rw [substituteChars_cons_of_not hplace, ih hall]
  | put h ih =>
    rw [occurrences_place_append hfirst] at hall
    rw [substituteChars_place_append, ih (Nat.succ.inj hall)]

/-- Each exchange takes the letters of the place and gives those of the text. -/
theorem length_eq (h : Exchanged first others text s t n) :
    t.length + n * (others.length + 1) = s.length + n * text.length := by
  induction h with
  | nil => simp
  | keep c h ih =>
    rw [List.length_cons, List.length_cons]
    omega
  | put h ih =>
    rw [List.length_append, List.length_cons, List.length_append, Nat.succ_mul, Nat.succ_mul]
    omega

/-- Of a text as long as the place an occurrence that is left out shows. -/
theorem eq_occurrences_of_length_eq (hfirst : first ∉ others) (hne : text ≠ first :: others)
    (hlength : text.length = (first :: others).length) (h : Exchanged first others text s t n)
    (ht : t = Text.substituteChars first others text s) :
    n = occurrences (first :: others) s := by
  induction h with
  | nil => rfl
  | @keep s t n c h ih =>
    by_cases hplace : (first :: others).isPrefixOf (c :: s) = true
    · obtain ⟨rfl, rest, rfl⟩ := exists_of_isPrefixOf hplace
      -- the place was kept on one side and filled on the other
      obtain ⟨t', rfl, -⟩ := h.of_append hfirst
      rw [substituteChars_place_append, ← List.cons_append] at ht
      exact absurd (List.append_inj_left ht hlength.symm).symm hne
    · rw [Bool.not_eq_true] at hplace
      rw [substituteChars_cons_of_not hplace, List.cons.injEq] at ht
      rw [occurrences_cons_of_not hplace]
      exact ih ht.2
  | put h ih =>
    rw [substituteChars_place_append] at ht
    rw [occurrences_place_append hfirst, ih (List.append_cancel_left ht)]

/-- To put a place in for itself is to change nothing. -/
theorem eq_self (h : Exchanged first others (first :: others) s t n) : t = s := by
  induction h with
  | nil => rfl
  | keep c h ih => rw [ih]
  | put h ih => rw [ih, List.cons_append]

/-- **Some occurrences make the same as all exactly if they are all**, or if the place is put in for
itself. -/
theorem eq_substituteChars_iff (hfirst : first ∉ others) (h : Exchanged first others text s t n) :
    t = Text.substituteChars first others text s ↔
      text = first :: others ∨ n = occurrences (first :: others) s := by
  constructor
  · intro ht
    by_cases hsame : text = first :: others
    · exact .inl hsame
    by_cases hlength : text.length = (first :: others).length
    · exact .inr (h.eq_occurrences_of_length_eq hfirst hsame hlength ht)
    -- what is longer or shorter than the place is counted by the letters
    have hle := h.le hfirst
    have hsome := h.length_eq
    have hfilled : Exchanged first others text s (Text.substituteChars first others text s)
        (occurrences (first :: others) s) := Exchanged.substituteChars hfirst s
    have hall := hfilled.length_eq
    rw [← ht] at hall
    rw [List.length_cons] at hlength
    right
    obtain ⟨left, hleft⟩ := Nat.exists_eq_add_of_le hle
    rw [hleft, Nat.add_mul, Nat.add_mul] at hall
    have hmul : left * (others.length + 1) = left * text.length := by omega
    rcases Nat.eq_zero_or_pos left with rfl | hpos
    · exact hleft.symm
    · exact absurd (Nat.eq_of_mul_eq_mul_left hpos hmul).symm hlength
  · rintro (rfl | hall)
    · rw [h.eq_self, (Exchanged.substituteChars hfirst s).eq_self]
    · exact h.eq_substituteChars hfirst hall

end Exchanged

/-! ## Filling two places -/

theorem fillPlaces_nil (places : List (List Char × List Char)) : fillPlaces places [] = [] := by
  rw [fillPlaces]

/-- The place in front is filled, if it is the first of the places that stands there. -/
theorem fillPlaces_of_find {places : List (List Char × List Char)}
    (h : places.find? (fun p => p.1.isPrefixOf (first :: (others ++ s)))
      = some (first :: others, text)) :
    fillPlaces places (first :: (others ++ s)) = text ++ fillPlaces places s := by
  rw [fillPlaces, h]
  simp only [List.length_cons, Nat.add_sub_cancel, List.drop_left]

theorem fillPlaces_of_not (places : List (List Char × List Char))
    (h : ∀ p ∈ places.map (·.1), p.isPrefixOf (c :: s) = false) :
    fillPlaces places (c :: s) = c :: fillPlaces places s := by
  have hnone : places.find? (fun p => p.1.isPrefixOf (c :: s)) = none := by
    rw [List.find?_eq_none]
    intro p hp
    rw [h p.1 (List.mem_map.mpr ⟨p, hp, rfl⟩)]
    exact Bool.false_ne_true
  rw [fillPlaces, hnone]

/-- To fill one place at once is to fill it. -/
theorem fillPlaces_singleton (first : Char) (others text s : List Char) :
    fillPlaces [(first :: others, text)] s = substituteChars first others text s := by
  induction s using reading_induction [first :: others] (by simp) with
  | nil => rw [fillPlaces_nil, substituteChars]
  | place p hp s ih =>
    rw [List.mem_singleton.mp hp, List.cons_append, substituteChars_place_append, ← ih]
    apply fillPlaces_of_find
    exact List.find?_cons_of_pos (isPrefixOf_append (first :: others) s)
  | letter c s hnot ih =>
    rw [substituteChars_cons_of_not (hnot _ (List.mem_singleton_self _)),
      fillPlaces_of_not [(first :: others, text)] hnot, ih]

/-- **Filling two places at once exchanges what there was of the second one.** The text is the one in
which the first place is filled, and as many occurrences are exchanged as there were before that. -/
theorem exchanged_fillPlaces (hothers : first ∉ others) (hothers' : first ∉ others')
    (hapart : ∀ s, (first :: others).isPrefixOf (first :: (others' ++ s)) = false)
    (hapart' : ∀ s, (first :: others').isPrefixOf (first :: (others ++ s)) = false)
    (text text' s : List Char) :
    Exchanged first others' text' (substituteChars first others text s)
      (fillPlaces [(first :: others, text), (first :: others', text')] s)
      (occurrences (first :: others') s) := by
  induction s using reading_induction [first :: others, first :: others'] (by simp) with
  | nil =>
    rw [substituteChars, fillPlaces_nil]
    exact .nil
  | place p hp s ih =>
    rcases List.mem_cons.mp hp with rfl | hp
    · -- the first place: what is put in for it is kept
      rw [List.cons_append, substituteChars_place_append, fillPlaces_of_find,
        occurrences_cons_of_not (hapart' s), occurrences_append_of_not_mem hothers]
      · exact ih.append text
      · exact List.find?_cons_of_pos (isPrefixOf_append (first :: others) s)
    · -- the second place, which the filling of the first one leaves as it is
      rw [List.mem_singleton.mp hp, List.cons_append, substituteChars_cons_of_not (hapart s),
        substituteChars_append_of_not_mem hothers', fillPlaces_of_find,
        occurrences_place_append hothers']
      · exact .put ih
      · have hsecond : (first :: others').isPrefixOf (first :: (others' ++ s)) = true :=
          isPrefixOf_append (first :: others') s
        simp only [List.find?, hapart s, hsecond]
  | letter c s hnot ih =>
    have hletter := hnot (first :: others) List.mem_cons_self
    have hletter' := hnot (first :: others') (List.mem_cons_of_mem _ List.mem_cons_self)
    rw [substituteChars_cons_of_not hletter, occurrences_cons_of_not hletter',
      fillPlaces_of_not [(first :: others, text), (first :: others', text')] hnot]
    exact .keep c ih

end LintGate.Text
