/-
Pieces between line feeds, and lines.

Two notions of a line meet in the gate. The difference of two texts works on lines that
end at a line feed, at a carriage return with a line feed, or at a carriage return alone;
the scan for defects works on the pieces between line feeds. This file relates them.

A piece that stands behind the last line feed is a line only if it holds something, so
the lines of a text between its feeds are `feedLines`. Where every carriage return is
followed by a line feed, these are the lines of the finer notion without their feeds.
Where one stands alone they are not: it ends a line and leaves the piece open.
-/
import LintGate.Text.Lines

set_option autoImplicit false

namespace LintGate.Text

/-! ## Letters of numbers -/

theorem isDigit_of_mem_toString {n : Nat} {c : Char} (h : c ∈ (toString n).toList) :
    c.isDigit = true := by
  have hrepr : (toString n).toList = Nat.toDigits 10 n := Nat.toList_repr
  rw [hrepr] at h
  exact Nat.isDigit_of_mem_toDigits (by decide) (by decide) h

theorem toString_inj {m n : Nat} (h : (toString m).toList = (toString n).toList) : m = n := by
  have hdigits : ∀ n : Nat, (toString n).toList = Nat.toDigits 10 n := fun _ => Nat.toList_repr
  rw [hdigits, hdigits] at h
  have hvalue := congrArg (Nat.ofDigitChars 10 · 0) h
  simpa only [Nat.ofDigitChars_ten_toDigits] using hvalue

/-! ## Pieces of texts put together -/

@[simp] theorem splitFeeds_nil : splitFeeds [] = [[]] := rfl

@[simp] theorem splitFeeds_cons_feed (s : List Char) :
    splitFeeds ('\n' :: s) = [] :: splitFeeds s := by
  rw [splitFeeds, if_pos rfl]

/-- A text in front of the pieces of what follows: it lengthens the first of them. -/
def glue (front : List Char) : List (List Char) → List (List Char)
  | [] => [front]
  | piece :: pieces => (front ++ piece) :: pieces

theorem splitFeeds_cons {c : Char} (hc : c ≠ '\n') (s : List Char) :
    splitFeeds (c :: s) = glue [c] (splitFeeds s) := by
  rw [splitFeeds, if_neg hc]
  cases splitFeeds s <;> rfl

/-- A text without a feed lengthens the first piece of what follows. -/
theorem splitFeeds_append {front : List Char} (hfront : '\n' ∉ front) (s : List Char) :
    splitFeeds (front ++ s) = glue front (splitFeeds s) := by
  induction front with
  | nil =>
    obtain ⟨piece, pieces, h⟩ := List.exists_cons_of_ne_nil (splitFeeds_ne_nil s)
    rw [List.nil_append, h]
    rfl
  | cons c front ih =>
    obtain ⟨hc, hrest⟩ := not_or.mp (mt List.mem_cons.mpr hfront)
    rw [List.cons_append, splitFeeds_cons (Ne.symm hc), ih hrest]
    cases splitFeeds s <;> rfl

theorem splitFeeds_of_not_mem {s : List Char} (h : '\n' ∉ s) : splitFeeds s = [s] := by
  have happend := splitFeeds_append h []
  rw [List.append_nil, splitFeeds_nil] at happend
  rw [happend, glue, List.append_nil]

/-- A feed keeps what is in front of it and what is behind it apart. -/
theorem splitFeeds_feed (s t : List Char) :
    splitFeeds (s ++ '\n' :: t) = splitFeeds s ++ splitFeeds t := by
  induction s with
  | nil => exact splitFeeds_cons_feed t
  | cons c s ih =>
    by_cases hc : c = '\n'
    · rw [hc, List.cons_append, splitFeeds_cons_feed, splitFeeds_cons_feed, ih, List.cons_append]
    · obtain ⟨piece, pieces, h⟩ := List.exists_cons_of_ne_nil (splitFeeds_ne_nil s)
      rw [List.cons_append, splitFeeds_cons hc, splitFeeds_cons hc, ih, h]
      rfl

/-! ## Lines between feeds -/

/-- Pieces without the last one if it is empty. -/
def withoutOpenEnd : List (List Char) → List (List Char)
  | [] => []
  | [last] => if last.isEmpty then [] else [last]
  | piece :: pieces => piece :: withoutOpenEnd pieces

/-- The lines of a text between its feeds: what stands behind the last feed is one if it holds
something. -/
def feedLines (s : List Char) : List (List Char) := withoutOpenEnd (splitFeeds s)

theorem withoutOpenEnd_cons (piece : List Char) {pieces : List (List Char)} (h : pieces ≠ []) :
    withoutOpenEnd (piece :: pieces) = piece :: withoutOpenEnd pieces := by
  cases pieces with
  | nil => exact absurd rfl h
  | cons p ps => rfl

/-- A line that holds something is counted alike among the pieces. -/
theorem count_feedLines {l : List Char} (hl : l ≠ []) (s : List Char) :
    (feedLines s).count l = (splitFeeds s).count l := by
  rw [feedLines]
  fun_induction withoutOpenEnd (splitFeeds s) with
  | case1 => rfl
  | case2 last hlast =>
    have hne : last ≠ l := by
      rw [List.isEmpty_iff.mp hlast]
      exact Ne.symm hl
    rw [List.count_nil, List.count_cons_of_ne hne, List.count_nil]
  | case3 last => rfl
  | case4 piece pieces h ih => rw [List.count_cons, List.count_cons, ih]

theorem feedLines_feed (s : List Char) : feedLines ('\n' :: s) = [] :: feedLines s := by
  rw [feedLines, splitFeeds_cons_feed, withoutOpenEnd_cons _ (splitFeeds_ne_nil s)]
  rfl

theorem feedLines_cons {c : Char} (hc : c ≠ '\n') (s : List Char) :
    feedLines (c :: s) = glue [c] (feedLines s) := by
  rw [feedLines, feedLines, splitFeeds_cons hc]
  obtain ⟨piece, pieces, h⟩ := List.exists_cons_of_ne_nil (splitFeeds_ne_nil s)
  rw [h]
  cases pieces with
  | nil =>
    rw [glue, withoutOpenEnd, withoutOpenEnd]
    cases piece <;> rfl
  | cons p ps =>
    rw [glue, withoutOpenEnd_cons _ (List.cons_ne_nil _ _),
      withoutOpenEnd_cons _ (List.cons_ne_nil _ _)]
    rfl

/-! ## Lines with their terminators -/

/-- Whether a line ends at a carriage return alone. A line that ends at both ends at the feed. -/
def EndsInReturn (line : List Char) : Prop := line.getLast? = some '\r'

instance (line : List Char) : Decidable (EndsInReturn line) :=
  inferInstanceAs (Decidable (line.getLast? = some '\r'))

/-- Every carriage return of a text is followed by a line feed. -/
def ReturnsPaired (s : List Char) : Prop :=
  ∀ front back, s = front ++ '\r' :: back → back.head? = some '\n'

theorem ReturnsPaired.of_append (front : List Char) {back : List Char}
    (h : ReturnsPaired (front ++ back)) : ReturnsPaired back := by
  intro f b hb
  refine h (front ++ f) b ?_
  rw [hb, List.append_assoc]

theorem returnsPaired_cons {c : Char} {s : List Char} :
    ReturnsPaired (c :: s) ↔ (c = '\r' → s.head? = some '\n') ∧ ReturnsPaired s := by
  constructor
  · intro h
    refine ⟨?_, ReturnsPaired.of_append [c] h⟩
    rintro rfl
    exact h [] s rfl
  · rintro ⟨hfirst, hrest⟩ front back heq
    cases front with
    | nil =>
      obtain ⟨rfl, rfl⟩ := List.cons.inj heq
      exact hfirst rfl
    | cons d front => exact hrest front back (List.cons.inj heq).2

instance ReturnsPaired.decidable : (s : List Char) → Decidable (ReturnsPaired s)
  | [] => isTrue fun front _ h => by cases front <;> cases h
  | _ :: s =>
    have := ReturnsPaired.decidable s
    decidable_of_iff _ returnsPaired_cons.symm

/-- A line without its feed. -/
def withoutFeed (line : List Char) : List Char :=
  if line.getLast? = some '\n' then line.dropLast else line

theorem withoutFeed_fed (body : List Char) : withoutFeed (body ++ ['\n']) = body := by
  rw [withoutFeed, List.getLast?_concat, if_pos rfl, List.dropLast_concat]

theorem withoutFeed_of_not_mem {line : List Char} (h : '\n' ∉ line) : withoutFeed line = line :=
  if_neg fun hlast => h (List.mem_of_getLast? hlast)

theorem not_endsInReturn_fed (body : List Char) : ¬EndsInReturn (body ++ ['\n']) := by
  rw [EndsInReturn, List.getLast?_concat]
  decide

theorem EndsInReturn.isTerminated {line : List Char} (h : EndsInReturn line) :
    isTerminated (String.ofList line) = true := by
  rw [EndsInReturn] at h
  simp [Text.isTerminated, isBreak, h]

theorem isTerminated_fed (body : List Char) :
    isTerminated (String.ofList (body ++ ['\n'])) = true := by
  simp [isTerminated, isBreak]

/-- A line holds a feed at most at its end. -/
theorem feed_not_mem_dropLast {s line : List Char} (h : line ∈ cutLines s) :
    '\n' ∉ line.dropLast := by
  fun_induction cutLines s generalizing line with
  | case1 => cases h
  | case2 rest ih =>
    rcases List.mem_cons.mp h with rfl | h
    · decide
    · exact ih h
  | case3 c rest hcr hbreak ih =>
    rcases List.mem_cons.mp h with rfl | h
    · exact List.not_mem_nil
    · exact ih h
  | case4 c rest hcr hbreak hnil ih =>
    rw [List.mem_singleton.mp h]
    exact List.not_mem_nil
  | case5 c rest hcr hbreak first lines hlines ih =>
    rw [hlines] at ih
    rcases List.mem_cons.mp h with rfl | h
    · have hne : first ≠ [] := ne_nil_of_mem_cutLines (hlines ▸ List.mem_cons_self)
      rw [List.dropLast_cons_of_ne_nil hne, List.mem_cons, not_or]
      refine ⟨?_, ih List.mem_cons_self⟩
      rintro rfl
      exact hbreak rfl
    · exact ih (List.mem_cons_of_mem _ h)

/-- The three ends of a line: a feed, a carriage return alone, and no terminator. -/
theorem line_cases {line : List Char} (h : '\n' ∉ line.dropLast) :
    (∃ body, line = body ++ ['\n'] ∧ '\n' ∉ body) ∨ (EndsInReturn line ∧ '\n' ∉ line) ∨
      (isTerminated (String.ofList line) = false ∧ '\n' ∉ line) := by
  rcases List.eq_nil_or_concat line with rfl | ⟨body, c, rfl⟩
  · exact .inr (.inr ⟨rfl, List.not_mem_nil⟩)
  · rw [List.concat_eq_append] at h ⊢
    rw [List.dropLast_concat] at h
    by_cases hfeed : c = '\n'
    · exact .inl ⟨body, by rw [hfeed], h⟩
    have hnot : '\n' ∉ body ++ [c] := by
      rw [List.mem_append, List.mem_singleton, not_or]
      exact ⟨h, Ne.symm hfeed⟩
    by_cases hreturn : c = '\r'
    · refine .inr (.inl ⟨?_, hnot⟩)
      rw [EndsInReturn, List.getLast?_concat, hreturn]
    · refine .inr (.inr ⟨?_, hnot⟩)
      simp [isTerminated, isBreak, hfeed, hreturn]

/-- Where every carriage return is followed by a feed, no line ends at one alone. -/
theorem ReturnsPaired.not_endsInReturn {s line : List Char} (hs : ReturnsPaired s)
    (h : line ∈ cutLines s) : ¬EndsInReturn line := by
  fun_induction cutLines s generalizing line with
  | case1 => cases h
  | case2 rest ih =>
    rcases List.mem_cons.mp h with rfl | h
    · intro hreturn
      cases hreturn
    · exact ih (ReturnsPaired.of_append ['\r', '\n'] hs) h
  | case3 c rest hcr hbreak ih =>
    rcases List.mem_cons.mp h with rfl | h
    · intro hreturn
      obtain rfl : c = '\r' := Option.some.inj hreturn
      obtain ⟨rest', rfl⟩ := List.head?_eq_some_iff.mp (hs [] rest rfl)
      exact hcr rest' rfl rfl
    · exact ih (ReturnsPaired.of_append [c] hs) h
  | case4 c rest hcr hbreak hnil ih =>
    rw [List.mem_singleton.mp h]
    intro hreturn
    obtain rfl : c = '\r' := Option.some.inj hreturn
    exact hbreak rfl
  | case5 c rest hcr hbreak first lines hlines ih =>
    have hrest : ReturnsPaired rest := ReturnsPaired.of_append [c] hs
    rw [hlines] at ih
    rcases List.mem_cons.mp h with rfl | h
    · have hne : first ≠ [] := ne_nil_of_mem_cutLines (hlines ▸ List.mem_cons_self)
      obtain ⟨d, first, rfl⟩ := List.exists_cons_of_ne_nil hne
      rw [EndsInReturn, List.getLast?_cons_cons]
      exact ih hrest List.mem_cons_self
    · exact ih hrest (List.mem_cons_of_mem _ h)

/-- **Where no line ends at a carriage return alone, both notions of a line agree**: the lines
between feeds are the lines with their terminators, each without its feed. -/
theorem feedLines_eq_map {s : List Char} (hs : ∀ line ∈ cutLines s, ¬EndsInReturn line) :
    feedLines s = (cutLines s).map withoutFeed := by
  fun_induction cutLines s with
  | case1 => rfl
  | case2 rest ih =>
    -- the line of a carriage return and a feed
    have hrest := ih fun line h => hs line (List.mem_cons_of_mem _ h)
    rw [feedLines_cons (by decide), feedLines_feed, hrest, List.map_cons]
    rfl
  | case3 c rest hcr hbreak ih =>
    -- a terminator alone, which is a feed
    have hrest := ih fun line h => hs line (List.mem_cons_of_mem _ h)
    have hc : c = '\n' := by
      rw [isBreak, Bool.or_eq_true, beq_iff_eq, beq_iff_eq] at hbreak
      refine hbreak.resolve_right ?_
      rintro rfl
      exact hs _ List.mem_cons_self rfl
    rw [hc, feedLines_feed, hrest, List.map_cons]
    rfl
  | case4 c rest hcr hbreak hnil ih =>
    have hc : c ≠ '\n' := by
      rintro rfl
      exact hbreak rfl
    -- the last letter of a text without a terminator
    have hempty : rest = [] := by
      have hflat := flatten_cutLines rest
      rw [hnil] at hflat
      exact hflat.symm
    have hline : withoutFeed [c] = [c] := if_neg fun h => hc (Option.some.inj h)
    rw [hempty, feedLines_cons hc, List.map_singleton, hline]
    rfl
  | case5 c rest hcr hbreak first lines hlines ih =>
    have hc : c ≠ '\n' := by
      rintro rfl
      exact hbreak rfl
    have hne : first ≠ [] := ne_nil_of_mem_cutLines (hlines ▸ List.mem_cons_self)
    obtain ⟨d, first, rfl⟩ := List.exists_cons_of_ne_nil hne
    -- a letter in front of the first line of the rest
    rw [hlines] at ih
    have hlast : ∀ line ∈ (d :: first) :: lines, ¬EndsInReturn line := by
      intro line h
      rcases List.mem_cons.mp h with rfl | h
      · have hfirst := hs _ List.mem_cons_self
        rwa [EndsInReturn, List.getLast?_cons_cons] at hfirst
      · exact hs line (List.mem_cons_of_mem _ h)
    have hline : withoutFeed (c :: d :: first) = c :: withoutFeed (d :: first) := by
      rw [withoutFeed, withoutFeed, List.getLast?_cons_cons]
      split <;> rfl
    rw [feedLines_cons hc, ih hlast, List.map_cons, List.map_cons, hline]
    rfl

end LintGate.Text
