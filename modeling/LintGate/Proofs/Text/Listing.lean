/-
A listing as it is read back.

A tool prints a row for each of some things, each with a line feed behind it, and the
reader has only the text. It takes the blank space away at both ends of the whole text,
cuts what is left into lines, and takes a carriage return away at the end of each line
that is not the last. So a row comes back as it was printed, unless it ends in blank
space: the last row loses all of it, and every other row one return (`shownPieces_listing`).
Rows without blank space come back as they are.
-/
import LintGate.Proofs.Text.Feeds
import LintGate.Text.Blank
import Mathlib.Data.List.DropRight

set_option autoImplicit false

namespace LintGate.Text

open Unicode (isWhiteSpace)

/-! ## Blank space at the end -/

/-- A text without the blank space at its end. -/
def trimEnd (s : List Char) : List Char := s.rdropWhile isWhiteSpace

theorem strip_eq (s : List Char) : strip isWhiteSpace s = trimEnd (s.dropWhile isWhiteSpace) := rfl

/-- Where no blank space is in front, only the end is touched. -/
theorem strip_cons {c : Char} (hc : isWhiteSpace c = false) (s : List Char) :
    strip isWhiteSpace (c :: s) = trimEnd (c :: s) := by
  rw [strip_eq, List.dropWhile_cons_of_neg (by rw [hc]; exact Bool.false_ne_true)]

theorem trimEnd_concat_blank {c : Char} (hc : isWhiteSpace c = true) (s : List Char) :
    trimEnd (s ++ [c]) = trimEnd s :=
  List.rdropWhile_concat_pos _ _ _ hc

theorem trimEnd_concat {c : Char} (hc : isWhiteSpace c = false) (s : List Char) :
    trimEnd (s ++ [c]) = s ++ [c] :=
  List.rdropWhile_concat_neg _ _ _ (by rw [hc]; exact Bool.false_ne_true)

/-- Where something is left of the back, the front is not reached. -/
theorem trimEnd_append (front : List Char) {back : List Char} (h : trimEnd back ≠ []) :
    trimEnd (front ++ back) = front ++ trimEnd back := by
  induction back using List.reverseRecOn with
  | nil => exact absurd rfl h
  | append_singleton back c ih =>
    rw [← List.append_assoc]
    cases hc : isWhiteSpace c with
    | true =>
      rw [trimEnd_concat_blank hc] at h
      rw [trimEnd_concat_blank hc, trimEnd_concat_blank hc, ih h]
    | false => rw [trimEnd_concat hc, trimEnd_concat hc, List.append_assoc]

theorem trimEnd_cons_ne_nil {c : Char} (hc : isWhiteSpace c = false) (s : List Char) :
    trimEnd (c :: s) ≠ [] := by
  intro h
  have hall := List.rdropWhile_eq_nil_iff.mp h c List.mem_cons_self
  rw [hc] at hall
  cases hall

/-- What is taken away at the end is blank. -/
theorem exists_trimEnd (s : List Char) :
    ∃ tail, s = trimEnd s ++ tail ∧ ∀ c ∈ tail, isWhiteSpace c = true :=
  ⟨s.rtakeWhile isWhiteSpace, List.rdropWhile_append_rtakeWhile.symm,
    fun _ hc => List.mem_rtakeWhile_imp hc⟩

/-- Blank space at the end is taken away whatever is in front of it. -/
theorem trimEnd_append_blank (s : List Char) {tail : List Char}
    (htail : ∀ c ∈ tail, isWhiteSpace c = true) : trimEnd (s ++ tail) = trimEnd s := by
  induction tail using List.reverseRecOn with
  | nil => rw [List.append_nil]
  | append_singleton tail c ih =>
    have hc : isWhiteSpace c = true := htail c (List.mem_append_right _ (List.mem_singleton_self c))
    rw [← List.append_assoc, trimEnd_concat_blank hc]
    exact ih fun d hd => htail d (List.mem_append_left _ hd)

/-! ## A return at the end -/

theorem withoutReturn_concat_return (s : List Char) : withoutReturn (s ++ ['\r']) = s := by
  rw [withoutReturn, List.getLast?_concat, if_pos rfl, List.dropLast_concat]

theorem withoutReturn_concat {c : Char} (hc : c ≠ '\r') (s : List Char) :
    withoutReturn (s ++ [c]) = s ++ [c] := by
  rw [withoutReturn, List.getLast?_concat, if_neg]
  exact fun h => hc (Option.some.inj h)

/-- Behind a character that is no return, the rest is read for itself. -/
theorem withoutReturn_append_cons {c : Char} (hc : c ≠ '\r') (front s : List Char) :
    withoutReturn (front ++ c :: s) = front ++ c :: withoutReturn s := by
  rcases List.eq_nil_or_concat s with rfl | ⟨body, d, rfl⟩
  · exact withoutReturn_concat hc front
  rw [List.concat_eq_append, ← List.cons_append, ← List.append_assoc]
  by_cases hd : d = '\r'
  · rw [hd, withoutReturn_concat_return, withoutReturn_concat_return]
  · rw [withoutReturn_concat hd, withoutReturn_concat hd, List.append_assoc, List.cons_append]

/-! ## Rows -/

/-- A row as it is read: the last one without the blank space at its end, every other one without a
return there. -/
def readRow (last : Bool) (row : List Char) : List Char :=
  if last then trimEnd row else withoutReturn row

/-- The rows of a listing as they are read. -/
def readRows : List (List Char) → List (List Char)
  | [] => []
  | row :: rest => readRow rest.isEmpty row :: readRows rest

/-- The text of a listing: each row with a line feed behind it. -/
def listing (rows : List (List Char)) : List Char := rows.flatMap (· ++ ['\n'])

/-- A row as tools print them: it is one line, and it does not begin with blank space. -/
structure IsRow (row : List Char) : Prop where
  oneLine : '\n' ∉ row
  begins : ∃ c rest, row = c :: rest ∧ isWhiteSpace c = false

theorem listing_cons (row : List Char) (rest : List (List Char)) :
    listing (row :: rest) = row ++ '\n' :: listing rest := by
  rw [listing, List.flatMap_cons, List.append_assoc]
  rfl

/-- A listing with rows does not begin with blank space. -/
theorem exists_listing_cons {row : List Char} (hrow : IsRow row) (rest : List (List Char)) :
    ∃ c s, listing (row :: rest) = c :: s ∧ isWhiteSpace c = false := by
  obtain ⟨c, s, rfl, hc⟩ := hrow.begins
  exact ⟨c, _, listing_cons _ _, hc⟩

theorem shownPieces_cons (line : List Char) {pieces : List (List Char)} (h : pieces ≠ []) :
    shownPieces (line :: pieces) = withoutReturn line :: shownPieces pieces := by
  cases pieces with
  | nil => exact absurd rfl h
  | cons p ps => rfl

/-- The rows come back from a listing whose end was trimmed. -/
theorem shownPieces_trimEnd {rows : List (List Char)} (hrows : ∀ row ∈ rows, IsRow row) :
    shownPieces (splitFeeds (trimEnd (listing rows))) = readRows rows := by
  induction rows with
  | nil => rfl
  | cons row rest ih =>
    obtain ⟨hrow, hrest⟩ := List.forall_mem_cons.mp hrows
    cases rest with
    | nil =>
      -- the last row: its feed is blank space too
      obtain ⟨c, s, hcons, hc⟩ := hrow.begins
      have hne : trimEnd row ≠ [] := hcons ▸ trimEnd_cons_ne_nil hc s
      have hline : '\n' ∉ trimEnd row := by
        obtain ⟨tail, htail, -⟩ := exists_trimEnd row
        have hrow := hrow.oneLine
        rw [htail] at hrow
        exact fun h => hrow (List.mem_append_left _ h)
      rw [listing_cons, show listing [] = [] from rfl, trimEnd_concat_blank (by decide),
        splitFeeds_of_not_mem hline]
      simp only [shownPieces, List.isEmpty_iff, if_neg hne, readRows, readRow, List.isEmpty_nil,
        if_true]
    | cons next others =>
      have hleft : trimEnd ('\n' :: listing (next :: others))
          = '\n' :: trimEnd (listing (next :: others)) := by
        obtain ⟨c, s, hcons, hc⟩ := exists_listing_cons (hrest next List.mem_cons_self) others
        have hne : trimEnd (listing (next :: others)) ≠ [] := hcons ▸ trimEnd_cons_ne_nil hc s
        exact trimEnd_append ['\n'] hne
      rw [listing_cons, trimEnd_append row (by rw [hleft]; exact List.cons_ne_nil _ _), hleft,
        splitFeeds_feed, splitFeeds_of_not_mem hrow.oneLine, List.singleton_append,
        shownPieces_cons _ (splitFeeds_ne_nil _), ih hrest]
      rfl

/-- **The rows of a listing are read back**, each up to the blank space at its end. -/
theorem shownLines_trim {text : String} {rows : List (List Char)}
    (htext : text.toList = listing rows) (hrows : ∀ row ∈ rows, IsRow row) :
    shownLines (trim text) = (readRows rows).map String.ofList := by
  have hstrip : strip isWhiteSpace (listing rows) = trimEnd (listing rows) := by
    cases rows with
    | nil => rfl
    | cons row rest =>
      obtain ⟨c, s, hcons, hc⟩ := exists_listing_cons (hrows row List.mem_cons_self) rest
      rw [hcons, strip_cons hc]
  rw [shownLines, trim, String.toList_ofList, htext, hstrip, shownPieces_trimEnd hrows]

/-! ## What reading takes away -/

/-- What is taken away at the end of a row: blank space if the row is the last, and at most one return
if it is not. -/
def Lost (last : Bool) (tail : List Char) : Prop :=
  if last then ∀ c ∈ tail, isWhiteSpace c = true else tail = [] ∨ tail = ['\r']

theorem lost_nil (last : Bool) : Lost last [] := by
  cases last with
  | true => exact fun _ h => absurd h List.not_mem_nil
  | false => exact .inl rfl

/-- A text that ends in a character other than blank space. -/
def EndsSolid (s : List Char) : Prop := ∃ front c, s = front ++ [c] ∧ isWhiteSpace c = false

theorem EndsSolid.append (front : List Char) {s : List Char} (h : EndsSolid s) :
    EndsSolid (front ++ s) := by
  obtain ⟨body, c, rfl, hc⟩ := h
  exact ⟨front ++ body, c, (List.append_assoc _ _ _).symm, hc⟩

theorem ne_return {c : Char} (hc : isWhiteSpace c = false) : c ≠ '\r' := by
  rintro rfl
  revert hc
  decide

theorem exists_readRow (last : Bool) (row : List Char) :
    ∃ tail, row = readRow last row ++ tail ∧ Lost last tail := by
  cases last with
  | true => exact exists_trimEnd row
  | false =>
    rcases List.eq_nil_or_concat row with rfl | ⟨body, c, rfl⟩
    · exact ⟨[], rfl, .inl rfl⟩
    rw [List.concat_eq_append]
    by_cases hc : c = '\r'
    · refine ⟨['\r'], ?_, .inr rfl⟩
      rw [hc]
      exact congrArg (· ++ ['\r']) (withoutReturn_concat_return body).symm
    · refine ⟨[], ?_, .inl rfl⟩
      rw [List.append_nil]
      exact (withoutReturn_concat hc body).symm

/-- A text that does not end in blank space is read as it is, with all that is lost behind it. -/
theorem readRow_append {last : Bool} {s tail : List Char} (hs : EndsSolid s) (htail : Lost last tail) :
    readRow last (s ++ tail) = s := by
  obtain ⟨front, c, rfl, hc⟩ := hs
  cases last with
  | true => exact (trimEnd_append_blank _ htail).trans (trimEnd_concat hc front)
  | false =>
    rcases htail with rfl | rfl
    · rw [List.append_nil]
      exact withoutReturn_concat (ne_return hc) front
    · exact withoutReturn_concat_return _

theorem readRow_eq_self {last : Bool} {s : List Char} (hs : EndsSolid s) : readRow last s = s := by
  have hread := readRow_append hs (lost_nil last)
  rwa [List.append_nil] at hread

/-- A text that ends in no blank space stands at the end of the row that is read, exactly if it stands in
front of something that is lost. -/
theorem suffix_readRow_iff {last : Bool} {word row : List Char} (hword : EndsSolid word) :
    word <:+ readRow last row ↔ ∃ tail, Lost last tail ∧ word ++ tail <:+ row := by
  constructor
  · rintro ⟨front, hfront⟩
    obtain ⟨tail, hrow, htail⟩ := exists_readRow last row
    refine ⟨tail, htail, front, ?_⟩
    rw [← List.append_assoc, hfront, ← hrow]
  · rintro ⟨tail, htail, front, rfl⟩
    rw [← List.append_assoc, readRow_append (hword.append front) htail]
    exact List.suffix_append _ _

/-- Behind a word that ends in no blank space, the rest is read for itself. Where the rest is lost as a
whole, the word may stand alone. -/
theorem readRow_word (last : Bool) {word : List Char} (hword : EndsSolid word) (s : List Char) :
    readRow last (word ++ ' ' :: s) = word ++ ' ' :: readRow last s ∨
      (readRow last (word ++ ' ' :: s) = word ∧ readRow last s = []) := by
  cases last with
  | false => exact .inl (withoutReturn_append_cons (by decide) word s)
  | true =>
    by_cases hs : trimEnd s = []
    · refine .inr ⟨?_, hs⟩
      refine readRow_append hword fun c hc => ?_
      rcases List.mem_cons.mp hc with rfl | hc
      · decide
      · exact List.rdropWhile_eq_nil_iff.mp hs c hc
    · refine .inl ?_
      show trimEnd (word ++ ' ' :: s) = word ++ ' ' :: trimEnd s
      rw [List.append_cons, trimEnd_append _ hs, ← List.append_cons]

end LintGate.Text
