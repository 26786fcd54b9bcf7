/-
Rows of a rendered delta.

The scan for defects reads a delta row by row, a row being a piece between line feeds.
A line of a hunk that ends at a line feed is a row of its own under its marker, and so is
one without a terminator, since a remark with feeds around it follows. A line that ends
at a carriage return alone leaves its row open, and the next line stands behind it in
the same row, its marker included.

`ShownAlone` says of an added line that it gets a row of its own: neither it nor the
line in front of it ends at a carriage return alone. Then its row is among the pieces of
the delta. For lines without carriage returns the converse holds as well, but for the
two rows that name the sides.
-/
import LintGate.Proofs.Diff.Hunks
import LintGate.Proofs.Text.Feeds
import Mathlib.Data.List.Count
import Mathlib.Data.List.Perm.Subperm

set_option autoImplicit false

namespace LintGate.Diff

open Text

/-! ## Lines under their markers -/

/-- The lines of a hunk in the order in which it shows them, each with its marker. -/
def Hunk.marked (h : Hunk) (old new : Array String) : List (Char × List Char) :=
  (linesOf old h.change.old h.change.oldLen).map (fun line => ('-', line.toList))
    ++ (linesOf new h.change.new h.change.newLen).map fun line => ('+', line.toList)

/-- A line as it is shown. -/
def shown (m : Char × List Char) : List Char :=
  m.1 :: m.2 ++ if isTerminated (String.ofList m.2) then [] else missingTerminator.toList

/-- The first row of a hunk. -/
def Hunk.title (h : Hunk) : List Char :=
  ("@@ -" ++ showRange h.oldFrom h.oldTo ++ " +" ++ showRange h.newFrom h.newTo ++ " @@").toList

/-- A rendered hunk is its title and its lines. -/
theorem Hunk.toList_render (h : Hunk) (old new : Array String) :
    (h.render old new).toList = h.title ++ '\n' :: (h.marked old new).flatMap shown := by
  have hfeed : " @@\n".toList = " @@".toList ++ ['\n'] := by decide
  have hline : ∀ (marker : Char) (line : String),
      (showLine (String.singleton marker) line).toList = shown (marker, line.toList) := by
    intro marker line
    rw [shown, String.ofList_toList, showLine]
    split <;> simp
  have hremoved : ∀ line, (showLine "-" line).toList = shown ('-', line.toList) := hline '-'
  have hadded : ∀ line, (showLine "+" line).toList = shown ('+', line.toList) := hline '+'
  simp only [Hunk.render, Hunk.title, Hunk.marked, String.toList_append, String.toList_join,
    List.flatMap_append, List.flatMap_map, hremoved, hadded, hfeed, List.append_assoc,
    List.cons_append, List.nil_append]

/-- The two rows that name the sides, without the feed behind the second. -/
def sides (oldName newName : String) : List Char :=
  ("--- " ++ oldName ++ "\n+++ " ++ newName).toList

/-- The delta of two texts that have hunks: the names of the sides and the hunks. -/
theorem toList_unifiedDelta {oldText newText : String} (oldName newName : String)
    (h : hunksBetween (Text.lines oldText).toArray (Text.lines newText).toArray ≠ []) :
    (unifiedDelta oldText newText oldName newName).toList = sides oldName newName ++ '\n' ::
      (hunksBetween (Text.lines oldText).toArray (Text.lines newText).toArray).flatMap fun hunk =>
        (hunk.render (Text.lines oldText).toArray (Text.lines newText).toArray).toList := by
  have hfeed : "\n".toList = ['\n'] := by decide
  rw [unifiedDelta]
  split
  next hnone => exact absurd hnone h
  next =>
    simp only [sides, String.toList_append, String.toList_join, List.flatMap_map, hfeed,
      List.append_assoc, List.singleton_append]

/-! ## Rows that begin in a text

A text may follow an open row. Then its first piece belongs to that row, and the rows
that begin in it are its other pieces. -/

/-- The rows that begin in a text, behind an open row or not. -/
def rowsFrom (opened : Bool) (s : List Char) : List (List Char) :=
  if opened then (splitFeeds s).tail else splitFeeds s

theorem rowsFrom_closed (s : List Char) : rowsFrom false s = splitFeeds s := rfl

/-- A row that ends in front of a text: it is one of the rows, or the row begins in the text. -/
theorem mem_rowsFrom_feed {opened : Bool} {x front s : List Char} (hfront : '\n' ∉ front) :
    x ∈ rowsFrom opened (front ++ '\n' :: s) ↔
      (opened = false ∧ x = front) ∨ x ∈ rowsFrom false s := by
  rw [rowsFrom_closed, rowsFrom, splitFeeds_feed, splitFeeds_of_not_mem hfront]
  cases opened with
  | true => simp
  | false => simp

/-- A row that stays open lets the rows behind it be. -/
theorem mem_rowsFrom_open {opened : Bool} {x front s : List Char} (hfront : '\n' ∉ front)
    (h : x ∈ rowsFrom true s) : x ∈ rowsFrom opened (front ++ s) := by
  obtain ⟨piece, pieces, hs⟩ := List.exists_cons_of_ne_nil (splitFeeds_ne_nil s)
  rw [rowsFrom, hs] at h
  rw [rowsFrom, splitFeeds_append hfront, hs]
  cases opened with
  | true => exact h
  | false => exact List.mem_cons_of_mem _ h

/-- And it has in it the carriage return that leaves it open. -/
theorem of_mem_rowsFrom_open {opened : Bool} {x front s : List Char} (hfront : '\n' ∉ front)
    (hreturn : '\r' ∈ front) (hx : '\r' ∉ x) (h : x ∈ rowsFrom opened (front ++ s)) :
    x ∈ rowsFrom true s := by
  obtain ⟨piece, pieces, hs⟩ := List.exists_cons_of_ne_nil (splitFeeds_ne_nil s)
  rw [rowsFrom, splitFeeds_append hfront, hs] at h
  rw [rowsFrom, hs]
  cases opened with
  | true => exact h
  | false =>
    rcases List.mem_cons.mp h with rfl | h
    · exact absurd (List.mem_append_left _ hreturn) hx
    · exact h

/-! ## Rows of marked lines -/

/-- Whether the row is open behind some marked lines, when it is or is not in front of them. -/
def openAfter (opened : Bool) : List (Char × List Char) → Bool
  | [] => opened
  | m :: ms => openAfter (decide (EndsInReturn m.2)) ms

/-- The remark on a missing terminator, without the feeds around it. -/
def remark : List Char := "\\ No newline at end of file".toList

theorem shown_fed (c : Char) (body : List Char) : shown (c, body ++ ['\n']) = c :: body ++ ['\n'] := by
  rw [shown, if_pos (isTerminated_fed body), List.append_nil, List.cons_append]

theorem shown_return (c : Char) {line : List Char} (h : EndsInReturn line) :
    shown (c, line) = c :: line := by
  rw [shown, if_pos h.isTerminated, List.append_nil]

theorem shown_open (c : Char) {line : List Char} (h : isTerminated (String.ofList line) = false)
    (s : List Char) : shown (c, line) ++ s = (c :: line) ++ '\n' :: (remark ++ '\n' :: s) := by
  have hremark : missingTerminator.toList = '\n' :: (remark ++ ['\n']) := by decide
  rw [shown, if_neg (by rw [h]; exact Bool.false_ne_true), hremark]
  simp only [List.append_assoc, List.cons_append, List.nil_append]

/-- The marker and a line without a feed hold no feed. -/
theorem feed_not_mem_marked {c : Char} {body : List Char} (hc : c ≠ '\n') (hbody : '\n' ∉ body) :
    '\n' ∉ c :: body := by
  rw [List.mem_cons, not_or]
  exact ⟨Ne.symm hc, hbody⟩

theorem feed_not_mem_remark : '\n' ∉ remark := by decide

/-- A row begins in a marked line if it is that line's own row, and it begins behind the line if it
is a row of what follows. -/
theorem mem_rowsFrom_shown {opened : Bool} {c : Char} {line x s : List Char} (hc : c ≠ '\n')
    (hline : '\n' ∉ line.dropLast)
    (h : (opened = false ∧ ¬EndsInReturn line ∧ x = c :: withoutFeed line) ∨
      x ∈ rowsFrom (decide (EndsInReturn line)) s) :
    x ∈ rowsFrom opened (shown (c, line) ++ s) := by
  rcases line_cases hline with ⟨body, rfl, hbody⟩ | ⟨hreturn, hnot⟩ | ⟨hopen, hnot⟩
  · -- the line ends its row with its feed
    rw [decide_eq_false (not_endsInReturn_fed body), withoutFeed_fed] at h
    rw [shown_fed, List.append_assoc, List.singleton_append,
      mem_rowsFrom_feed (feed_not_mem_marked hc hbody)]
    exact h.imp_left fun hrow => ⟨hrow.1, hrow.2.2⟩
  · -- the line leaves the row open
    rw [decide_eq_true hreturn] at h
    rw [shown_return c hreturn]
    refine mem_rowsFrom_open (feed_not_mem_marked hc hnot) (h.resolve_left ?_)
    exact fun hrow => hrow.2.1 hreturn
  · -- the remark ends the row, and makes one of its own
    have hends : ¬EndsInReturn line := fun hreturn => by simp [hreturn.isTerminated] at hopen
    rw [decide_eq_false hends, withoutFeed_of_not_mem hnot] at h
    rw [shown_open c hopen, mem_rowsFrom_feed (feed_not_mem_marked hc hnot)]
    refine h.imp (fun hrow => ⟨hrow.1, hrow.2.2⟩) fun hx => ?_
    exact (mem_rowsFrom_feed feed_not_mem_remark).mpr (.inr hx)

/-- Conversely, a row without carriage returns that begins in a marked line or behind it is that
line's own, or the remark on it, or a row of what follows. -/
theorem of_mem_rowsFrom_shown {opened : Bool} {c : Char} {line x s : List Char} (hc : c ≠ '\n')
    (hline : '\n' ∉ line.dropLast) (hx : '\r' ∉ x) (h : x ∈ rowsFrom opened (shown (c, line) ++ s)) :
    (opened = false ∧ ¬EndsInReturn line ∧ x = c :: withoutFeed line) ∨ x = remark ∨
      x ∈ rowsFrom (decide (EndsInReturn line)) s := by
  rcases line_cases hline with ⟨body, rfl, hbody⟩ | ⟨hreturn, hnot⟩ | ⟨hopen, hnot⟩
  · rw [decide_eq_false (not_endsInReturn_fed body), withoutFeed_fed]
    rw [shown_fed, List.append_assoc, List.singleton_append,
      mem_rowsFrom_feed (feed_not_mem_marked hc hbody)] at h
    exact h.imp (fun ⟨hclosed, hx⟩ => ⟨hclosed, not_endsInReturn_fed body, hx⟩) .inr
  · rw [decide_eq_true hreturn]
    rw [shown_return c hreturn] at h
    refine .inr (.inr (of_mem_rowsFrom_open (feed_not_mem_marked hc hnot) ?_ hx h))
    exact List.mem_cons_of_mem _ (List.mem_of_getLast? hreturn)
  · have hends : ¬EndsInReturn line := fun hreturn => by simp [hreturn.isTerminated] at hopen
    rw [decide_eq_false hends, withoutFeed_of_not_mem hnot]
    rw [shown_open c hopen, mem_rowsFrom_feed (feed_not_mem_marked hc hnot)] at h
    refine h.imp (fun ⟨hclosed, hx⟩ => ⟨hclosed, hends, hx⟩) fun hx => ?_
    exact ((mem_rowsFrom_feed feed_not_mem_remark).mp hx).imp_left And.right

/-- Marked lines as hunks have them: no marker is a feed, and feeds stand at the ends of lines. -/
def WellMarked (ms : List (Char × List Char)) : Prop :=
  ∀ m ∈ ms, m.1 ≠ '\n' ∧ '\n' ∉ m.2.dropLast

/-- A line alone in its row: it does not leave the row open, and nothing in front of it does. -/
def Alone (opened : Bool) (ms : List (Char × List Char)) (c : Char) (line : List Char) : Prop :=
  ∃ before after, ms = before ++ (c, line) :: after ∧ openAfter opened before = false ∧
    ¬EndsInReturn line

/-- The rows of what follows some marked lines are rows of the whole. -/
theorem mem_rowsFrom_behind {opened : Bool} {ms : List (Char × List Char)} {x s : List Char}
    (hms : WellMarked ms) (h : x ∈ rowsFrom (openAfter opened ms) s) :
    x ∈ rowsFrom opened (ms.flatMap shown ++ s) := by
  induction ms generalizing opened with
  | nil => exact h
  | cons m ms ih =>
    obtain ⟨hm, hline⟩ := hms m List.mem_cons_self
    rw [List.flatMap_cons, List.append_assoc]
    refine mem_rowsFrom_shown hm hline (.inr ?_)
    exact ih (fun m' hm' => hms m' (List.mem_cons_of_mem _ hm')) h

/-- **A line alone in its row makes a row**, with its marker in front. -/
theorem mem_rowsFrom_of_alone {opened : Bool} {ms : List (Char × List Char)} {c : Char}
    {line : List Char} (s : List Char) (hms : WellMarked ms) (h : Alone opened ms c line) :
    c :: withoutFeed line ∈ rowsFrom opened (ms.flatMap shown ++ s) := by
  obtain ⟨before, after, rfl, hclosed, hends⟩ := h
  obtain ⟨hc, hline⟩ := hms (c, line) (List.mem_append_right _ List.mem_cons_self)
  rw [List.flatMap_append, List.flatMap_cons, List.append_assoc, List.append_assoc]
  refine mem_rowsFrom_behind (fun m hm => hms m (List.mem_append_left _ hm)) ?_
  exact mem_rowsFrom_shown hc hline (.inl ⟨hclosed, hends, rfl⟩)

/-- **And a row without carriage returns is made by a line alone in it**, if it begins in marked lines
and is no remark. -/
theorem of_mem_rowsFrom_marked {opened : Bool} {ms : List (Char × List Char)} {x s : List Char}
    (hms : WellMarked ms) (hx : '\r' ∉ x) (hremark : x ≠ remark)
    (h : x ∈ rowsFrom opened (ms.flatMap shown ++ s)) :
    (∃ c line, Alone opened ms c line ∧ x = c :: withoutFeed line) ∨
      x ∈ rowsFrom (openAfter opened ms) s := by
  induction ms generalizing opened with
  | nil => exact .inr h
  | cons m ms ih =>
    obtain ⟨hm, hline⟩ := hms m List.mem_cons_self
    rw [List.flatMap_cons, List.append_assoc] at h
    rcases of_mem_rowsFrom_shown hm hline hx h with ⟨hclosed, hends, rfl⟩ | rfl | h
    · exact .inl ⟨m.1, m.2, ⟨[], ms, rfl, hclosed, hends⟩, rfl⟩
    · exact absurd rfl hremark
    · refine (ih (fun m' hm' => hms m' (List.mem_cons_of_mem _ hm')) h).imp_left ?_
      rintro ⟨c, line, ⟨before, after, rfl, hclosed, hends⟩, rfl⟩
      exact ⟨c, line, ⟨m :: before, after, rfl, hclosed, hends⟩, rfl⟩

/-! ## Rows of hunks -/

/-- A range of a header is shown in digits and a comma. -/
theorem isDigit_of_mem_showRange {start stop : Nat} {c : Char} (h : c ∈ (showRange start stop).toList) :
    c.isDigit = true ∨ c = ',' := by
  unfold showRange at h
  simp only at h
  split at h
  · exact .inl (isDigit_of_mem_toString h)
  · rw [String.toList_append, String.toList_append, List.mem_append, List.mem_append] at h
    rcases h with (h | h) | h
    · exact .inl (isDigit_of_mem_toString h)
    · have hcomma : ",".toList = [','] := by decide
      rw [hcomma, List.mem_singleton] at h
      exact .inr h
    · exact .inl (isDigit_of_mem_toString h)

/-- A character that is no digit and no comma is in no range. -/
theorem not_mem_showRange {c : Char} (hdigit : c.isDigit = false) (hcomma : c ≠ ',') (start stop : Nat) :
    c ∉ (showRange start stop).toList := by
  intro h
  rcases isDigit_of_mem_showRange h with hc | hc
  · rw [hdigit] at hc
    cases hc
  · exact hcomma hc

/-- A character that is none of a title's marks either is in no title. -/
theorem Hunk.not_mem_title {c : Char} (hdigit : c.isDigit = false) (hmarks : c ∉ "@ -+,".toList)
    (h : Hunk) : c ∉ h.title := by
  have hmark : ∀ marks : String, (∀ d ∈ marks.toList, d ∈ "@ -+,".toList) → c ∉ marks.toList :=
    fun marks hsub hc => hmarks (hsub c hc)
  have hcomma : c ≠ ',' := by
    rintro rfl
    exact hmarks (by decide)
  have hrange := not_mem_showRange hdigit hcomma
  simp only [Hunk.title, String.toList_append, List.mem_append, not_or]
  exact ⟨⟨⟨⟨hmark "@@ -" (by simp), hrange _ _⟩, hmark " +" (by simp)⟩, hrange _ _⟩,
    hmark " @@" (by simp)⟩

theorem Hunk.feed_not_mem_title (h : Hunk) : '\n' ∉ h.title := h.not_mem_title (by decide) (by decide)

theorem Hunk.bar_not_mem_title (h : Hunk) : '|' ∉ h.title := h.not_mem_title (by decide) (by decide)

variable {old new : Array String} {hs : List Hunk}

/-- A line that is alone in its row in a hunk makes a row, wherever the hunk stands. -/
theorem mem_rowsFrom_hunks {opened : Bool} {hunk : Hunk} {c : Char} {line : List Char}
    (hwell : ∀ h ∈ hs, WellMarked (h.marked old new)) (hhunk : hunk ∈ hs)
    (h : Alone false (hunk.marked old new) c line) :
    c :: withoutFeed line ∈ rowsFrom opened (hs.flatMap fun h => (h.render old new).toList) := by
  induction hs generalizing opened with
  | nil => cases hhunk
  | cons first rest ih =>
    have hfirst := hwell first List.mem_cons_self
    rw [List.flatMap_cons, Hunk.toList_render, List.append_assoc, List.cons_append,
      mem_rowsFrom_feed first.feed_not_mem_title]
    refine .inr ?_
    rcases List.mem_cons.mp hhunk with rfl | hhunk
    · exact mem_rowsFrom_of_alone _ hfirst h
    · exact mem_rowsFrom_behind hfirst
        (ih (fun h hh => hwell h (List.mem_cons_of_mem _ hh)) hhunk)

/-- A row of hunks that has the marker of an added line and no carriage return is made by an added
line that is alone in it. -/
theorem of_mem_rowsFrom_hunks {opened : Bool} {l : List Char}
    (hwell : ∀ h ∈ hs, WellMarked (h.marked old new)) (hl : '\r' ∉ l)
    (h : '+' :: l ∈ rowsFrom opened (hs.flatMap fun h => (h.render old new).toList)) :
    ∃ hunk ∈ hs, ∃ line, Alone false (hunk.marked old new) '+' line ∧ withoutFeed line = l := by
  induction hs generalizing opened with
  | nil => cases opened <;> simp [rowsFrom] at h
  | cons first rest ih =>
    have hfirst := hwell first List.mem_cons_self
    have hx : '\r' ∉ '+' :: l := by
      rw [List.mem_cons, not_or]
      exact ⟨by decide, hl⟩
    rw [List.flatMap_cons, Hunk.toList_render, List.append_assoc, List.cons_append,
      mem_rowsFrom_feed first.feed_not_mem_title] at h
    rcases h with ⟨-, htitle⟩ | h
    · -- a title begins with another character
      have hhead := congrArg List.head? htitle
      simp [Hunk.title, String.toList_append] at hhead
    have hremark : '+' :: l ≠ remark := by
      intro heq
      have hhead : remark.head? = some '\\' := by decide
      rw [← heq] at hhead
      cases hhead
    rcases of_mem_rowsFrom_marked hfirst hx hremark h with ⟨c, line, halone, hrow⟩ | h
    · obtain ⟨rfl, rfl⟩ := List.cons.inj hrow
      exact ⟨first, List.mem_cons_self, line, halone, rfl⟩
    · obtain ⟨hunk, hhunk, hrow⟩ := ih (fun h hh => hwell h (List.mem_cons_of_mem _ hh)) h
      exact ⟨hunk, List.mem_cons_of_mem _ hhunk, hrow⟩

/-! ## Rows of a delta -/

/-- The lines of a text, as the difference of texts takes them. -/
def sideOf (text : String) : Array String := (Text.lines text).toArray

/-- An added line gets a row of its own in the difference of two texts. -/
def ShownAlone (oldText newText : String) (l : List Char) : Prop :=
  ∃ hunk ∈ hunksBetween (sideOf oldText) (sideOf newText), ∃ line,
    Alone false (hunk.marked (sideOf oldText) (sideOf newText)) '+' line ∧ withoutFeed line = l

theorem mem_cutLines_of_linesOf {text line : String} {start len : Nat}
    (h : line ∈ linesOf (sideOf text) start len) : line.toList ∈ cutLines text.toList := by
  have hmem : line ∈ Text.lines text := List.mem_of_mem_drop (List.mem_of_mem_take h)
  obtain ⟨cut, hcut, rfl⟩ := List.mem_map.mp hmem
  rw [String.toList_ofList]
  exact hcut

/-- What a hunk shows are lines of the two texts. -/
theorem Hunk.mem_marked {oldText newText : String} {hunk : Hunk} {m : Char × List Char}
    (h : m ∈ hunk.marked (sideOf oldText) (sideOf newText)) :
    (m.1 = '-' ∧ m.2 ∈ cutLines oldText.toList) ∨ (m.1 = '+' ∧ m.2 ∈ cutLines newText.toList) := by
  rcases List.mem_append.mp h with h | h
  · obtain ⟨line, hline, rfl⟩ := List.mem_map.mp h
    exact .inl ⟨rfl, mem_cutLines_of_linesOf hline⟩
  · obtain ⟨line, hline, rfl⟩ := List.mem_map.mp h
    exact .inr ⟨rfl, mem_cutLines_of_linesOf hline⟩

theorem Hunk.wellMarked (oldText newText : String) (hunk : Hunk) :
    WellMarked (hunk.marked (sideOf oldText) (sideOf newText)) := by
  intro m hm
  rcases Hunk.mem_marked hm with ⟨hc, hline⟩ | ⟨hc, hline⟩
  · rw [hc]
    exact ⟨by decide, feed_not_mem_dropLast hline⟩
  · rw [hc]
    exact ⟨by decide, feed_not_mem_dropLast hline⟩

/-- Texts that differ have hunks. -/
theorem hunksBetween_ne_nil {oldText newText : String} (h : oldText ≠ newText) :
    hunksBetween (sideOf oldText) (sideOf newText) ≠ [] := by
  intro hnil
  have hlines := congrArg Array.toList (eq_of_hunksBetween_eq_nil hnil)
  have hcut : cutLines oldText.toList = cutLines newText.toList :=
    (List.map_inj_right fun _ _ => String.ofList_injective).mp hlines
  have hflat := congrArg List.flatten hcut
  rw [flatten_cutLines, flatten_cutLines] at hflat
  exact h (String.toList_inj.mp hflat)

/-- **An added line that is alone in its row is a row of the delta.** -/
theorem ShownAlone.mem_pieces {oldText newText : String} {l : List Char} (oldName newName : String)
    (h : ShownAlone oldText newText l) :
    '+' :: l ∈ splitFeeds (unifiedDelta oldText newText oldName newName).toList := by
  obtain ⟨hunk, hhunk, line, halone, rfl⟩ := h
  rw [toList_unifiedDelta oldName newName (List.ne_nil_of_mem hhunk), splitFeeds_feed]
  refine List.mem_append_right _ ?_
  rw [← rowsFrom_closed]
  exact mem_rowsFrom_hunks (fun h _ => h.wellMarked oldText newText) hhunk halone

/-- **The rows of added lines without carriage returns**: apart from the names of the sides, they are
those of added lines that are alone in their rows. -/
theorem mem_pieces_iff {oldText newText : String} {l : List Char} (oldName newName : String)
    (hne : oldText ≠ newText) (hl : '\r' ∉ l) :
    '+' :: l ∈ splitFeeds (unifiedDelta oldText newText oldName newName).toList ↔
      ShownAlone oldText newText l ∨ '+' :: l ∈ splitFeeds (sides oldName newName) := by
  constructor
  · intro h
    rw [toList_unifiedDelta oldName newName (hunksBetween_ne_nil hne), splitFeeds_feed] at h
    rcases List.mem_append.mp h with h | h
    · exact .inr h
    · rw [← rowsFrom_closed] at h
      exact .inl (of_mem_rowsFrom_hunks (fun h _ => h.wellMarked oldText newText) hl h)
  · rintro (h | h)
    · exact h.mem_pieces oldName newName
    · rw [toList_unifiedDelta oldName newName (hunksBetween_ne_nil hne), splitFeeds_feed]
      exact List.mem_append_left _ h

/-! ## Lines that a text introduces -/

/-- The new text has a line more often than the old one. Its lines are those between feeds. -/
def Introduced (oldText newText : String) (l : List Char) : Prop :=
  (feedLines oldText.toList).count l < (feedLines newText.toList).count l

instance (oldText newText : String) (l : List Char) : Decidable (Introduced oldText newText l) :=
  inferInstanceAs (Decidable (_ < _))

theorem Introduced.ne {oldText newText : String} {l : List Char} (h : Introduced oldText newText l) :
    oldText ≠ newText := by
  rintro rfl
  exact Nat.lt_irrefl _ h

/-- A line that holds something is introduced if it is a piece between feeds more often. -/
theorem introduced_iff_pieces {l : String} (hl : l ≠ "") (oldText newText : String) :
    Introduced oldText newText l.toList ↔ (pieces oldText).count l < (pieces newText).count l := by
  have hne : l.toList ≠ [] := fun h => hl (String.toList_inj.mp h)
  have hcount : ∀ text : String, (pieces text).count l = (feedLines text.toList).count l.toList := by
    intro text
    have hmap := List.count_map_of_injective (splitFeeds text.toList) String.ofList
      (fun _ _ => String.ofList_injective) l.toList
    rw [String.ofList_toList] at hmap
    rw [pieces, hmap, count_feedLines hne]
  rw [Introduced, hcount, hcount]

/-- What is more frequent after a map has a more frequent source. -/
theorem exists_count_lt_of_count_map_lt {α β : Type} [BEq α] [LawfulBEq α] [BEq β]
    [LawfulBEq β] {f : α → β} {xs ys : List α} {y : β} (h : (xs.map f).count y < (ys.map f).count y) :
    ∃ x, f x = y ∧ xs.count x < ys.count x := by
  by_contra hnone
  have hle : ∀ x, f x = y → ys.count x ≤ xs.count x := by
    intro x hx
    by_contra hlt
    exact hnone ⟨x, hx, Nat.lt_of_not_le hlt⟩
  have hsources : (ys.filter fun x => f x == y).Subperm (xs.filter fun x => f x == y) := by
    refine List.subperm_ext_iff.mpr fun x hx => ?_
    have hfx := (List.mem_filter.mp hx).2
    rw [List.count_filter (p := fun x => f x == y) hfx,
      List.count_filter (p := fun x => f x == y) hfx]
    exact hle x (beq_iff_eq.mp hfx)
  have hcount : ∀ zs : List α, (zs.map f).count y = (zs.filter fun x => f x == y).length := by
    intro zs
    rw [List.count, List.countP_map, List.countP_eq_length_filter]
    rfl
  rw [hcount, hcount] at h
  exact Nat.not_le_of_lt h hsources.length_le

theorem openAfter_eq_false {ms : List (Char × List Char)} (h : ∀ m ∈ ms, ¬EndsInReturn m.2) :
    openAfter false ms = false := by
  induction ms with
  | nil => rfl
  | cons m ms ih =>
    rw [openAfter, decide_eq_false (h m List.mem_cons_self)]
    exact ih fun m' hm' => h m' (List.mem_cons_of_mem _ hm')

/-- **Where every carriage return is followed by a feed, each line that is introduced is shown.** Both
notions of a line agree there, so a line with its feed is more frequent as well, some hunk adds it,
and no row is left open. -/
theorem shownAlone_of_introduced {oldText newText : String} {l : List Char}
    (hold : ReturnsPaired oldText.toList) (hnew : ReturnsPaired newText.toList)
    (h : Introduced oldText newText l) : ShownAlone oldText newText l := by
  have holdlines : ∀ line ∈ cutLines oldText.toList, ¬EndsInReturn line :=
    fun _ => hold.not_endsInReturn
  have hnewlines : ∀ line ∈ cutLines newText.toList, ¬EndsInReturn line :=
    fun _ => hnew.not_endsInReturn
  rw [Introduced, feedLines_eq_map holdlines, feedLines_eq_map hnewlines] at h
  obtain ⟨line, rfl, hcount⟩ := exists_count_lt_of_count_map_lt h
  have hinj : Function.Injective String.ofList := fun _ _ => String.ofList_injective
  have hside : ∀ text : String,
      (sideOf text).toList.count (String.ofList line) = (cutLines text.toList).count line :=
    fun text => List.count_map_of_injective _ _ hinj line
  rw [← hside, ← hside] at hcount
  obtain ⟨hunk, hhunk, hline⟩ := exists_hunk_of_count_lt hcount
  have hends : ∀ m ∈ hunk.marked (sideOf oldText) (sideOf newText), ¬EndsInReturn m.2 := by
    intro m hm
    rcases Hunk.mem_marked hm with ⟨-, hm⟩ | ⟨-, hm⟩
    · exact holdlines m.2 hm
    · exact hnewlines m.2 hm
  have hmem : ('+', line) ∈ hunk.marked (sideOf oldText) (sideOf newText) := by
    refine List.mem_append_right _ (List.mem_map.mpr ⟨_, hline, ?_⟩)
    rw [String.toList_ofList]
  obtain ⟨before, after, hsplit⟩ := List.append_of_mem hmem
  refine ⟨hunk, hhunk, line, ⟨before, after, hsplit, openAfter_eq_false fun m hm => ?_, ?_⟩, rfl⟩
  · exact hends m (hsplit ▸ List.mem_append_left _ hm)
  · exact hends _ hmem

end LintGate.Diff
