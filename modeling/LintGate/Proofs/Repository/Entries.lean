/-
Entries of the stash, and what a listing of them tells.

The frames that the gate left behind are found by the subjects of the entries: setting
changes aside under a label makes an entry whose subject ends in a colon, a space and the
label. The subjects are read off a listing, and reading takes blank space away at the end
of a row (`Text.readRow`): all of it behind the oldest entry, one return behind every other.

So no entry under a label is ever missed (`framesBorne_sublist`), and each is found under
the one label it has (`not_bears_both`). But an entry that has blank space behind a label is
taken for one under that label if reading takes all of that away. `Veiled` says exactly
when, and without such an entry the answer is exact (`framesRead_eq_iff`).
-/
import LintGate.Proofs.Text.Listing
import LintGate.Repository

set_option autoImplicit false

namespace LintGate

open Text (EndsSolid IsRow Lost listing readRow readRows)

/-! ## Entries -/

/-- An entry of the stash. Its id is a word, and its subject is one line. -/
structure StashEntry where
  id : String
  subject : String
  id_ne : id ≠ ""
  id_solid : ∀ c ∈ id.toList, Unicode.isWhiteSpace c = false
  subject_line : '\n' ∉ subject.toList
deriving DecidableEq

namespace StashEntry

/-- The ids of entries. -/
def ids (entries : List StashEntry) : List String := entries.map (·.id)

@[simp] theorem ids_append (entries entries' : List StashEntry) :
    ids (entries ++ entries') = ids entries ++ ids entries' :=
  List.map_append

@[simp] theorem ids_toList (made : Option StashEntry) :
    ids made.toList = (made.map (·.id)).toList := by
  cases made <;> rfl

/-- The row of an entry that tells its id and its subject. -/
def row (e : StashEntry) : List Char := e.id.toList ++ ' ' :: e.subject.toList

theorem exists_id_cons (e : StashEntry) :
    ∃ c rest, e.id.toList = c :: rest ∧ Unicode.isWhiteSpace c = false := by
  have hne : e.id.toList ≠ [] := fun h => e.id_ne (String.toList_eq_nil_iff.mp h)
  obtain ⟨c, rest, hcons⟩ := List.exists_cons_of_ne_nil hne
  exact ⟨c, rest, hcons, e.id_solid c (hcons ▸ List.mem_cons_self)⟩

theorem endsSolid_id (e : StashEntry) : EndsSolid e.id.toList := by
  obtain ⟨c, rest, hcons, -⟩ := e.exists_id_cons
  rcases List.eq_nil_or_concat e.id.toList with hnil | ⟨front, d, hconcat⟩
  · rw [hnil] at hcons
    cases hcons
  · rw [List.concat_eq_append] at hconcat
    exact ⟨front, d, hconcat, e.id_solid d (hconcat ▸ List.mem_append_right _ List.mem_cons_self)⟩

theorem not_mem_id (e : StashEntry) {c : Char} (hc : Unicode.isWhiteSpace c = true) :
    c ∉ e.id.toList := by
  intro hmem
  have hsolid := e.id_solid c hmem
  rw [hc] at hsolid
  cases hsolid

theorem isRow_id (e : StashEntry) : IsRow e.id.toList :=
  ⟨e.not_mem_id (by decide), e.exists_id_cons⟩

theorem isRow_row (e : StashEntry) : IsRow e.row := by
  obtain ⟨c, rest, hcons, hc⟩ := e.exists_id_cons
  refine ⟨?_, c, rest ++ ' ' :: e.subject.toList, ?_, hc⟩
  · rw [row, List.mem_append, List.mem_cons, not_or, not_or]
    exact ⟨e.not_mem_id (by decide), by decide, e.subject_line⟩
  · rw [row, hcons, List.cons_append]

/-! ## What a listing tells -/

/-- The listing of ids. -/
def idListing (entries : List StashEntry) : String :=
  String.ofList (listing (entries.map (·.id.toList)))

/-- The listing of ids with subjects. -/
def fullListing (entries : List StashEntry) : String := String.ofList (listing (entries.map row))

theorem shownLines_listing {rows : List (List Char)} (hrows : ∀ row ∈ rows, IsRow row) :
    Text.shownLines (Text.trim (Bytes.lossyText (Bytes.ofText (String.ofList (listing rows)))))
      = (readRows rows).map String.ofList := by
  have hread : ∀ text, Bytes.lossyText (Bytes.ofText text) = text := by
    intro text
    rw [Bytes.lossyText, Bytes.text?_ofText]
  rw [hread]
  exact Text.shownLines_trim String.toList_ofList hrows

/-- Ids are read as they are printed. -/
theorem shownLines_idListing (entries : List StashEntry) :
    Text.shownLines (Text.trim (Bytes.lossyText (Bytes.ofText (idListing entries))))
      = ids entries := by
  have hrows : ∀ row ∈ entries.map (·.id.toList), IsRow row := by
    intro row hrow
    obtain ⟨e, -, rfl⟩ := List.mem_map.mp hrow
    exact e.isRow_id
  rw [idListing, shownLines_listing hrows]
  clear hrows
  induction entries with
  | nil => rfl
  | cons e older ih =>
    rw [List.map_cons, readRows, List.map_cons, ih, Text.readRow_eq_self e.endsSolid_id,
      String.ofList_toList]
    rfl

/-! ## Labels -/

/-- What stands at the end of a subject under a label. -/
def mark (label : String) : List Char := (": " ++ label).toList

/-- Whether a subject is under a label: it ends in a colon, a space and the label. -/
def Bears (subject : List Char) (label : String) : Prop := mark label <:+ subject

instance (subject : List Char) (label : String) : Decidable (Bears subject label) :=
  inferInstanceAs (Decidable (_ <:+ _))

theorem mark_eq (label : String) : mark label = ':' :: ' ' :: label.toList := String.toList_append

theorem endsSolid_mark {label : String} (h : EndsSolid label.toList) : EndsSolid (mark label) := by
  obtain ⟨front, c, hlabel, hc⟩ := h
  exact ⟨':' :: ' ' :: front, c, by rw [mark_eq, hlabel]; rfl, hc⟩

/-- The frame of an id and a subject, if the subject is under one of the labels. -/
def frameUnder? (labels : List String) (id : String) (subject : List Char) : Option Frame :=
  (labels.find? fun label => decide (Bears subject label)).map fun label => ⟨id, label⟩

theorem frameUnder?_eq_none_iff {labels : List String} {id : String} {subject : List Char} :
    frameUnder? labels id subject = none ↔ ∀ label ∈ labels, ¬Bears subject label := by
  simp [frameUnder?]

theorem endsWith_iff (s t : String) : s.endsWith t = true ↔ t.toList <:+ s.toList := by
  rw [← String.endsWith_toSlice, String.Slice.endsWith_string_iff, String.copy_toSlice]

/-- A line is cut behind its first word, and its frame is that of the two parts. -/
theorem frameOfLine?_word (labels : List String) {word : List Char} (hword : ' ' ∉ word)
    (subject : List Char) :
    Repository.frameOfLine? labels (String.ofList (word ++ ' ' :: subject))
      = frameUnder? labels (String.ofList word) subject := by
  have hall : ∀ c ∈ word, (c != ' ') = true := by
    intro c hc
    rw [bne_iff_ne]
    rintro rfl
    exact hword hc
  have hends : ∀ label, (String.ofList subject).endsWith (": " ++ label)
      = decide (Bears subject label) := by
    intro label
    rw [Bool.eq_iff_iff, endsWith_iff, decide_eq_true_iff, String.toList_ofList]
    rfl
  rw [Repository.frameOfLine?, String.toList_ofList, List.dropWhile_append_of_pos hall,
    List.takeWhile_append_of_pos hall]
  simp only [List.dropWhile_cons, List.takeWhile_cons, bne_self_eq_false, Bool.false_eq_true, if_false,
    List.append_nil, hends, frameUnder?]

/-- A line of one word has no frame. -/
theorem frameOfLine?_alone (labels : List String) {word : List Char} (hword : ' ' ∉ word) :
    Repository.frameOfLine? labels (String.ofList word) = none := by
  have hdrop : word.dropWhile (· != ' ') = [] := by
    rw [List.dropWhile_eq_nil_iff]
    intro c hc
    rw [bne_iff_ne]
    rintro rfl
    exact hword hc
  rw [Repository.frameOfLine?, String.toList_ofList, hdrop]

/-! ## The frames that are found -/

/-- The frame of an entry under labels. -/
def frame? (labels : List String) (e : StashEntry) : Option Frame :=
  frameUnder? labels e.id e.subject.toList

/-- The frames of entries under labels. -/
def framesBorne (labels : List String) (entries : List StashEntry) : List Frame :=
  entries.filterMap (frame? labels)

/-- The frame of an entry as its row is read, in front of older ones. -/
def readFrame? (labels : List String) (e : StashEntry) (older : List StashEntry) : Option Frame :=
  frameUnder? labels e.id (readRow older.isEmpty e.subject.toList)

/-- The frames of entries as their rows are read. -/
def framesRead (labels : List String) : List StashEntry → List Frame
  | [] => []
  | e :: older => (e.readFrame? labels older).toList ++ framesRead labels older

/-- Whether blank space behind a label hides that an entry is not under it: reading the entry's row, in
front of those of older ones, takes all of that space away. -/
def Veiled (labels : List String) (e : StashEntry) (older : List StashEntry) : Prop :=
  ∃ label ∈ labels, ∃ tail, tail ≠ [] ∧ Lost older.isEmpty tail ∧ mark label ++ tail <:+ e.subject.toList

variable {labels : List String} {e : StashEntry} {entries older : List StashEntry}

/-- The row of an entry tells the frame of its id and of its subject as that is read. -/
theorem frameOfLine?_row (labels : List String) (e : StashEntry) (older : List StashEntry) :
    Repository.frameOfLine? labels (String.ofList (readRow older.isEmpty e.row))
      = e.readFrame? labels older := by
  have hword : ' ' ∉ e.id.toList := e.not_mem_id (by decide)
  rcases Text.readRow_word older.isEmpty e.endsSolid_id e.subject.toList with hread | ⟨hread, hlost⟩
  · rw [row, hread, frameOfLine?_word labels hword, String.ofList_toList]
    rfl
  · -- of the subject nothing is left, and no label is at the end of nothing
    rw [row, hread, frameOfLine?_alone labels hword, readFrame?, hlost, eq_comm,
      frameUnder?_eq_none_iff]
    intro label _ hbears
    have hnil : mark label = [] := List.suffix_nil.mp hbears
    rw [mark_eq] at hnil
    cases hnil

/-- **What is read off a listing.** -/
theorem frames_of_fullListing (labels : List String) (entries : List StashEntry) :
    (Text.shownLines (Text.trim (Bytes.lossyText (Bytes.ofText (fullListing entries))))).filterMap
      (Repository.frameOfLine? labels) = framesRead labels entries := by
  have hrows : ∀ r ∈ entries.map row, IsRow r := by
    intro r hr
    obtain ⟨e, -, rfl⟩ := List.mem_map.mp hr
    exact e.isRow_row
  rw [fullListing, shownLines_listing hrows]
  clear hrows
  -- whether a row is the last one depends on the older entries only
  induction entries with
  | nil => rfl
  | cons e older ih =>
    have hempty : (older.map row).isEmpty = older.isEmpty := by cases older <;> rfl
    rw [List.map_cons, readRows, List.map_cons, List.filterMap_cons, ih, hempty, frameOfLine?_row,
      framesRead]
    cases e.readFrame? labels older <;> rfl

/-! ## Where the answer is exact -/

/-- An entry under a label does not end in blank space, so it is read as it is. -/
theorem readRow_of_bears {last : Bool} {label : String} {subject : List Char}
    (hlabel : EndsSolid label.toList) (h : Bears subject label) : readRow last subject = subject := by
  obtain ⟨front, rfl⟩ := h
  exact Text.readRow_eq_self ((endsSolid_mark hlabel).append front)

/-- An entry is read under its own label, or under none, exactly if it is not veiled. -/
theorem readFrame?_eq_iff (hlabels : ∀ label ∈ labels, EndsSolid label.toList) :
    e.readFrame? labels older = e.frame? labels ↔ ¬Veiled labels e older := by
  by_cases hborne : ∃ label ∈ labels, Bears e.subject.toList label
  · -- it is under a label, and then nothing blank is behind it
    obtain ⟨label, hlabel, hbears⟩ := hborne
    refine iff_of_true ?_ ?_
    · rw [readFrame?, readRow_of_bears (hlabels label hlabel) hbears, frame?]
    · rintro ⟨label', hlabel', tail, htail, hlost, hsuffix⟩
      have hread : readRow older.isEmpty e.subject.toList = e.subject.toList :=
        readRow_of_bears (hlabels label hlabel) hbears
      obtain ⟨front, hfront⟩ := hsuffix
      have hsolid := (endsSolid_mark (hlabels label' hlabel')).append front
      rw [← hfront, ← List.append_assoc, Text.readRow_append hsolid hlost] at hread
      exact htail (List.self_eq_append_right.mp hread)
  · have hnone : e.frame? labels = none :=
      frameUnder?_eq_none_iff.mpr fun label hlabel hbears => hborne ⟨label, hlabel, hbears⟩
    rw [hnone, readFrame?, frameUnder?_eq_none_iff]
    constructor
    · rintro hread ⟨label, hlabel, tail, -, hlost, hsuffix⟩
      exact hread label hlabel
        ((Text.suffix_readRow_iff (endsSolid_mark (hlabels label hlabel))).mpr ⟨tail, hlost, hsuffix⟩)
    · intro hveiled label hlabel hbears
      obtain ⟨tail, hlost, hsuffix⟩ :=
        (Text.suffix_readRow_iff (endsSolid_mark (hlabels label hlabel))).mp hbears
      refine hveiled ⟨label, hlabel, tail, ?_, hlost, hsuffix⟩
      rintro rfl
      rw [List.append_nil] at hsuffix
      exact hborne ⟨label, hlabel, hsuffix⟩

/-- A frame that an entry has is read. -/
theorem readFrame?_of_frame? (hlabels : ∀ label ∈ labels, EndsSolid label.toList) {frame : Frame}
    (h : e.frame? labels = some frame) : e.readFrame? labels older = some frame := by
  obtain ⟨label, hfind, -⟩ := Option.map_eq_some_iff.mp h
  have hbears : Bears e.subject.toList label := by simpa using List.find?_some hfind
  rw [readFrame?, readRow_of_bears (hlabels label (List.mem_of_find?_eq_some hfind)) hbears]
  exact h

theorem framesBorne_cons (labels : List String) (e : StashEntry) (older : List StashEntry) :
    framesBorne labels (e :: older) = (e.frame? labels).toList ++ framesBorne labels older := by
  rw [framesBorne, List.filterMap_cons]
  cases e.frame? labels <;> rfl

/-- One entry adds its frame to what is read, or something else. -/
theorem frame?_sublist (hlabels : ∀ label ∈ labels, EndsSolid label.toList) :
    (e.frame? labels).toList.Sublist (e.readFrame? labels older).toList := by
  cases h : e.frame? labels with
  | none => exact List.nil_sublist _
  | some frame => rw [readFrame?_of_frame? hlabels h]

/-- **No frame is missed**, and those that are found stand in the order of the entries. -/
theorem framesBorne_sublist (hlabels : ∀ label ∈ labels, EndsSolid label.toList)
    (entries : List StashEntry) :
    (framesBorne labels entries).Sublist (framesRead labels entries) := by
  induction entries with
  | nil => exact List.Sublist.slnil
  | cons e older ih =>
    rw [framesBorne_cons, framesRead]
    exact (frame?_sublist hlabels).append ih

/-- **The frames that are found are those of the entries exactly if no entry is veiled.** -/
theorem framesRead_eq_iff (hlabels : ∀ label ∈ labels, EndsSolid label.toList)
    (entries : List StashEntry) :
    framesRead labels entries = framesBorne labels entries ↔
      ∀ newer e older, entries = newer ++ e :: older → ¬Veiled labels e older := by
  induction entries with
  | nil =>
    refine iff_of_true rfl fun newer e older h => ?_
    exact absurd h.symm (List.append_ne_nil_of_right_ne_nil _ (List.cons_ne_nil _ _))
  | cons first rest ih =>
    rw [framesBorne_cons, framesRead]
    constructor
    · intro heq newer e older hsplit
      -- both parts are equal, since neither is shorter than the part it holds
      have hfirst : (first.frame? labels).toList.Sublist (first.readFrame? labels rest).toList :=
        frame?_sublist hlabels
      have hrest := framesBorne_sublist hlabels rest
      have hlength := congrArg List.length heq
      rw [List.length_append, List.length_append] at hlength
      have hle := hfirst.length_le
      have hle' := hrest.length_le
      have heqfirst := hfirst.eq_of_length (by omega)
      have heqrest := hrest.eq_of_length (by omega)
      rcases List.cons_eq_append_iff.mp hsplit with ⟨rfl, hcons⟩ | ⟨newer', rfl, hrest'⟩
      · obtain ⟨rfl, rfl⟩ := List.cons.inj hcons
        have hsame : e.readFrame? labels older = e.frame? labels := by
          simpa using congrArg List.head? heqfirst.symm
        exact (readFrame?_eq_iff hlabels).mp hsame
      · exact ih.mp heqrest.symm newer' e older hrest'
    · intro hveiled
      have hfirst : first.readFrame? labels rest = first.frame? labels :=
        (readFrame?_eq_iff hlabels).mpr (hveiled [] first rest rfl)
      have hrest := ih.mpr fun newer e older hsplit =>
        hveiled (first :: newer) e older (by rw [hsplit, List.cons_append])
      rw [hfirst, hrest]

/-! ## The labels of the gate -/

/-- The labels under which the gate sets changes aside. -/
def ownLabels : List String := [unstagedLabel, stagedLabel]

theorem endsSolid_ownLabels : ∀ label ∈ ownLabels, EndsSolid label.toList := by
  intro label hlabel
  rcases List.mem_cons.mp hlabel with rfl | hlabel
  · exact ⟨"difflint: unstaged change".toList, 's', by decide, by decide⟩
  · rw [List.mem_singleton.mp hlabel]
    exact ⟨"difflint: staged change".toList, 's', by decide, by decide⟩

/-- No subject is under both labels, although the one is nearly at the end of the other. -/
theorem not_bears_both (subject : List Char) :
    ¬(Bears subject unstagedLabel ∧ Bears subject stagedLabel) := by
  rintro ⟨hunstaged, hstaged⟩
  have hsuffix : mark stagedLabel <:+ mark unstagedLabel :=
    List.suffix_of_suffix_length_le hstaged hunstaged (by decide)
  revert hsuffix
  decide

/-- Where a subject is under one label at most, an entry has the frame of its id and of that label. -/
theorem frame?_eq_some_iff {frame : Frame}
    (hone : ∀ label ∈ labels, ∀ label' ∈ labels, Bears e.subject.toList label →
      Bears e.subject.toList label' → label = label') :
    e.frame? labels = some frame ↔
      e.id = frame.id ∧ frame.label ∈ labels ∧ Bears e.subject.toList frame.label := by
  obtain ⟨id, label⟩ := frame
  rw [frame?, frameUnder?, Option.map_eq_some_iff]
  constructor
  · rintro ⟨found, hfind, heq⟩
    obtain ⟨rfl, rfl⟩ := Frame.mk.inj heq
    exact ⟨rfl, List.mem_of_find?_eq_some hfind, by simpa using List.find?_some hfind⟩
  · rintro ⟨rfl, hlabel, hbears⟩
    -- a label is found, and it is this one
    have hsome : (labels.find? fun l => decide (Bears e.subject.toList l)).isSome = true :=
      List.find?_isSome.mpr ⟨label, hlabel, decide_eq_true hbears⟩
    obtain ⟨found, hfind⟩ := Option.isSome_iff_exists.mp hsome
    have hfound : Bears e.subject.toList found := by simpa using List.find?_some hfind
    rw [hone label hlabel found (List.mem_of_find?_eq_some hfind) hbears hfound]
    exact ⟨found, hfind, rfl⟩

/-- The frames under the gate's labels: each has the id of an entry, and the label that this is under. -/
theorem frame?_ownLabels_iff {frame : Frame} :
    e.frame? ownLabels = some frame ↔
      e.id = frame.id ∧ frame.label ∈ ownLabels ∧ Bears e.subject.toList frame.label := by
  have hboth := not_bears_both e.subject.toList
  refine frame?_eq_some_iff fun label hlabel label' hlabel' hbears hbears' => ?_
  simp only [ownLabels, List.mem_cons, List.not_mem_nil, or_false] at hlabel hlabel'
  rcases hlabel with rfl | rfl <;> rcases hlabel' with rfl | rfl
  · rfl
  · exact absurd ⟨hbears, hbears'⟩ hboth
  · exact absurd ⟨hbears', hbears⟩ hboth
  · rfl

end StashEntry

end LintGate
