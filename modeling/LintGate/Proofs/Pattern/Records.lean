/-
Rows that are records.

The default matcher reads a row from its start: one character that is no dash, anything, a bar,
something, a bar, something. Its three repetitions can share a row out in many ways, and the
fields may hold bars themselves; but what there is to share out is settled by the row. A row is
accepted exactly if its first character is no dash and what follows it within the line has two
bars, with something between them and something behind the second (`records_iff`). The first
character is taken by a set of its own, which has line feeds and bars in it as well.

The pattern is a text, and what it means is found by its parser. `parse_recordPattern` is the one
place where that is looked at; everything else is about the expression.
-/
import LintGate.Defect
import LintGate.Proofs.Pattern.Spans
import Mathlib.Data.List.TakeWhile

set_option autoImplicit false

namespace LintGate

namespace Matcher

open Pattern

/-! ## The pattern of a record -/

/-- Any character within a line. -/
def inLine : Expr := .set (.compl (.range '\n' '\n'))

def bar : Expr := .set (.range '|' '|')

/-- Any character but a dash. -/
def unmarked : Expr := .set (.compl (.union .empty (.range '-' '-')))

/-- What follows the first field of a record. -/
def barred : Expr := .seq bar (.seq (.rep inLine 1 none) (.seq bar (.rep inLine 1 none)))

def recordExpr : Expr :=
  .seq (.anchor .textStart) (.seq unmarked (.seq (.rep inLine 0 none) barred))

theorem parse_recordPattern : parse recordPattern = .ok recordExpr := by rfl

theorem records_eq (row : String) : records row = recordExpr.isMatch row := by
  rw [records, parse_recordPattern]

/-! ## The shape of a record -/

/-- A line has two bars, with something between them and something behind the second. -/
def HasFields (line : List Char) : Prop :=
  ∃ front field rest : List Char, line = front ++ '|' :: (field ++ '|' :: rest) ∧ field ≠ [] ∧ rest ≠ []

/-- A row has the shape of a record: it begins with a mark that is no dash, and has the fields in the line
behind the mark. -/
def IsRecord (row : List Char) : Prop :=
  ∃ mark rest, row = mark :: rest ∧ mark ≠ '-' ∧ HasFields (rest.takeWhile (· ≠ '\n'))

/-! ## What the parts of the pattern pass over -/

variable {chars : List Char} {i j : Nat}

theorem mem_range_self {c d : Char} : (CharSet.range d d).mem c = true ↔ c = d := by
  rw [CharSet.mem, Bool.and_eq_true, decide_eq_true_iff, decide_eq_true_iff]
  constructor
  · intro h
    exact Char.le_antisymm h.2 h.1
  · rintro rfl
    exact ⟨Char.le_refl c, Char.le_refl c⟩

theorem spans_bar : bar.Spans chars.toArray i j ↔
    j = i + 1 ∧ chars.drop i = '|' :: chars.drop j := by
  rw [bar, Expr.spans_set]
  simp only [mem_range_self, exists_eq_left]

theorem spans_unmarked : unmarked.Spans chars.toArray i j ↔
    j = i + 1 ∧ ∃ mark, mark ≠ '-' ∧ chars.drop i = mark :: chars.drop j := by
  have hmem : ∀ c, (CharSet.compl (.union .empty (.range '-' '-'))).mem c = true ↔ c ≠ '-' := by
    intro c
    rw [CharSet.mem, CharSet.mem, CharSet.mem, Bool.false_or, Bool.not_eq_true', ← Bool.not_eq_true,
      mem_range_self]
  rw [unmarked, Expr.spans_set]
  simp only [hmem]

theorem spans_inLine {least : Nat} : (Expr.rep inLine least none).Spans chars.toArray i j ↔
    ∃ run : List Char, least ≤ run.length ∧ j = i + run.length ∧ '\n' ∉ run ∧
      chars.drop i = run ++ chars.drop j := by
  have hmem : ∀ c, (CharSet.compl (.range '\n' '\n')).mem c = true ↔ c ≠ '\n' := by
    intro c
    rw [CharSet.mem, Bool.not_eq_true', ← Bool.not_eq_true, mem_range_self]
  rw [inLine, Expr.spans_rep_set]
  simp only [hmem, List.forall_mem_ne']

/-- The start of a text is the only place that the anchor admits. -/
theorem spans_textStart (hi : i ≤ chars.length) :
    (Expr.anchor .textStart).Spans chars.toArray i j ↔ j = i ∧ i = 0 := by
  show j = i ∧ (if i = 0 then none else chars.toArray[i - 1]?).isNone = true ↔ _
  apply and_congr_right
  intro _
  by_cases hzero : i = 0
  · simp [hzero]
  · have hthere : i - 1 < chars.length := by omega
    simp [hzero, hthere]

/-- What is left behind a part of what was left. -/
theorem drop_behind (part : List Char) {left : List Char} (h : chars.drop i = part ++ left) :
    chars.drop (i + part.length) = left := by
  rw [← List.drop_drop, h, List.drop_left]

/-- Behind the first field stand a bar, a field, a bar and another field. -/
theorem spans_barred : barred.Spans chars.toArray i j ↔ ∃ field rest : List Char,
    field ≠ [] ∧ rest ≠ [] ∧ '\n' ∉ field ∧ '\n' ∉ rest ∧
      j = i + ('|' :: (field ++ '|' :: rest)).length ∧
      chars.drop i = '|' :: (field ++ '|' :: rest) ++ chars.drop j := by
  constructor
  · rintro ⟨a, hfirst, b, hfield, c, hsecond, hrest⟩
    obtain ⟨rfl, hfirst⟩ := spans_bar.mp hfirst
    obtain ⟨field, hsome, rfl, hfeed, hfield⟩ := spans_inLine.mp hfield
    obtain ⟨rfl, hsecond⟩ := spans_bar.mp hsecond
    obtain ⟨rest, hsome', rfl, hfeed', hrest⟩ := spans_inLine.mp hrest
    refine ⟨field, rest, List.ne_nil_of_length_pos hsome, List.ne_nil_of_length_pos hsome', hfeed,
      hfeed', ?_, ?_⟩
    · simp only [List.length_cons, List.length_append]
      omega
    · rw [hfirst, hfield, hsecond, hrest]
      simp only [List.cons_append, List.append_assoc]
  · rintro ⟨field, rest, hsome, hsome', hfeed, hfeed', rfl, hdrop⟩
    generalize hend : i + ('|' :: (field ++ '|' :: rest)).length = j at hdrop
    -- what is left behind each part of the row in turn
    have hfirst : chars.drop (i + 1) = field ++ '|' :: (rest ++ chars.drop j) := by
      apply drop_behind ['|']
      rw [hdrop]
      simp only [List.cons_append, List.append_assoc, List.nil_append]
    have hfield : chars.drop (i + 1 + field.length) = '|' :: (rest ++ chars.drop j) :=
      drop_behind field hfirst
    have hsecond : chars.drop (i + 1 + field.length + 1) = rest ++ chars.drop j :=
      drop_behind ['|'] hfield
    have hj : j = i + 1 + field.length + 1 + rest.length := by
      rw [← hend]
      simp only [List.length_cons, List.length_append]
      omega
    refine ⟨i + 1, spans_bar.mpr ⟨rfl, ?_⟩, i + 1 + field.length, spans_inLine.mpr ⟨field,
      List.length_pos_of_ne_nil hsome, rfl, hfeed, ?_⟩, i + 1 + field.length + 1,
      spans_bar.mpr ⟨rfl, ?_⟩, spans_inLine.mpr ⟨rest, List.length_pos_of_ne_nil hsome', hj, hfeed', ?_⟩⟩
    · rw [hdrop, hfirst]
      simp only [List.cons_append, List.append_assoc]
    · rw [hfirst, hfield]
    · rw [hfield, hsecond]
    · exact hsecond

/-! ## Records -/

/-- The fields of a line stand in the part of a row in front of its next feed. -/
theorem hasFields_takeWhile_iff {row : List Char} : HasFields (row.takeWhile (· ≠ '\n')) ↔
    ∃ front field rest behind : List Char, row = front ++ '|' :: (field ++ '|' :: rest) ++ behind ∧
      field ≠ [] ∧ rest ≠ [] ∧ '\n' ∉ front ∧ '\n' ∉ field ∧ '\n' ∉ rest := by
  constructor
  · rintro ⟨front, field, rest, hline, hfield, hrest⟩
    have hfeed : '\n' ∉ front ++ '|' :: (field ++ '|' :: rest) := by
      rw [← hline]
      intro hmem
      simpa using List.mem_takeWhile_imp hmem
    simp only [List.mem_append, List.mem_cons, not_or] at hfeed
    refine ⟨front, field, rest, row.dropWhile (· ≠ '\n'), ?_, hfield, hrest, hfeed.1, hfeed.2.2.1,
      hfeed.2.2.2.2⟩
    rw [← hline, List.takeWhile_append_dropWhile]
  · rintro ⟨front, field, rest, behind, rfl, hfield, hrest, hfeed, hfeed', hfeed''⟩
    have hall : ∀ c ∈ front ++ '|' :: (field ++ '|' :: rest), (decide (c ≠ '\n')) = true := by
      intro c hc
      rw [decide_eq_true_iff]
      rintro rfl
      simp only [List.mem_append, List.mem_cons, hfeed, hfeed', hfeed'', false_or, or_false] at hc
      revert hc
      decide
    rw [List.takeWhile_append_of_pos hall]
    refine ⟨front, field, rest ++ behind.takeWhile (· ≠ '\n'), ?_, hfield, ?_⟩
    · simp only [List.append_assoc, List.cons_append]
    · exact List.append_ne_nil_of_left_ne_nil hrest _

/-- **The default matcher accepts exactly the rows that have the shape of a record.** -/
theorem records_iff (row : String) : records row = true ↔ IsRecord row.toList := by
  rw [records_eq, Expr.isMatch_iff]
  constructor
  · rintro ⟨i, j, hi, k, hstart, l, hmark, m, hfront, hbarred⟩
    obtain ⟨rfl, rfl⟩ := (spans_textStart hi).mp hstart
    obtain ⟨rfl, mark, hdash, hmark⟩ := spans_unmarked.mp hmark
    obtain ⟨front, -, rfl, hfeed, hfront⟩ := spans_inLine.mp hfront
    obtain ⟨field, rest, hfield, hrest, hfeed', hfeed'', -, hbarred⟩ := spans_barred.mp hbarred
    refine ⟨mark, row.toList.drop 1, hmark, hdash, ?_⟩
    rw [hasFields_takeWhile_iff]
    refine ⟨front, field, rest, row.toList.drop j, ?_, hfield, hrest, hfeed, hfeed', hfeed''⟩
    rw [hfront, hbarred, List.append_assoc]
  · rintro ⟨mark, left, hrow, hdash, hfields⟩
    obtain ⟨front, field, rest, behind, rfl, hfield, hrest, hfeed, hfeed', hfeed''⟩ :=
      hasFields_takeWhile_iff.mp hfields
    have hbehindMark : row.toList.drop 1 = front ++ ('|' :: (field ++ '|' :: rest) ++ behind) := by
      rw [hrow, ← List.append_assoc]
      rfl
    have hbehindFront : row.toList.drop (1 + front.length) = '|' :: (field ++ '|' :: rest) ++ behind :=
      drop_behind front hbehindMark
    have hbehind : row.toList.drop (1 + front.length + ('|' :: (field ++ '|' :: rest)).length) = behind :=
      drop_behind _ hbehindFront
    refine ⟨0, _, Nat.zero_le _, 0, (spans_textStart (Nat.zero_le _)).mpr ⟨rfl, rfl⟩, 1,
      spans_unmarked.mpr ⟨rfl, mark, hdash, ?_⟩, 1 + front.length,
      spans_inLine.mpr ⟨front, Nat.zero_le _, rfl, hfeed, ?_⟩,
      spans_barred.mpr ⟨field, rest, hfield, hrest, hfeed', hfeed'', rfl, ?_⟩⟩
    · rw [hbehindMark, ← List.append_assoc]
      exact hrow
    · rw [hbehindMark, hbehindFront]
    · rw [hbehindFront, hbehind]

/-! ## Rejected rows -/

/-- **A row without a bar is no record.** -/
theorem records_eq_false_of_no_bar {row : String} (h : '|' ∉ row.toList) : records row = false := by
  rw [← Bool.not_eq_true, records_iff]
  rintro ⟨mark, left, hrow, -, front, field, rest, hline, -⟩
  apply h
  have hbar : '|' ∈ left := by
    apply (List.takeWhile_prefix (· ≠ '\n')).subset
    rw [hline]
    exact List.mem_append_right _ List.mem_cons_self
  rw [hrow]
  exact List.mem_cons_of_mem _ hbar

/-- **A row that begins with a dash is no record.** -/
theorem records_eq_false_of_dash {row : String} (h : row.toList.head? = some '-') :
    records row = false := by
  rw [← Bool.not_eq_true, records_iff]
  rintro ⟨mark, left, hrow, hdash, -⟩
  rw [hrow] at h
  exact hdash (Option.some.inj h)

end Matcher

end LintGate
