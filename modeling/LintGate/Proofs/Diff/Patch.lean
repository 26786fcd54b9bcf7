/-
A delta is a patch.

`unifiedDelta_patch` reads a delta as what it claims to be. It is empty for equal texts and for no
others. Otherwise it is the names of the sides and hunks that, put into effect, make the new
lines of the old ones: each removes the lines in its old range and adds those in its new one,
and equal lines stand between any two of them.

The ranges in the headers are those of the lines, with one exception. Where the line diff
finds an insertion in front of a removal that begins the old text, and compaction moves the
insertion down behind kept lines, the removal is left alone at the front of both texts with the
place it had behind the insertion. `Edit.newShown` is that place. The theorem says that this
happens to no other hunk, and `front_removal_misplaced` shows a delta to which it does.

Headers name their ranges without ambiguity (`showRange_inj`), so that no other reading of
this delta has right places.
-/
import LintGate.Proofs.Diff.Edits
import LintGate.Proofs.Diff.Rows

set_option autoImplicit false

namespace LintGate.Diff

/-! ## Patches -/

/-- The edits are a patch from the old lines to the new ones. -/
structure Patch (old new : List String) (edits : List Edit) : Prop where
  /-- Put into effect, they make the new lines of the old ones. -/
  patched : patched 0 old edits = new
  /-- Each removes the lines in its old range. -/
  removed : ∀ e ∈ edits, (old.drop e.oldAt).take e.removed.length = e.removed
  /-- Each adds the lines in its new range. -/
  added : ∀ e ∈ edits, (new.drop e.newAt).take e.added.length = e.added
  /-- Each holds something. -/
  nonempty : ∀ e ∈ edits, e.removed ≠ [] ∨ e.added ≠ []
  /-- As many lines stand in front of the first on the one side as on the other. -/
  first : ∀ e ∈ edits.head?, e.newAt = e.oldAt
  /-- And between any two, at least one. -/
  apart : edits.IsChain Edit.Apart
  /-- What they add and the old side has are what they remove and the new side has. -/
  count_eq : ∀ line, (edits.flatMap (·.added)).count line + old.count line
    = (edits.flatMap (·.removed)).count line + new.count line

variable {old new : List String} {i j : Nat} {edits : List Edit}

theorem Leads.ranges (h : Leads old new i j edits) :
    ∀ e ∈ edits, (old.drop e.oldAt).take e.removed.length = e.removed ∧
      (new.drop e.newAt).take e.added.length = e.added := by
  induction edits generalizing i j with
  | nil => exact fun e he => absurd he List.not_mem_nil
  | cons first rest ih =>
    intro e he
    obtain ⟨-, hremoved, hadded, hrest⟩ := h
    rcases List.mem_cons.mp he with rfl | he
    · exact ⟨hremoved, hadded⟩
    · exact ih hrest e he

/-- Edits that lead from the starts to the ends are a patch. -/
theorem Leads.patch (h : Leads old new 0 0 edits) (hapart : edits.IsChain Edit.Apart)
    (hnonempty : ∀ e ∈ edits, e.removed ≠ [] ∨ e.added ≠ []) : Patch old new edits where
  patched := by simpa using h.patched
  removed e he := (h.ranges e he).1
  added e he := (h.ranges e he).2
  nonempty := hnonempty
  first e he := by
    obtain ⟨rest, rfl⟩ := List.head?_eq_some_iff.mp he
    obtain ⟨⟨n, hold, hnew, -⟩, -⟩ := h
    exact hnew.trans hold.symm
  apart := hapart
  count_eq line := by simpa using h.count_eq line

/-! ## Deltas -/

theorem commonStart_self {α : Type} [DecidableEq α] (a : Array α) (i n : Nat) :
    commonStart a a i n i n = n - i := by
  induction h : n - i generalizing i with
  | zero =>
    rw [commonStart, if_neg]
    omega
  | succ m ih =>
    rw [commonStart, if_pos ⟨by omega, by omega, rfl⟩, ih (i + 1) (by omega)]

/-- The script of a sequence and itself keeps it. -/
theorem script_self {α : Type} [DecidableEq α] (a : Array α) : script a a = keepRun 0 0 a.size := by
  have hend : commonEnd a a a.size a.size a.size a.size = 0 := by
    rw [commonEnd, if_neg]
    omega
  rw [script, scriptBetween]
  simp [commonStart_self, hend, keepRun]

/-- A pass over a kind leaves a script alone that has none of it. -/
theorem compactKind_eq {α : Type} [DecidableEq α] {a b : Array α} {kind : Kind} {left : Nat}
    {before after : List Op} (h : ∀ op ∈ after, op.kind ≠ kind) :
    compactKind a b kind left before after = before.reverse ++ after := by
  fun_induction compactKind a b kind left before after with
  | case1 before after => rfl
  | case2 left before => rw [List.append_nil]
  | case3 left before op after hop up down ih => exact absurd hop (h op List.mem_cons_self)
  | case4 left before op after hop ih =>
    rw [ih fun o ho => h o (List.mem_cons_of_mem op ho), List.reverse_cons, List.append_assoc]
    rfl

theorem hunksBetween_self (a : Array String) : hunksBetween a a = [] := by
  have hkeep : ∀ op ∈ keepRun 0 0 a.size, op.kind = .keep := by
    unfold keepRun
    split
    · exact fun op hop => absurd hop List.not_mem_nil
    · exact fun op hop => List.mem_singleton.mp hop ▸ rfl
  have hcompact : compact a a (keepRun 0 0 a.size) = keepRun 0 0 a.size := by
    have hpass : ∀ kind : Kind, kind ≠ .keep → ∀ left,
        compactKind a a kind left [] (keepRun 0 0 a.size) = keepRun 0 0 a.size :=
      fun kind hkind left => compactKind_eq fun op hop heq => hkind (heq.symm.trans (hkeep op hop))
    rw [compact]
    simp only [hpass .remove (by decide), hpass .insert (by decide)]
  rw [hunksBetween, script_self, hcompact, keepRun]
  split
  · rw [hunks, stretches, hunksAfter]
  · simp [hunks, stretches, hunksAfter, Op.keep]

/-- The compacted script of two texts starts at the starts of both. -/
theorem starts_compact (a b : Array String) :
    Starts ((script a b).head?.map (·.kind) = some .insert) none 0 0 (compact a b (script a b)) := by
  intro _ hkept
  have hpositioned := compact_positioned a b
  exact .inr ⟨rfl, rfl, rfl, hpositioned.front hkept, hpositioned.first_removal hkept⟩

/-- **A delta is a patch without context lines.** It is empty if the texts are equal and only then. It
renders edits that make the lines of the new text of those of the old one. Each names its range on the
old side, and on the new side as well, unless it only removes lines at the front and the line diff
begins with an insertion. -/
theorem unifiedDelta_patch (oldText newText oldName newName : String) :
    (unifiedDelta oldText newText oldName newName = "" ↔ oldText = newText) ∧
      ∃ edits, (edits = [] ↔ oldText = newText) ∧
        unifiedDelta oldText newText oldName newName = (if edits.isEmpty then "" else
          "--- " ++ oldName ++ "\n+++ " ++ newName ++ "\n" ++ String.join (edits.map Edit.render)) ∧
        Patch (Text.lines oldText) (Text.lines newText) edits ∧
        ∀ e ∈ edits, (e.newShown ≠ e.newAt ↔ e.oldAt = 0 ∧ e.added = [] ∧
          (script (sideOf oldText) (sideOf newText)).head?.map (·.kind) = some .insert) := by
  have hpositioned := compact_positioned (sideOf oldText) (sideOf newText)
  obtain ⟨edits, hrender, hreads⟩ := hpositioned.walk.exists_edits hpositioned.solid
    hpositioned.insertion_le hpositioned.removal_le (starts_compact _ _)
  have hrendered : (hunksBetween (sideOf oldText) (sideOf newText)).map
      (·.render (sideOf oldText) (sideOf newText)) = edits.map Edit.render := hrender
  have hedits : edits = [] ↔ oldText = newText := by
    rw [← List.map_eq_nil_iff (f := Edit.render), ← hrendered, List.map_eq_nil_iff]
    constructor
    · intro hnil
      by_contra hne
      exact hunksBetween_ne_nil hne hnil
    · rintro rfl
      exact hunksBetween_self _
  have hdelta : unifiedDelta oldText newText oldName newName = (if edits.isEmpty then "" else
      "--- " ++ oldName ++ "\n+++ " ++ newName ++ "\n" ++ String.join (edits.map Edit.render)) := by
    by_cases hnil : edits = []
    · rw [hnil, List.isEmpty_nil, if_pos rfl, unifiedDelta]
      rw [hnil, List.map_nil, List.map_eq_nil_iff] at hrendered
      split
      next => rfl
      next hsome => exact absurd hrendered hsome
    · rw [List.isEmpty_eq_false_iff.mpr hnil, if_neg Bool.false_ne_true, ← hrendered, unifiedDelta]
      split
      next hnone =>
        have hrest : hunksBetween (sideOf oldText) (sideOf newText) = [] := hnone
        rw [hrest, List.map_nil, eq_comm, List.map_eq_nil_iff] at hrendered
        exact absurd hrendered hnil
      next => rfl
  refine ⟨?_, edits, hedits, hdelta, ?_, hreads.shown⟩
  · rw [hdelta, ← hedits, ← List.isEmpty_iff]
    by_cases hempty : edits.isEmpty
    · simp [hempty]
    · simp [hempty]
  · exact hreads.leads.patch hreads.apart hreads.nonempty

/-! ## Headers read back -/

/-- Lists are split in one way at the first of a character. -/
theorem append_cons_inj {c : Char} {xs ys xs' ys' : List Char} (hxs : c ∉ xs) (hxs' : c ∉ xs')
    (h : xs ++ c :: ys = xs' ++ c :: ys') : xs = xs' ∧ ys = ys' := by
  have hsplit : ∀ {zs rest : List Char}, c ∉ zs → (zs ++ c :: rest).takeWhile (· ≠ c) = zs := by
    intro zs rest hzs
    have hall : ∀ x ∈ zs, decide (x ≠ c) = true := by
      intro x hx
      exact decide_eq_true fun heq => hzs (heq ▸ hx)
    rw [List.takeWhile_append_of_pos hall, List.takeWhile_cons_of_neg (by simp), List.append_nil]
  have hfront := congrArg (List.takeWhile (· ≠ c)) h
  rw [hsplit hxs, hsplit hxs'] at hfront
  rw [hfront, List.append_cancel_left_eq] at h
  exact ⟨hfront, (List.cons.inj h).2⟩

/-- **A header names its ranges**: different ranges are shown differently. -/
theorem showRange_inj {start stop start' stop' : Nat}
    (h : showRange start stop = showRange start' stop') :
    start = start' ∧ stop - start = stop' - start' := by
  have hcomma : ∀ n : Nat, ',' ∉ (toString n).toList := fun n hmem =>
    absurd (Text.isDigit_of_mem_toString hmem) (by decide)
  have hshown : ∀ x y : Nat, (toString x ++ "," ++ toString y).toList
      = (toString x).toList ++ ',' :: (toString y).toList := by
    intro x y
    rw [String.toList_append, String.toList_append, List.append_assoc]
    rfl
  have h := congrArg String.toList h
  rw [showRange, showRange] at h
  by_cases hone : stop - start = 1 <;> by_cases hone' : stop' - start' = 1
  · rw [if_pos hone, if_pos hone'] at h
    have hstart := Text.toString_inj h
    omega
  · rw [if_pos hone, if_neg hone', hshown] at h
    refine absurd ?_ (hcomma (start + 1))
    rw [h]
    exact List.mem_append_right _ List.mem_cons_self
  · rw [if_neg hone, if_pos hone', hshown] at h
    refine absurd ?_ (hcomma (start' + 1))
    rw [← h]
    exact List.mem_append_right _ List.mem_cons_self
  · rw [if_neg hone, if_neg hone', hshown, hshown] at h
    obtain ⟨hstart, hlen⟩ := append_cons_inj (hcomma _) (hcomma _) h
    have hstart := Text.toString_inj hstart
    have hlen := Text.toString_inj hlen
    rw [hlen] at hstart
    split at hstart <;> omega

/-- **The header of an edit tells its place on the old side and the one named on the new side.** -/
theorem Edit.places_of_render {e e' : Edit} {s s' : String} (h : e.render ++ s = e'.render ++ s') :
    e.oldAt = e'.oldAt ∧ e.newShown = e'.newShown := by
  have hblank : ∀ start stop, ' ' ∉ (showRange start stop).toList := fun start stop hmem =>
    (isDigit_of_mem_showRange hmem).elim (fun hdigit => absurd hdigit (by decide))
      fun hcomma => absurd hcomma (by decide)
  have hlist : ∀ (e : Edit) (s : String), ∃ body, (e.render ++ s).toList = "@@ -".toList
      ++ ((showRange e.oldAt (e.oldAt + e.removed.length)).toList ++ ' ' :: '+'
        :: ((showRange e.newShown (e.newShown + e.added.length)).toList ++ ' ' :: body)) := by
    intro e s
    refine ⟨"@@\n".toList ++ (String.join (e.removed.map (showLine "-"))
      ++ String.join (e.added.map (showLine "+")) ++ s).toList, ?_⟩
    have hplus : " +".toList = [' ', '+'] := by decide
    have hclose : " @@\n".toList = ' ' :: "@@\n".toList := by decide
    simp only [Edit.render, String.toList_append, hplus, hclose, List.append_assoc, List.cons_append,
      List.nil_append]
  have h := congrArg String.toList h
  obtain ⟨body, hbody⟩ := hlist e s
  obtain ⟨body', hbody'⟩ := hlist e' s'
  rw [hbody, hbody', List.append_cancel_left_eq] at h
  obtain ⟨hold, hrest⟩ := append_cons_inj (hblank _ _) (hblank _ _) h
  obtain ⟨hnew, -⟩ := append_cons_inj (hblank _ _) (hblank _ _) (List.cons.inj hrest).2
  exact ⟨(showRange_inj (String.toList_inj.mp hold)).1, (showRange_inj (String.toList_inj.mp hnew)).1⟩

/-! ## A removal that is misplaced -/

/-- **A delta with a wrong place.** The first line goes and one comes at the end. The line diff finds
the insertion in front of the removal, and the header of the removal says that it follows the first
line of the new text. No patch from the one text to the other is rendered like this with right places
on the new side. -/
theorem front_removal_misplaced :
    unifiedDelta "x\ny\n" "y\ny\n" "old" "new"
        = "--- old\n+++ new\n@@ -1 +1,0 @@\n-x\n@@ -2,0 +2 @@\n+y\n" ∧
      ¬∃ edits, Patch (Text.lines "x\ny\n") (Text.lines "y\ny\n") edits ∧
        (∀ e ∈ edits, e.newShown = e.newAt) ∧
        unifiedDelta "x\ny\n" "y\ny\n" "old" "new"
          = "--- old\n+++ new\n" ++ String.join (edits.map Edit.render) := by
  have hdelta : unifiedDelta "x\ny\n" "y\ny\n" "old" "new"
      = "--- old\n+++ new\n@@ -1 +1,0 @@\n-x\n@@ -2,0 +2 @@\n+y\n" := by decide +kernel
  refine ⟨hdelta, ?_⟩
  rintro ⟨edits, hpatch, hplaces, hrender⟩
  have hfirst : "--- old\n+++ new\n@@ -1 +1,0 @@\n-x\n@@ -2,0 +2 @@\n+y\n"
      = "--- old\n+++ new\n" ++ ((Edit.mk 0 0 1 ["x\n"] []).render ++ "@@ -2,0 +2 @@\n+y\n") := by
    decide +kernel
  rw [hdelta, hfirst, String.append_right_inj] at hrender
  cases edits with
  | nil => exact absurd hrender (by decide +kernel)
  | cons e rest =>
    rw [List.map_cons, String.join_cons] at hrender
    obtain ⟨hold, hnew⟩ := Edit.places_of_render hrender
    have hplace := hpatch.first e rfl
    have hright := hplaces e List.mem_cons_self
    simp only at hold hnew
    omega

end LintGate.Diff
