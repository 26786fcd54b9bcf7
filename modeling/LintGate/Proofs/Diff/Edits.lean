/-
Hunks as edits of a list of lines.

A reader of a delta knows nothing of scripts: a hunk tells where lines stand, which ones go
and which ones come. `Edit` is what it tells, and `patched` puts edits into effect. `Leads`
says that edits lead from a place in each of two lists to the ends of both, and `Walk.exists_edits`
finds in the hunks of a walk the edits that lead to the ends of its sides.

The ranges in the header of a hunk come from the stretches around it. Behind kept lines they
are right on both sides. At the front of a script they come from the hunk's own operations,
and there `Edit.newShown`, the place that the header names on the new side, can differ from
`Edit.newAt`, the place where the lines stand.
-/
import LintGate.Proofs.Diff.Front
import LintGate.Proofs.Diff.Hunks
import Mathlib.Data.List.Chain

set_option autoImplicit false

namespace LintGate.Diff

/-! ## Edits -/

/-- A hunk as it is read. -/
structure Edit where
  /-- The old lines in front of the removed ones. -/
  oldAt : Nat
  /-- The new lines in front of the added ones. -/
  newAt : Nat
  /-- The place on the new side that the header names. -/
  newShown : Nat
  removed : List String
  added : List String

namespace Edit

/-- The hunk as a text. -/
def render (e : Edit) : String :=
  "@@ -" ++ showRange e.oldAt (e.oldAt + e.removed.length)
    ++ " +" ++ showRange e.newShown (e.newShown + e.added.length) ++ " @@\n"
    ++ String.join (e.removed.map (showLine "-")) ++ String.join (e.added.map (showLine "+"))

/-- `e` stands in front of `e'`, with as many lines between them on the one side as on the other, and at
least one. -/
def Apart (e e' : Edit) : Prop :=
  ∃ n, 0 < n ∧ e'.oldAt = e.oldAt + e.removed.length + n ∧ e'.newAt = e.newAt + e.added.length + n

end Edit

/-- Puts edits into effect on the old lines behind the first `place` ones: the lines in the range of
each are replaced by those it adds. -/
def patched (place : Nat) : List String → List Edit → List String
  | lines, [] => lines
  | lines, e :: rest =>
    lines.take (e.oldAt - place) ++ e.added
      ++ patched (e.oldAt + e.removed.length) (lines.drop (e.oldAt - place + e.removed.length)) rest

/-! ## Edits that lead from one list to another -/

/-- The edits lead from the places `i` and `j` to the ends: in front of each edit and behind the last
the lines are the same, and each edit takes the old lines for the new ones. -/
def Leads (old new : List String) : Nat → Nat → List Edit → Prop
  | i, j, [] => old.drop i = new.drop j
  | i, j, e :: rest =>
    (∃ n, e.oldAt = i + n ∧ e.newAt = j + n ∧ (old.drop i).take n = (new.drop j).take n) ∧
      (old.drop e.oldAt).take e.removed.length = e.removed ∧
      (new.drop e.newAt).take e.added.length = e.added ∧
      Leads old new (e.oldAt + e.removed.length) (e.newAt + e.added.length) rest

variable {old new : List String} {i j : Nat} {edits : List Edit}

/-- The lines behind a place are a range from there on and the lines behind it. -/
theorem drop_eq_append (lines : List String) (place n : Nat) :
    lines.drop place = (lines.drop place).take n ++ lines.drop (place + n) := by
  rw [← List.drop_drop, List.take_append_drop]

/-- **Edits that lead to the ends make the new lines of the old ones.** -/
theorem Leads.patched (h : Leads old new i j edits) :
    patched i (old.drop i) edits = new.drop j := by
  induction edits generalizing i j with
  | nil => exact h
  | cons e rest ih =>
    obtain ⟨⟨n, hold, hnew, hsame⟩, -, hadded, hrest⟩ := h
    have hgap : e.oldAt - i = n := by omega
    have hbehind : (old.drop i).drop (n + e.removed.length) = old.drop (e.oldAt + e.removed.length) := by
      rw [List.drop_drop, hold, Nat.add_assoc]
    rw [Diff.patched, hgap, hbehind, ih hrest, hsame]
    calc (new.drop j).take n ++ e.added ++ new.drop (e.newAt + e.added.length)
        = (new.drop j).take n ++ ((new.drop e.newAt).take e.added.length
            ++ new.drop (e.newAt + e.added.length)) := by rw [hadded, List.append_assoc]
      _ = (new.drop j).take n ++ new.drop (j + n) := by rw [← drop_eq_append, hnew]
      _ = new.drop j := (drop_eq_append new j n).symm

/-- What the edits add and the old list has are what they remove and the new list has. -/
theorem Leads.count_eq (h : Leads old new i j edits) (line : String) :
    (edits.flatMap (·.added)).count line + (old.drop i).count line
      = (edits.flatMap (·.removed)).count line + (new.drop j).count line := by
  induction edits generalizing i j with
  | nil => exact congrArg (0 + List.count line ·) h
  | cons e rest ih =>
    obtain ⟨⟨n, hold, hnew, hsame⟩, hremoved, hadded, hrest⟩ := h
    have hcount := ih hrest
    rw [drop_eq_append old i n, ← hold, drop_eq_append old e.oldAt e.removed.length, hremoved,
      drop_eq_append new j n, ← hnew, drop_eq_append new e.newAt e.added.length, hadded, hsame]
    simp only [List.flatMap_cons, List.count_append]
    omega

/-- Lines that are the same on both sides may stand in front. -/
theorem Leads.behind {n : Nat} (h : Leads old new (i + n) (j + n) edits)
    (hsame : (old.drop i).take n = (new.drop j).take n) : Leads old new i j edits := by
  cases edits with
  | nil =>
    have hrest : old.drop (i + n) = new.drop (j + n) := h
    rw [Leads, drop_eq_append old i n, drop_eq_append new j n, hsame, hrest]
  | cons e rest =>
    obtain ⟨⟨m, hold, hnew, hsame'⟩, hedit⟩ := h
    refine ⟨⟨n + m, by omega, by omega, ?_⟩, hedit⟩
    rw [List.take_add, List.take_add, hsame, List.drop_drop, List.drop_drop, hsame']

/-! ## Runs of a walk -/

/-- What a count comes to is at least what it is for any of the operations. -/
theorem Op.le_total {count : Op → Nat} {ops : List Op} {op : Op} (h : op ∈ ops) :
    count op ≤ Op.total count ops := by
  induction ops with
  | nil => cases h
  | cons first rest ih =>
    rw [Op.total, List.foldr_cons]
    rcases List.mem_cons.mp h with rfl | h
    · exact Nat.le_add_right _ _
    · exact Nat.le_trans (ih h) (Nat.le_add_left _ _)

section Runs

variable {a b : Array String} {i j u v : Nat} {run ops : List Op}

/-- In a run without kept lines the removals begin where the run does and cover all it passes on the old
side. -/
theorem Walk.removals (h : Walk a b i j run u v) (hrun : ∀ op ∈ run, op.kind ≠ .keep) :
    u = i + Op.total (·.oldLen) (Diff.removals run) ∧
      ∀ op ∈ (Diff.removals run).head?, op.old = i := by
  induction run generalizing i j with
  | nil => exact ⟨h.1.symm, by simp [Diff.removals]⟩
  | cons op run ih =>
    obtain ⟨hfits, hops⟩ := h
    obtain ⟨htotal, hhead⟩ := ih hops fun o ho => hrun o (List.mem_cons_of_mem _ ho)
    rcases kind_of_ne_keep (hrun op List.mem_cons_self) with hkind | hkind
    · have hold := ((fits_of_remove hkind).mp hfits).1
      have hcons : Diff.removals (op :: run) = op :: Diff.removals run := by
        simp [Diff.removals, hkind]
      rw [hcons]
      refine ⟨?_, fun o ho => ?_⟩
      · rw [Op.total, List.foldr_cons, ← Nat.add_assoc]
        exact htotal
      · rw [List.head?_cons, Option.mem_some_iff] at ho
        rw [← ho]
        exact hold
    · -- an insertion passes no old lines
      have hlen := ((fits_of_insert hkind).mp hfits).2
      rw [hlen, Nat.add_zero] at htotal hhead
      rw [removals_cons_of_ne (by simp [hkind])]
      exact ⟨htotal, hhead⟩

/-- A change removes the lines of all removals. -/
theorem Change.ofRun_oldLen (run : List Op) :
    (Change.ofRun run).oldLen = Op.total (·.oldLen) (Diff.removals run) := by
  rw [Diff.removals]
  cases hr : (run.filter (·.kind = .remove)).head? with
  | none =>
    rw [List.head?_eq_none_iff.mp hr]
    cases hi : (run.filter (·.kind = .insert)).head? <;> simp only [Change.ofRun, hi, hr] <;> rfl
  | some x =>
    cases hi : (run.filter (·.kind = .insert)).head? <;> simp only [Change.ofRun, hi, hr]

/-- A change takes its place on the old side from the first removal, if there is one. -/
theorem Change.ofRun_old {op : Op} (h : (Diff.removals run).head? = some op) :
    (Change.ofRun run).old = op.old := by
  have hr : (run.filter (·.kind = .remove)).head? = some op := h
  cases hi : (run.filter (·.kind = .insert)).head? <;> simp only [Change.ofRun, hi, hr]

/-- If there is none, it takes that place from the first insertion. -/
theorem Change.ofRun_of_insertions {op : Op} (hnone : Diff.removals run = [])
    (h : (Diff.insertions run).head? = some op) : (Change.ofRun run).old = op.old := by
  have hr : (run.filter (·.kind = .remove)).head? = none := List.head?_eq_none_iff.mpr hnone
  have hi : (run.filter (·.kind = .insert)).head? = some op := h
  simp only [Change.ofRun, hi, hr]

/-- If there are only removals, it takes its place on the new side from the first of these. -/
theorem Change.ofRun_of_removals {op : Op} (hnone : Diff.insertions run = [])
    (h : (Diff.removals run).head? = some op) : (Change.ofRun run).new = op.new := by
  have hi : (run.filter (·.kind = .insert)).head? = none := List.head?_eq_none_iff.mpr hnone
  have hr : (run.filter (·.kind = .remove)).head? = some op := h
  simp only [Change.ofRun, hi, hr]

/-- A run that passes no old lines has only insertions. -/
theorem Walk.insert_of_eq (h : Walk a b i j run i v) (hrun : ∀ op ∈ run, op.kind ≠ .keep)
    (hsolid : Solid run) {op : Op} (hop : op ∈ run) : op.kind = .insert := by
  refine (kind_of_ne_keep (hrun op hop)).resolve_left fun hremove => ?_
  obtain ⟨x, y, hfits⟩ := h.fits_of_mem hop
  have hlen := ((fits_of_remove hremove).mp hfits).2
  have htotal := (h.removals hrun).1
  have hle : op.oldLen ≤ Op.total (·.oldLen) (Diff.removals run) :=
    Op.le_total (List.mem_filter.mpr ⟨hop, by simp [hremove]⟩)
  have hpos := hsolid op hop
  omega

/-- And a run that passes no new lines only removals. -/
theorem Walk.remove_of_eq (h : Walk a b i j run u j) (hrun : ∀ op ∈ run, op.kind ≠ .keep)
    (hsolid : Solid run) {op : Op} (hop : op ∈ run) : op.kind = .remove := by
  refine (kind_of_ne_keep (hrun op hop)).resolve_right fun hinsert => ?_
  obtain ⟨x, y, hfits⟩ := h.fits_of_mem hop
  have hlen := ((fits_of_insert hinsert).mp hfits).2
  have htotal := (h.insertions hrun).1
  have hle : op.newLen ≤ Op.total (·.newLen) (Diff.insertions run) :=
    Op.le_total (List.mem_filter.mpr ⟨hop, by simp [hinsert]⟩)
  have hpos := hsolid op hop
  omega

/-- **The place of a change on the old side** is that of the walk, if it removes lines. Otherwise it is
what the first insertion says. -/
theorem Walk.change_old {op : Op} {rest : List Op} (h : Walk a b i j (op :: rest) u v)
    (hrun : ∀ o ∈ op :: rest, o.kind ≠ .keep) (hsolid : Solid (op :: rest)) :
    (i < u ∧ (Change.ofRun (op :: rest)).old = i) ∨
      (u = i ∧ (∀ o ∈ op :: rest, o.kind = .insert) ∧ (Change.ofRun (op :: rest)).old = op.old) := by
  obtain ⟨htotal, hhead⟩ := h.removals hrun
  cases hfirst : (Diff.removals (op :: rest)).head? with
  | none =>
    have hnil := List.head?_eq_none_iff.mp hfirst
    rw [hnil, Op.total, List.foldr_nil, Nat.add_zero] at htotal
    subst htotal
    have hinsert : ∀ o ∈ op :: rest, o.kind = .insert := fun o ho => h.insert_of_eq hrun hsolid ho
    refine .inr ⟨rfl, hinsert, Change.ofRun_of_insertions hnil ?_⟩
    rw [Diff.insertions, List.filter_cons_of_pos (by simp [hinsert op List.mem_cons_self])]
    rfl
  | some x =>
    refine .inl ⟨?_, (Change.ofRun_old hfirst).trans (hhead x hfirst)⟩
    have hne : u ≠ i := by
      rintro rfl
      obtain ⟨hx, hremove⟩ := List.mem_filter.mp (List.mem_of_mem_head? hfirst)
      have hinsert := h.insert_of_eq hrun hsolid hx
      simp [hinsert] at hremove
    omega

/-- **The place of a change on the new side** is that of the walk, if it adds lines. Otherwise it is
what the first removal says. -/
theorem Walk.change_new {op : Op} {rest : List Op} (h : Walk a b i j (op :: rest) u v)
    (hrun : ∀ o ∈ op :: rest, o.kind ≠ .keep) (hsolid : Solid (op :: rest)) :
    (j < v ∧ (Change.ofRun (op :: rest)).new = j) ∨
      (v = j ∧ op.kind = .remove ∧ (Change.ofRun (op :: rest)).new = op.new) := by
  obtain ⟨htotal, hhead⟩ := h.insertions hrun
  cases hfirst : (Diff.insertions (op :: rest)).head? with
  | none =>
    have hnil := List.head?_eq_none_iff.mp hfirst
    rw [hnil, Op.total, List.foldr_nil, Nat.add_zero] at htotal
    subst htotal
    have hremove := h.remove_of_eq hrun hsolid List.mem_cons_self
    refine .inr ⟨rfl, hremove, Change.ofRun_of_removals hnil ?_⟩
    rw [Diff.removals, List.filter_cons_of_pos (by simp [hremove])]
    rfl
  | some x =>
    refine .inl ⟨?_, (Change.ofRun_new hfirst).trans (hhead x hfirst)⟩
    have hne : v ≠ j := by
      rintro rfl
      obtain ⟨hx, hinsert⟩ := List.mem_filter.mp (List.mem_of_mem_head? hfirst)
      have hremove := h.remove_of_eq hrun hsolid hx
      simp [hremove] at hinsert
    omega

/-- The change of a run lists all old lines that the run passes. -/
theorem Walk.removed_eq (h : Walk a b i j run u v) (hrun : ∀ op ∈ run, op.kind ≠ .keep) :
    linesOf a (Change.ofRun run).old (Change.ofRun run).oldLen = linesOf a i (u - i) := by
  obtain ⟨htotal, hhead⟩ := h.removals hrun
  have hlen : u - i = Op.total (·.oldLen) (Diff.removals run) := by omega
  rw [Change.ofRun_oldLen, hlen]
  cases hfirst : (Diff.removals run).head? with
  | none =>
    have hnil : Diff.removals run = [] := List.head?_eq_none_iff.mp hfirst
    rw [hnil, Op.total, List.foldr_nil, linesOf_zero, linesOf_zero]
  | some x => rw [Change.ofRun_old hfirst, hhead x hfirst]

/-- The kept lines at the front of a walk lead to where the kept run ends. -/
theorem Walk.keptLen_eq (h : Walk a b i j (ops.takeWhile (·.kind = .keep)) u v) :
    u = i + keptLen ops ∧ v = j + keptLen ops := by
  induction ops generalizing i j with
  | nil => exact ⟨h.1.symm, h.2.symm⟩
  | cons op ops ih =>
    by_cases hop : op.kind = .keep
    · rw [List.takeWhile_cons_of_pos (by simp [hop])] at h
      obtain ⟨hfits, hops⟩ := h
      have hlen := ((fits_of_keep hop).mp hfits).2.2.1
      have hrest := ih hops
      rw [keptLen, if_pos hop]
      omega
    · rw [List.takeWhile_cons_of_neg (by simp [hop])] at h
      rw [keptLen, if_neg hop]
      exact ⟨h.1.symm, h.2.symm⟩

/-! ## Headers -/

theorem length_linesOf (side : Array String) {start stop : Nat} (h : stop ≤ side.size) :
    (linesOf side start (stop - start)).length = stop - start := by
  rw [linesOf, List.length_take, List.length_drop, Array.length_toList]
  omega

/-- A range is shown by its start and its length. -/
theorem showRange_congr {start stop stop' : Nat} (h : stop - start = stop' - start) :
    showRange start stop = showRange start stop' := by
  simp only [showRange, h]

/-- A hunk reads as an edit where its old range is that of the lines it removes, and its new range as
long as the lines it adds. -/
theorem Hunk.render_eq {h : Hunk} (hu : u ≤ a.size) (hv : v ≤ b.size) (hfrom : h.oldFrom = i)
    (hto : h.oldTo - i = u - i) (hnew : h.newTo - h.newFrom = v - j)
    (hremoved : linesOf a h.change.old h.change.oldLen = linesOf a i (u - i))
    (hadded : linesOf b h.change.new h.change.newLen = linesOf b j (v - j)) :
    h.render a b
      = (Edit.mk i j h.newFrom (linesOf a i (u - i)) (linesOf b j (v - j))).render := by
  have hold : showRange h.oldFrom h.oldTo = showRange i (i + (u - i)) := by
    rw [hfrom]
    exact showRange_congr (by omega)
  have hadd : showRange h.newFrom h.newTo = showRange h.newFrom (h.newFrom + (v - j)) :=
    showRange_congr (by omega)
  rw [Hunk.render, Edit.render, hremoved, hadded, length_linesOf a hu, length_linesOf b hv, hold, hadd]

/-! ## The hunks of a walk -/

/-- Where a script that does not begin by keeping lines starts: behind kept lines, or at the starts of
both sides. There the first run stands at the start of the old side unless the first old line is
removed, and the first removal is found at the start of the new side or stale. -/
def Starts (stale : Prop) (previous : Option Stretch) (i j : Nat) (ops : List Op) : Prop :=
  ops ≠ [] → ¬BeginsKept ops →
    (previous.map Stretch.stop = some (i, j) ∧ 0 < i) ∨
      (previous = none ∧ i = 0 ∧ j = 0 ∧
        (firstStay ops = some .remove ∨ ∀ op ∈ ops.head?, op.old = 0) ∧
        ∀ op ∈ (Diff.removals ops).head?, (op.new ≠ 0 ↔ stale))

/-- Behind a change the lines are kept, or there are none. -/
theorem beginsKept_behind {rest : List Op} (h : rest.dropWhile (·.kind ≠ .keep) ≠ []) :
    BeginsKept (rest.dropWhile (·.kind ≠ .keep)) := by
  have hhead := List.head_dropWhile_not (fun op : Op => decide (op.kind ≠ .keep)) h
  refine ⟨_, List.head?_eq_some_head h, ?_⟩
  simpa using hhead

/-- The stretch that follows a change begins where the change ends. -/
theorem Walk.start_stretches (h : Walk a b i j ops u v) (hkept : BeginsKept ops) :
    (stretches ops).head?.map Stretch.start = some (i, j) := by
  obtain ⟨op, hop, hkeep⟩ := hkept
  obtain ⟨rest, rfl⟩ := List.head?_eq_some_iff.mp hop
  obtain ⟨hold, hnew, -⟩ := (fits_of_keep hkeep).mp h.1
  rw [stretches, if_pos hkeep, List.head?_cons, Option.map_some, Stretch.start, hold, hnew]

/-- Nothing is removed in front of the first kept run if the run there only inserts. -/
theorem firstStay_ne_remove {ops : List Op}
    (h : ∀ o ∈ ops.takeWhile (·.kind ≠ .keep), o.kind = .insert) : firstStay ops ≠ some .remove := by
  induction ops with
  | nil => exact fun hnone => by cases hnone
  | cons op ops ih =>
    rw [firstStay]
    by_cases hop : op.kind = .keep
    · simp [hop]
    · rw [List.takeWhile_cons_of_pos (by simp [hop])] at h
      rw [if_pos (h op List.mem_cons_self)]
      exact ih fun o ho => h o (List.mem_cons_of_mem op ho)

/-- **Where the ranges of a hunk begin.** On the old side that is right. On the new side it is, or the
hunk stands at the front and takes its place from its own operations. -/
theorem Starts.from {stale : Prop} {previous : Option Stretch} {op : Op} {rest : List Op} {c : Change}
    (hstart : Starts stale previous i j (op :: rest)) (hop : op.kind ≠ .keep)
    (hold : (i < u ∧ c.old = i) ∨
      (u = i ∧ (∀ o ∈ op :: rest.takeWhile (·.kind ≠ .keep), o.kind = .insert) ∧ c.old = op.old))
    (hnew : (j < v ∧ c.new = j) ∨ (v = j ∧ op.kind = .remove ∧ c.new = op.new)) {oldFrom newFrom : Nat}
    (hfrom : (previous.map Stretch.stop).getD (Stretch.change c).start = (oldFrom, newFrom)) :
    oldFrom = i ∧ (newFrom = j ∨ (newFrom = c.new ∧ j = 0)) ∧
      (newFrom ≠ j ↔ i = 0 ∧ v = j ∧ stale) := by
  have hunkept : ¬BeginsKept (op :: rest) := by
    rintro ⟨first, hfirst, hkeep⟩
    exact hop (Option.some.inj hfirst ▸ hkeep)
  rcases hstart (List.cons_ne_nil op rest) hunkept with ⟨hstop, hpos⟩ | ⟨rfl, rfl, rfl, hfront, hfirst⟩
  · rw [hstop, Option.getD_some] at hfrom
    obtain ⟨rfl, rfl⟩ := Prod.mk.inj hfrom
    refine ⟨rfl, .inl rfl, fun hne => absurd rfl hne, fun h => ?_⟩
    omega
  · rw [Option.map_none, Option.getD_none] at hfrom
    obtain ⟨rfl, rfl⟩ := Prod.mk.inj hfrom
    refine ⟨?_, .inr ⟨rfl, rfl⟩, ?_⟩
    · rcases hold with ⟨-, hold⟩ | ⟨-, hinsert, hold⟩
      · exact hold
      · have hrun : (op :: rest).takeWhile (·.kind ≠ .keep) = op :: rest.takeWhile (·.kind ≠ .keep) :=
          List.takeWhile_cons_of_pos (by simp [hop])
        have hplace := hfront.resolve_left (firstStay_ne_remove (hrun ▸ hinsert))
        exact hold.trans (hplace op rfl)
    · rcases hnew with ⟨hlt, hnew⟩ | ⟨rfl, hremove, hnew⟩
      · rw [hnew]
        omega
      · have hhead : op ∈ (Diff.removals (op :: rest)).head? := by
          rw [Diff.removals, List.filter_cons_of_pos (by simp [hremove])]
          rfl
        rw [hnew, hfirst op hhead]
        simp

/-- **Where they end.** The old range has the lines that the hunk removes, and the new one as many as it
adds. -/
theorem Walk.to {op : Op} {rest : List Op} {c : Change} {oldTo newFrom newTo : Nat}
    (hrest : Walk a b u v rest a.size b.size) (hkept : rest ≠ [] → BeginsKept rest)
    (hinsert : op.kind = .insert → op.old ≤ a.size) (hremove : op.kind = .remove → op.new ≤ b.size)
    (hold : (i < u ∧ c.old = i) ∨ (u = i ∧ op.kind = .insert ∧ c.old = op.old))
    (hnew : (j < v ∧ c.new = j) ∨ (v = j ∧ op.kind = .remove ∧ c.new = op.new))
    (holdLen : u = i + c.oldLen) (hnewLen : v = j + c.newLen)
    (hfrom : newFrom = j ∨ (newFrom = c.new ∧ j = 0))
    (hto : ((stretches rest).head?.map Stretch.start).getD (Stretch.change c).stop = (oldTo, newTo)) :
    oldTo - i = u - i ∧ newTo - newFrom = v - j := by
  by_cases hnil : rest = []
  · -- the hunk reaches the ends of both sides
    subst hnil
    obtain ⟨hu, hv⟩ := hrest
    rw [stretches, List.head?_nil, Option.map_none, Option.getD_none] at hto
    obtain ⟨rfl, rfl⟩ := Prod.mk.inj hto
    refine ⟨?_, ?_⟩
    · rcases hold with ⟨-, hold⟩ | ⟨heq, hkind, hold⟩
      · omega
      · have hle := hinsert hkind
        omega
    · rcases hnew with ⟨-, hnew⟩ | ⟨heq, hkind, hnew⟩
      · omega
      · have hle := hremove hkind
        omega
  · rw [hrest.start_stretches (hkept hnil), Option.getD_some] at hto
    obtain ⟨rfl, rfl⟩ := Prod.mk.inj hto
    omega

/-- **The first hunk of a walk that begins by changing lines** reads as the edit of the lines that its run
passes. The place named on the new side is the right one but for a removal at the front whose place is
stale. -/
theorem Walk.first_hunk {stale : Prop} {previous : Option Stretch} {op : Op} {rest : List Op}
    (h : Walk a b i j (op :: rest) a.size b.size) (hop : op.kind ≠ .keep) (hsolid : Solid (op :: rest))
    (hinsert : op.kind = .insert → op.old ≤ a.size) (hremove : op.kind = .remove → op.new ≤ b.size)
    (hstart : Starts stale previous i j (op :: rest)) :
    ∃ u v shown hunk, Walk a b u v (rest.dropWhile (·.kind ≠ .keep)) a.size b.size ∧
      (i ≤ u ∧ u ≤ a.size ∧ j ≤ v ∧ v ≤ b.size) ∧ (i < u ∨ j < v) ∧
      hunksAfter previous
          (.change (.ofRun (op :: rest.takeWhile (·.kind ≠ .keep)))
            :: stretches (rest.dropWhile (·.kind ≠ .keep)))
        = hunk :: hunksAfter (some (.change (.ofRun (op :: rest.takeWhile (·.kind ≠ .keep)))))
            (stretches (rest.dropWhile (·.kind ≠ .keep))) ∧
      hunk.render a b
        = (Edit.mk i j shown (linesOf a i (u - i)) (linesOf b j (v - j))).render ∧
      (shown ≠ j ↔ i = 0 ∧ v = j ∧ stale) := by
  obtain ⟨u, v, hrun, hrest⟩ := h.behind_run (·.kind ≠ .keep)
  have hkinds : ∀ o ∈ op :: rest.takeWhile (·.kind ≠ .keep), o.kind ≠ .keep :=
    fun o ho => of_mem_run (·.kind ≠ .keep) hop ho
  have hsolid' : Solid (op :: rest.takeWhile (·.kind ≠ .keep)) := fun o ho =>
    hsolid o (((List.takeWhile_sublist _).cons_cons op).subset ho)
  have hle := hrun.le
  have hle' := hrest.le
  have hpos := hsolid op List.mem_cons_self
  have hpass : i + op.oldLen ≤ u ∧ j + op.newLen ≤ v := hrun.2.le
  -- what the change says of its places
  have hremoved := hrun.removed_eq hkinds
  have hadded := hrun.added_eq hkinds
  have hold := hrun.change_old hkinds hsolid'
  have hnew := hrun.change_new hkinds hsolid'
  have holdLen := (hrun.removals hkinds).1
  have hnewLen := (hrun.insertions hkinds).1
  rw [← Change.ofRun_oldLen] at holdLen
  rw [← Change.ofRun_newLen] at hnewLen
  generalize Change.ofRun (op :: rest.takeWhile (·.kind ≠ .keep)) = c at *
  -- the stretches around it say where its ranges begin and end
  obtain ⟨oldFrom, newFrom, hfrom⟩ : ∃ x y,
    (previous.map Stretch.stop).getD (Stretch.change c).start = (x, y) := ⟨_, _, rfl⟩
  obtain ⟨oldTo, newTo, hto⟩ : ∃ x y, ((stretches (rest.dropWhile (·.kind ≠ .keep))).head?.map
    Stretch.start).getD (Stretch.change c).stop = (x, y) := ⟨_, _, rfl⟩
  obtain ⟨hfromOld, hfromNew, hstale⟩ := hstart.from hop hold hnew hfrom
  obtain ⟨htoOld, htoNew⟩ := hrest.to beginsKept_behind hinsert hremove
    (hold.imp_right fun ⟨heq, hkind, hplace⟩ => ⟨heq, hkind op List.mem_cons_self, hplace⟩) hnew
    holdLen hnewLen hfromNew hto
  refine ⟨u, v, newFrom, ⟨c, oldFrom, oldTo, newFrom, newTo⟩, hrest, ⟨hle.1, hle'.1, hle.2, hle'.2⟩,
    by omega, ?_, ?_, hstale⟩
  · rw [hunksAfter, hfrom, hto]
  · exact Hunk.render_eq hle'.1 hle'.2 hfromOld htoOld htoNew hremoved hadded

/-- What the edits say for which the hunks of a walk stand that ends where both sides do. -/
structure Reads (stale : Prop) (a b : Array String) (i j : Nat) (ops : List Op) (edits : List Edit) :
    Prop where
  leads : Leads a.toList b.toList i j edits
  /-- They stand behind kept lines that the walk begins with. -/
  gap : BeginsKept ops → ∀ e ∈ edits.head?, i < e.oldAt
  apart : edits.IsChain Edit.Apart
  nonempty : ∀ e ∈ edits, e.removed ≠ [] ∨ e.added ≠ []
  /-- The place named on the new side is the right one but for a removal at the front whose place is
  stale. -/
  shown : ∀ e ∈ edits, (e.newShown ≠ e.newAt ↔ e.oldAt = 0 ∧ e.added = [] ∧ stale)

variable {stale : Prop} {edits : List Edit}

/-- Kept lines in front change nothing of them. -/
theorem Reads.behind {n : Nat} {ops' : List Op} (h : Reads stale a b (i + n) (j + n) ops' edits)
    (hn : 0 < n) (hsame : linesOf a i n = linesOf b j n) : Reads stale a b i j ops edits where
  leads := h.leads.behind hsame
  gap := by
    intro _ e he
    obtain ⟨es, rfl⟩ := List.head?_eq_some_iff.mp he
    obtain ⟨⟨m, hat, -⟩, -⟩ := h.leads
    omega
  apart := h.apart
  nonempty := h.nonempty
  shown := h.shown

/-- The edit of the lines that a changing run passes, in front of those for the kept lines behind it. -/
theorem Reads.cons {rest : List Op} {shown : Nat} (h : Reads stale a b u v rest edits)
    (hrest : edits ≠ [] → BeginsKept rest) (hops : ¬BeginsKept ops)
    (hwithin : i ≤ u ∧ u ≤ a.size ∧ j ≤ v ∧ v ≤ b.size) (hpass : i < u ∨ j < v)
    (hshown : shown ≠ j ↔ i = 0 ∧ v = j ∧ stale) :
    Reads stale a b i j ops (⟨i, j, shown, linesOf a i (u - i), linesOf b j (v - j)⟩ :: edits) := by
  obtain ⟨hiu, hu, hjv, hv⟩ := hwithin
  have hremoved : (linesOf a i (u - i)).length = u - i := length_linesOf a hu
  have hadded : (linesOf b j (v - j)).length = v - j := length_linesOf b hv
  have hu' : i + (u - i) = u := Nat.add_sub_cancel' hiu
  have hv' : j + (v - j) = v := Nat.add_sub_cancel' hjv
  refine ⟨⟨⟨0, rfl, rfl, rfl⟩, ?_, ?_, ?_⟩, fun hkept => absurd hkept hops, ?_, fun e he => ?_,
    fun e he => ?_⟩
  · rw [hremoved]
    rfl
  · rw [hadded]
    rfl
  · simp only [hremoved, hadded, hu', hv']
    exact h.leads
  · refine List.isChain_cons.mpr ⟨fun e he => ?_, h.apart⟩
    obtain ⟨es, rfl⟩ := List.head?_eq_some_iff.mp he
    have hlt := h.gap (hrest (List.cons_ne_nil e es)) e he
    obtain ⟨⟨n, hat, hat', -⟩, -⟩ := h.leads
    refine ⟨n, by omega, ?_, ?_⟩
    · simp only [hremoved, hu', hat]
    · simp only [hadded, hv', hat']
  · rcases List.mem_cons.mp he with rfl | he
    · rw [← List.length_pos_iff, ← List.length_pos_iff]
      simp only [hremoved, hadded]
      omega
    · exact h.nonempty e he
  · rcases List.mem_cons.mp he with rfl | he
    · rw [← List.length_eq_zero_iff]
      simp only [hadded]
      rw [hshown]
      refine ⟨fun h => ⟨h.1, by omega, h.2.2⟩, fun h => ⟨h.1, by omega, h.2.2⟩⟩
    · exact h.shown e he

/-- **The hunks of a walk read as edits that lead to the ends of its sides.** -/
theorem Walk.exists_edits {previous : Option Stretch} (h : Walk a b i j ops a.size b.size)
    (hsolid : Solid ops) (hinsert : ∀ op ∈ ops, op.kind = .insert → op.old ≤ a.size)
    (hremove : ∀ op ∈ ops, op.kind = .remove → op.new ≤ b.size) (hstart : Starts stale previous i j ops) :
    ∃ edits, (hunksAfter previous (stretches ops)).map (·.render a b) = edits.map Edit.render ∧
      Reads stale a b i j ops edits := by
  fun_induction stretches ops generalizing i j previous with
  | case1 =>
    obtain ⟨rfl, rfl⟩ := h
    refine ⟨[], rfl, ?_, by simp, .nil, by simp, by simp⟩
    rw [Leads, ← Array.length_toList, ← Array.length_toList, List.drop_length, List.drop_length]
  | case2 op rest hop ih =>
    -- the kept run leads on, and what follows starts behind it
    have hrun : (op :: rest).takeWhile (·.kind = .keep) = op :: rest.takeWhile (·.kind = .keep) :=
      List.takeWhile_cons_of_pos (by simp [hop])
    obtain ⟨u, v, hkept, hrest⟩ := h.behind_run (·.kind = .keep)
    have hlen := Walk.keptLen_eq (hrun ▸ hkept)
    have hsame := hkept.linesOf_eq fun o ho => of_mem_run (·.kind = .keep) hop ho
    obtain ⟨hold, hnew, hequal, -⟩ := (fits_of_keep hop).mp h.1
    have hpos : 0 < keptLen (op :: rest) := by
      have hsome := hsolid op List.mem_cons_self
      rw [keptLen, if_pos hop]
      omega
    have hmem : ∀ o ∈ rest.dropWhile (·.kind = .keep), o ∈ op :: rest := fun o ho =>
      List.mem_cons_of_mem op ((List.dropWhile_sublist _).subset ho)
    have hstart' : Starts stale (some (.equal op.old op.new (keptLen (op :: rest)))) u v
        (rest.dropWhile (·.kind = .keep)) := by
      intro _ _
      refine .inl ⟨?_, by omega⟩
      rw [Option.map_some, Stretch.stop, hold, hnew, hlen.1, hlen.2]
    obtain ⟨edits, hrender, hreads⟩ := ih hrest (fun o ho => hsolid o (hmem o ho))
      (fun o ho => hinsert o (hmem o ho)) (fun o ho => hremove o (hmem o ho)) hstart'
    rw [hlen.1, hlen.2] at hreads
    rw [hlen.1, hlen.2, Nat.add_sub_cancel_left, Nat.add_sub_cancel_left] at hsame
    exact ⟨edits, hrender, hreads.behind hpos hsame⟩
  | case3 op rest hop ih =>
    obtain ⟨u, v, shown, hunk, hrest, hwithin, hpass, hhunks, hread, hstale⟩ :=
      h.first_hunk hop hsolid (hinsert op List.mem_cons_self) (hremove op List.mem_cons_self) hstart
    have hmem : ∀ o ∈ rest.dropWhile (·.kind ≠ .keep), o ∈ op :: rest := fun o ho =>
      List.mem_cons_of_mem op ((List.dropWhile_sublist _).subset ho)
    obtain ⟨edits, hrender, hreads⟩ := ih hrest (fun o ho => hsolid o (hmem o ho))
      (fun o ho => hinsert o (hmem o ho)) (fun o ho => hremove o (hmem o ho))
      (fun hne hkept => absurd (beginsKept_behind hne) hkept)
    refine ⟨⟨i, j, shown, linesOf a i (u - i), linesOf b j (v - j)⟩ :: edits, ?_,
      hreads.cons (fun hedits => beginsKept_behind ?_) ?_ hwithin hpass hstale⟩
    · rw [hhunks, List.map_cons, List.map_cons, hread, hrender]
    · -- there is an edit in what follows, so there is something
      intro hnil
      rw [hnil, stretches, hunksAfter, List.map_nil, eq_comm, List.map_eq_nil_iff] at hrender
      exact hedits hrender
    · rintro ⟨first, hfirst, hkeep⟩
      exact hop (Option.some.inj hfirst ▸ hkeep)

end Runs

end LintGate.Diff
