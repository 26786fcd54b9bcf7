/-
The middle of a path of deletions.

Where the new lines are a sublist of the old ones, the search for the middle of an edit path
finds one among deletions. Both searches keep the furthest column of every diagonal, but only
one diagonal matters: with `d` edits the diagonal `d` is reached by deletions alone, and no
diagonal beyond it is reached at all. It is the first that a round looks at, so that what the
round does with the others is of no account (`Grid.forwardRound_above`).

The searches compare their frontiers only where they have all deletions between them, and there
they meet at once (`Grid.search_divides`). So the middle divides both sides into parts that are
again sublists, and it is a proper division.
-/
import LintGate.Proofs.Diff.Walk
import LintGate.Proofs.Diff.Reach

set_option autoImplicit false

namespace LintGate.Diff

/-! ## Frontiers -/

namespace Frontier

/-- A frontier for diagonals of size up to `bound`. -/
structure Spans (f : Frontier) (bound : Nat) : Prop where
  offset : f.offset = bound
  size : f.columns.size = 2 * bound + 1

theorem spans_start (bound : Nat) : (start bound).Spans bound :=
  ⟨rfl, Array.size_replicate⟩

theorem get_start (bound : Nat) (k : Int) : (start bound).get k = 0 := by
  rw [get, start]
  simp only [Array.getElem?_replicate]
  split <;> rfl

variable {f : Frontier} {bound : Nat}

theorem Spans.set (h : f.Spans bound) (k x : Int) : (f.set k x).Spans bound := by
  refine ⟨h.offset, ?_⟩
  rw [Frontier.set, Array.size_setIfInBounds]
  exact h.size

theorem Spans.get_set (h : f.Spans bound) {k : Int} (hk : k.natAbs ≤ bound) (x : Int) :
    (f.set k x).get k = x := by
  have hoffset := h.offset
  have hsize := h.size
  rw [Frontier.get, Frontier.set, Array.getElem?_setIfInBounds_self_of_lt (by omega)]
  rfl

/-- A diagonal in front of others is not touched when these are set. -/
theorem Spans.get_set_of_lt (h : f.Spans bound) {k k' : Int} (hk : k < k') (hk' : 0 < k' + bound)
    (x : Int) : (f.set k x).get k' = f.get k' := by
  have hoffset := h.offset
  simp only [Frontier.get, Frontier.set]
  rw [Array.getElem?_setIfInBounds_ne (by omega)]

/-- A path enters the outermost diagonal with a deletion from the one before it. -/
theorem enter_self_succ (f : Frontier) (d : Nat) : f.enter (d + 1 : Nat) (d + 1 : Nat) = f.get d + 1 := by
  rw [enter, if_neg (by omega)]
  congr 2
  omega

theorem enter_self_zero (f : Frontier) : f.enter (0 : Nat) (0 : Nat) = f.get 1 := by
  rw [enter, if_pos (by simp)]
  rfl

end Frontier

/-! ## Searches on the diagonal of deletions -/

/-- What a search is about to do with `d` edits on the diagonal of deletions. -/
structure Ready {α : Type} (as bs : List α) (bound d : Nat) (f : Frontier) (x : Nat) : Prop where
  spans : f.Spans bound
  within : d < bound
  enters : Enters as bs d x
  enter : f.enter d d = x

theorem ready_start {α : Type} (as bs : List α) {bound : Nat} (h : 0 < bound) :
    Ready as bs bound 0 (Frontier.start bound) 0 where
  spans := Frontier.spans_start bound
  within := h
  enters := enters_zero as bs
  enter := by
    have hzero := Frontier.enter_self_zero (Frontier.start bound)
    rw [Frontier.get_start] at hzero
    exact hzero

/-- Behind a round the frontier has the furthest column of deletions, and the next round starts from
there. -/
theorem Ready.next {α : Type} {as bs : List α} {bound d x run : Nat} {f f' : Frontier}
    (h : Ready as bs bound d f x) (hrun : Runs as bs x (x - d) run) (hspans : f'.Spans bound)
    (hget : f'.get d = (x + run : Nat)) (hd : bs.length + d < as.length) (hbound : d + 1 < bound) :
    Ready as bs bound (d + 1) f' (x + run + 1) where
  spans := hspans
  within := hbound
  enters := (h.enters.reach hrun).next hd
  enter := by rw [Frontier.enter_self_succ, hget, Int.natCast_add_one]

/-! ## The sides of a grid -/

variable {α : Type}

/-- The lines of a side from one place to another. -/
def between (side : Array α) (i j : Nat) : List α := (side.toList.drop i).take (j - i)

theorem length_between (side : Array α) {i j : Nat} (h : j ≤ side.size) :
    (between side i j).length = j - i := by
  rw [between, List.length_take, List.length_drop, Array.length_toList]
  omega

theorem getElem?_between (side : Array α) {i j k : Nat} (hk : k < j - i) :
    (between side i j)[k]? = side[i + k]? := by
  rw [between, List.getElem?_take, if_pos hk, List.getElem?_drop, Array.getElem?_toList]

theorem drop_between (side : Array α) (i j n : Nat) :
    (between side i j).drop n = between side (i + n) j := by
  rw [between, between, List.drop_take, List.drop_drop, Nat.sub_add_eq]

theorem take_between (side : Array α) {i j n : Nat} (hn : n ≤ j - i) :
    (between side i j).take n = between side i (i + n) := by
  rw [between, between, List.take_take, Nat.min_eq_left hn, Nat.add_sub_cancel_left]

namespace Grid

variable {g : Grid α} {x y : Nat}

/-- The old and the new lines of a grid. -/
def olds (g : Grid α) : List α := between g.a g.a₀ g.a₁

def news (g : Grid α) : List α := between g.b g.b₀ g.b₁

/-- The ranges lie within their sides. -/
structure Inside (g : Grid α) : Prop where
  old_le : g.a₁ ≤ g.a.size
  new_le : g.b₁ ≤ g.b.size

theorem Inside.length_olds (h : g.Inside) : g.olds.length = g.width := length_between g.a h.old_le

theorem Inside.length_news (h : g.Inside) : g.news.length = g.height := length_between g.b h.new_le

theorem getElem?_olds (h : x < g.width) : g.olds[x]? = g.a[g.a₀ + x]? := getElem?_between g.a h

theorem getElem?_news (h : y < g.height) : g.news[y]? = g.b[g.b₀ + y]? := getElem?_between g.b h

/-- Counted from the end. -/
theorem Inside.getElem?_olds_reverse (h : g.Inside) (hx : x < g.width) :
    g.olds.reverse[x]? = g.a[g.a₀ + g.width - 1 - x]? := by
  have hlen := h.length_olds
  rw [List.getElem?_reverse (by omega), hlen, getElem?_olds (by omega)]
  congr 1
  omega

theorem Inside.getElem?_news_reverse (h : g.Inside) (hy : y < g.height) :
    g.news.reverse[y]? = g.b[g.b₀ + g.height - 1 - y]? := by
  have hlen := h.length_news
  rw [List.getElem?_reverse (by omega), hlen, getElem?_news (by omega)]
  congr 1
  omega

variable [DecidableEq α]

/-- The run that a search from the start keeps. -/
def startRun (g : Grid α) (x y : Nat) : Nat :=
  if x < g.width ∧ y < g.height then commonStart g.a g.b (g.a₀ + x) g.a₁ (g.b₀ + y) g.b₁ else 0

theorem Inside.runs_startRun (h : g.Inside) (hx : x ≤ g.width) (hy : y ≤ g.height) :
    Runs g.olds g.news x y (g.startRun x y) := by
  have holds := h.length_olds
  have hnews := h.length_news
  unfold startRun
  split
  next hinside =>
    have hle := commonStart_le g.a g.b (g.a₀ + x) g.a₁ (g.b₀ + y) g.b₁
    have hagree := agree_commonStart g.a g.b (g.a₀ + x) g.a₁ (g.b₀ + y) g.b₁
    have hstops := commonStart_stops g.a g.b (g.a₀ + x) g.a₁ (g.b₀ + y) g.b₁
    generalize commonStart g.a g.b (g.a₀ + x) g.a₁ (g.b₀ + y) g.b₁ = run at *
    have hwidth : g.width = g.a₁ - g.a₀ := rfl
    have hheight : g.height = g.b₁ - g.b₀ := rfl
    refine ⟨fun k hk => ?_, by omega, by omega, fun hold hnew => ?_⟩
    · rw [getElem?_olds (by omega), getElem?_news (by omega), ← Nat.add_assoc, ← Nat.add_assoc]
      exact hagree k hk
    · rw [getElem?_olds (by omega), getElem?_news (by omega), ← Nat.add_assoc, ← Nat.add_assoc]
      exact hstops (by omega) (by omega)
  next =>
    refine ⟨fun k hk => absurd hk (Nat.not_lt_zero k), by omega, by omega, fun hold hnew => ?_⟩
    omega

/-- The run that a search from the end keeps. -/
def endRun (g : Grid α) (x y : Nat) : Nat :=
  if x < g.width ∧ y < g.height then
    commonEnd g.a g.b g.a₀ (g.a₀ + g.width - x) g.b₀ (g.b₀ + g.height - y)
  else 0

theorem Inside.runs_endRun (h : g.Inside) (hx : x ≤ g.width) (hy : y ≤ g.height) :
    Runs g.olds.reverse g.news.reverse x y (g.endRun x y) := by
  have holds : g.olds.reverse.length = g.width := by rw [List.length_reverse, h.length_olds]
  have hnews : g.news.reverse.length = g.height := by rw [List.length_reverse, h.length_news]
  unfold endRun
  split
  next hinside =>
    have hle := commonEnd_le g.a g.b g.a₀ (g.a₀ + g.width - x) g.b₀ (g.b₀ + g.height - y)
    have hagree := agree_commonEnd g.a g.b g.a₀ (g.a₀ + g.width - x) g.b₀ (g.b₀ + g.height - y)
    have hstops := commonEnd_stops g.a g.b g.a₀ (g.a₀ + g.width - x) g.b₀ (g.b₀ + g.height - y)
    generalize commonEnd g.a g.b g.a₀ (g.a₀ + g.width - x) g.b₀ (g.b₀ + g.height - y) = run at *
    refine ⟨fun k hk => ?_, by omega, by omega, fun hold hnew => ?_⟩
    · have hsame := hagree (run - 1 - k) (by omega)
      rw [h.getElem?_olds_reverse (by omega), h.getElem?_news_reverse (by omega)]
      have ha : g.a₀ + g.width - 1 - (x + k) = g.a₀ + g.width - x - run + (run - 1 - k) := by omega
      have hb : g.b₀ + g.height - 1 - (y + k) = g.b₀ + g.height - y - run + (run - 1 - k) := by omega
      rw [ha, hb]
      exact hsame
    · have hdiffer := hstops (by omega) (by omega)
      rw [h.getElem?_olds_reverse (by omega), h.getElem?_news_reverse (by omega)]
      have ha : g.a₀ + g.width - 1 - (x + run) = g.a₀ + g.width - x - run - 1 := by omega
      have hb : g.b₀ + g.height - 1 - (y + run) = g.b₀ + g.height - y - run - 1 := by omega
      rw [ha, hb]
      exact hdiffer
  next =>
    refine ⟨fun k hk => absurd hk (Nat.not_lt_zero k), by omega, by omega, fun hold hnew => ?_⟩
    omega

/-- **One step of the search from the start**, on the diagonal of deletions. -/
theorem forward_self {f : Frontier} {d x : Nat} (hd : d ≤ x) (hf : f.enter d d = x) :
    g.forward f d d = (f.set d (x + g.startRun x (x - d) : Nat), (x : Int), ((x - d : Nat) : Int)) := by
  have hy : (x : Int) - d = (x - d : Nat) := (Int.ofNat_sub hd).symm
  simp only [forward, hf, hy, startRun, Int.ofNat_lt, Int.toNat_natCast]
  split <;> simp

/-- **And of the search from the end.** -/
theorem backward_self {r : Frontier} {d x : Nat} (hd : d ≤ x) (hr : r.enter d d = x) :
    g.backward r d d = (r.set d (x + g.endRun x (x - d) : Nat),
      ((x + g.endRun x (x - d) : Nat) : Int), ((x - d + g.endRun x (x - d) : Nat) : Int)) := by
  have hy : (x : Int) - d = (x - d : Nat) := (Int.ofNat_sub hd).symm
  simp only [backward, hr, hy, endRun, Int.ofNat_lt, Int.toNat_natCast]
  split <;> simp

/-! ## Rounds

A round goes through its diagonals from the outermost one inwards. -/

section Rounds

variable {f r : Frontier} {bound d : Nat}

/-- Whether the search from the start looks for a meeting on a diagonal. -/
def ForwardLooks (g : Grid α) (d k : Int) : Prop := g.delta % 2 ≠ 0 ∧ (k - g.delta).natAbs + 1 ≤ d

/-- Whether the search from the end does. -/
def BackwardLooks (g : Grid α) (d k : Int) : Prop := g.delta % 2 = 0 ∧ (k - g.delta).natAbs ≤ d

/-- A round of the search from the start leaves the diagonals in front of its own alone, and if it
does not look for a meeting it finds none. -/
theorem forwardRound_above (g : Grid α) (r : Frontier) (d : Int) (left : Nat) {k : Int}
    (hf : f.Spans bound) (hlooks : ∀ k' ≤ k, ¬g.ForwardLooks d k') :
    ∃ f' : Frontier, g.forwardRound r d left k f = (f', none) ∧ f'.Spans bound ∧
      ∀ k' > k, 0 < k' + bound → f'.get k' = f.get k' := by
  induction left generalizing k f with
  | zero => exact ⟨f, rfl, hf, fun _ _ _ => rfl⟩
  | succ left ih =>
    obtain ⟨column, hcolumn⟩ : ∃ column, (g.forward f d k).1 = f.set k column := ⟨_, rfl⟩
    obtain ⟨f', hround, hspans, habove⟩ := ih (k := k - 2) (hf.set k column)
      fun k' hk' => hlooks k' (by omega)
    refine ⟨f', ?_, hspans, fun k' hk' hpos => ?_⟩
    · rw [forwardRound]
      simp only [hcolumn]
      rw [if_neg fun h => hlooks k (Int.le_refl k) ⟨h.1, h.2.1⟩, hround]
    · rw [habove k' (by omega) hpos, hf.get_set_of_lt hk' hpos]

/-- A round of the search from the end does the same. -/
theorem backwardRound_above (g : Grid α) (f : Frontier) (d : Int) (left : Nat) {k : Int}
    (hr : r.Spans bound) (hlooks : ∀ k' ≤ k, ¬g.BackwardLooks d k') :
    ∃ r' : Frontier, g.backwardRound f d left k r = (r', none) ∧ r'.Spans bound ∧
      ∀ k' > k, 0 < k' + bound → r'.get k' = r.get k' := by
  induction left generalizing k r with
  | zero => exact ⟨r, rfl, hr, fun _ _ _ => rfl⟩
  | succ left ih =>
    obtain ⟨column, hcolumn⟩ : ∃ column, (g.backward r d k).1 = r.set k column := ⟨_, rfl⟩
    obtain ⟨r', hround, hspans, habove⟩ := ih (k := k - 2) (hr.set k column)
      fun k' hk' => hlooks k' (by omega)
    refine ⟨r', ?_, hspans, fun k' hk' hpos => ?_⟩
    · rw [backwardRound]
      simp only [hcolumn]
      rw [if_neg fun h => hlooks k (Int.le_refl k) ⟨h.1, h.2.1⟩, hround]
    · rw [habove k' (by omega) hpos, hr.get_set_of_lt hk' hpos]

/-- **A round that does not look for a meeting records how far deletions lead.** -/
theorem forwardRound_passes (r : Frontier) (h : Ready g.olds g.news bound d f x)
    (hlooks : ∀ k ≤ (d : Int), ¬g.ForwardLooks d k) :
    ∃ f' : Frontier, g.forwardRound r d (d + 1) d f = (f', none) ∧ f'.Spans bound ∧
      f'.get d = (x + g.startRun x (x - d) : Nat) := by
  have hself := g.forward_self h.enters.ge h.enter
  have hwithin := h.within
  obtain ⟨f', hround, hspans, habove⟩ := g.forwardRound_above r d d (k := (d : Int) - 2)
    (h.spans.set d (x + g.startRun x (x - d) : Nat)) fun k hk => hlooks k (by omega)
  refine ⟨f', ?_, hspans, ?_⟩
  · rw [forwardRound]
    simp only [hself]
    rw [if_neg fun h => hlooks d (Int.le_refl _) ⟨h.1, h.2.1⟩, hround]
  · rw [habove d (by omega) (by omega), h.spans.get_set (by omega)]

theorem backwardRound_passes (f : Frontier) (h : Ready g.olds.reverse g.news.reverse bound d r x)
    (hlooks : ∀ k ≤ (d : Int), ¬g.BackwardLooks d k) :
    ∃ r' : Frontier, g.backwardRound f d (d + 1) d r = (r', none) ∧ r'.Spans bound ∧
      r'.get d = (x + g.endRun x (x - d) : Nat) := by
  have hself := g.backward_self h.enters.ge h.enter
  have hwithin := h.within
  obtain ⟨r', hround, hspans, habove⟩ := g.backwardRound_above f d d (k := (d : Int) - 2)
    (h.spans.set d (x + g.endRun x (x - d) : Nat)) fun k hk => hlooks k (by omega)
  refine ⟨r', ?_, hspans, ?_⟩
  · rw [backwardRound]
    simp only [hself]
    rw [if_neg fun h => hlooks d (Int.le_refl _) ⟨h.1, h.2.1⟩, hround]
  · rw [habove d (by omega) (by omega), h.spans.get_set (by omega)]

/-- **A round that looks for a meeting on the diagonal of deletions and has one stops there.** -/
theorem forwardRound_meets (h : Ready g.olds g.news bound d f x) (hlooks : g.ForwardLooks d d)
    (hmeet : (g.width : Int) ≤ (x + g.startRun x (x - d) : Nat) + r.get (g.delta - d)) :
    (g.forwardRound r d (d + 1) d f).2 = some (g.a₀ + x, g.b₀ + (x - d)) := by
  have hself := g.forward_self h.enters.ge h.enter
  have hwithin := h.within
  have hget := h.spans.get_set (k := d) (by omega) (x + g.startRun x (x - d) : Nat)
  rw [forwardRound]
  simp only [hself, hget]
  rw [if_pos ⟨hlooks.1, hlooks.2, hmeet⟩]
  simp only [Int.toNat_natCast]

theorem backwardRound_meets (h : Ready g.olds.reverse g.news.reverse bound d r x)
    (hlooks : g.BackwardLooks d d)
    (hmeet : (g.width : Int) ≤ (x + g.endRun x (x - d) : Nat) + f.get (g.delta - d)) :
    (g.backwardRound f d (d + 1) d r).2 = some (g.a₀ + (g.width - (x + g.endRun x (x - d))),
      g.b₀ + (g.height - (x - d + g.endRun x (x - d)))) := by
  have hself := g.backward_self h.enters.ge h.enter
  have hwithin := h.within
  have hget := h.spans.get_set (k := d) (by omega) (x + g.endRun x (x - d) : Nat)
  rw [backwardRound]
  simp only [hself, hget]
  rw [if_pos ⟨hlooks.1, hlooks.2, hmeet⟩]
  simp only [Option.some_inj, Prod.mk.injEq]
  omega

end Rounds

/-! ## The search

In its rounds both searches have two edits fewer than there are deletions, until they have them all:
behind the search from the end if the deletions are even in number, and before it if they are odd. -/

section Search

variable {f r : Frontier} {bound d x' : Nat}

/-- The run with which the search from the start goes on. -/
theorem Inside.startRun_of_ready (h : g.Inside) (hf : Ready g.olds g.news bound d f x) :
    Runs g.olds g.news x (x - d) (g.startRun x (x - d)) := by
  have hx := hf.enters.old_le
  have hy := hf.enters.new_le
  rw [h.length_olds] at hx
  rw [h.length_news] at hy
  exact h.runs_startRun hx (by omega)

theorem Inside.endRun_of_ready (h : g.Inside)
    (hr : Ready g.olds.reverse g.news.reverse bound d r x) :
    Runs g.olds.reverse g.news.reverse x (x - d) (g.endRun x (x - d)) := by
  have hx := hr.enters.old_le
  have hy := hr.enters.new_le
  rw [List.length_reverse, h.length_olds] at hx
  rw [List.length_reverse, h.length_news] at hy
  exact h.runs_endRun hx (by omega)

/-- **The searches meet behind a round** in which both come to half of the deletions. -/
theorem search_divides_even (h : g.Inside) (hsub : g.news.Sublist g.olds)
    (hlonger : g.height < g.width) (left : Nat) (hf : Ready g.olds g.news bound d f x)
    (hr : Ready g.olds.reverse g.news.reverse bound d r x') (hd : g.height + 2 * d = g.width) :
    ∃ u v, g.search (left + 1) d f r = some (g.a₀ + u, g.b₀ + v) ∧ Divides g.olds g.news u v ∧
      0 < u ∧ (u < g.width ∨ v < g.height) := by
  have holds := h.length_olds
  have hnewsLen := h.length_news
  have hdelta : g.delta = (g.width : Int) - g.height := rfl
  have hreach := hf.enters.reach (h.startRun_of_ready hf)
  have hreach' := hr.enters.reach (h.endRun_of_ready hr)
  have hold := hreach'.old_le
  have hnew := hreach'.new_le
  have hge := hr.enters.ge
  rw [List.length_reverse] at hold hnew
  obtain ⟨f', hround, hspans, hget⟩ := forwardRound_passes r hf fun k hk hlooks => by
    have hparity := hlooks.1
    omega
  -- what both have reached is all there is
  have hmeet := hreach.meet hsub (by omega) hreach'
  have hplace : g.delta - d = d := by omega
  have hround' := backwardRound_meets (f := f') hr ⟨by omega, by omega⟩ (by
    rw [hplace, hget]
    omega)
  have hdivides := hreach.divide (by omega) hreach' hmeet
  have hv : g.height - (x' - d + g.endRun x' (x' - d)) = g.width - (x' + g.endRun x' (x' - d)) - d := by
    omega
  rw [hv] at hround'
  rw [holds] at hdivides
  obtain ⟨r', hpair⟩ : ∃ r', g.backwardRound f' d (d + 1) d r = (r', some _) :=
    ⟨_, Prod.ext rfl hround'⟩
  rw [search]
  simp only [hround, hpair]
  exact ⟨_, _, rfl, hdivides, by omega, by omega⟩

/-- **They meet within a round** if one of them comes to one deletion more than the other. -/
theorem search_divides_odd (h : g.Inside) (hsub : g.news.Sublist g.olds) (hnews : 0 < g.height)
    (hlonger : g.height < g.width) (hfront : g.olds[0]? ≠ g.news[0]?) (left : Nat)
    (hf : Ready g.olds g.news bound d f x) (hr : Ready g.olds.reverse g.news.reverse bound d r x')
    (hd : g.height + 2 * d = g.width + 1) :
    ∃ u v, g.search (left + 1) d f r = some (g.a₀ + u, g.b₀ + v) ∧ Divides g.olds g.news u v ∧
      0 < u ∧ (u < g.width ∨ v < g.height) := by
  have holds := h.length_olds
  have hnewsLen := h.length_news
  have hdelta : g.delta = (g.width : Int) - g.height := rfl
  have hx := hf.enters.old_le
  have hy := hf.enters.new_le
  have hge := hf.enters.ge
  have hge' := hr.enters.ge
  have hrun := h.startRun_of_ready hf
  have hreach := hf.enters.reach hrun
  obtain ⟨d, rfl⟩ : ∃ n, d = n + 1 := Nat.exists_eq_add_one.mpr (by omega)
  have hbefore := hr.enters.reach_before (by
    rw [List.length_reverse, List.length_reverse]
    omega)
  have hcolumn : r.get d = (x' - 1 : Nat) := by
    have henter := hr.enter
    rw [Frontier.enter_self_succ] at henter
    omega
  have hmeet := hreach.meet hsub (by omega) hbefore
  have hplace : g.delta - (d + 1 : Nat) = d := by omega
  have hround := forwardRound_meets hf ⟨by omega, by omega⟩ (by
    rw [hplace, hcolumn]
    omega)
  have hdivides := hf.enters.divide (by omega) hrun hbefore hmeet
  obtain ⟨f', hpair⟩ : ∃ f', g.forwardRound r (d + 1 : Nat) (d + 1 + 1) (d + 1 : Nat) f = (f', some _) :=
    ⟨_, Prod.ext rfl hround⟩
  rw [search]
  simp only [hpair]
  refine ⟨_, _, rfl, hdivides, by omega, ?_⟩
  by_contra hwhole
  -- a single deletion behind all new lines: then the first line would not have been deleted
  have hone : Deletes g.olds g.news (0 + 1) (0 + 1) := by
    have hlast := hf.enters.last (Nat.succ_pos d)
    have hu : x - 1 = 1 + (g.height - 1) := by omega
    have hv : x - (d + 1) = 1 + (g.height - 1) := by omega
    rw [hu, hv] at hlast
    exact hlast.back_run (by omega) (by omega)
  have hnone := (hone.skip (by omega) (by omega) hfront).le (by omega)
  omega

/-- **The search divides both sides.** -/
theorem search_divides (h : g.Inside) (hsub : g.news.Sublist g.olds) (hnews : 0 < g.height)
    (hlonger : g.height < g.width) (hfront : g.olds[0]? ≠ g.news[0]?) (left : Nat)
    (hf : Ready g.olds g.news bound d f x)
    (hr : Ready g.olds.reverse g.news.reverse bound d r x') (hd : g.height + 2 * d ≤ g.width + 1)
    (hleft : g.width + 2 ≤ g.height + 2 * (d + left)) (hbound : d + left ≤ bound) :
    ∃ u v, g.search left d f r = some (g.a₀ + u, g.b₀ + v) ∧ Divides g.olds g.news u v ∧
      0 < u ∧ (u < g.width ∨ v < g.height) := by
  induction left generalizing d x x' f r with
  | zero => omega
  | succ left ih =>
    rcases (by omega : g.height + 2 * d < g.width ∨ g.height + 2 * d = g.width ∨
      g.height + 2 * d = g.width + 1) with hfew | heven | hodd
    · -- the searches do not have all deletions yet
      have holds := h.length_olds
      have hnewsLen := h.length_news
      have hdelta : g.delta = (g.width : Int) - g.height := rfl
      obtain ⟨f', hround, hspans, hget⟩ := forwardRound_passes r hf fun k hk hlooks => by
        have hnear := hlooks.2
        omega
      obtain ⟨r', hround', hspans', hget'⟩ := backwardRound_passes f' hr fun k hk hlooks => by
        have hnear := hlooks.2
        omega
      rw [search]
      simp only [hround, hround']
      refine ih (hf.next (h.startRun_of_ready hf) hspans hget (by omega) (by omega))
        (hr.next (h.endRun_of_ready hr) hspans' hget' ?_ (by omega)) (by omega) (by omega) (by omega)
      rw [List.length_reverse, List.length_reverse]
      omega
    · exact search_divides_even h hsub hlonger left hf hr heven
    · exact search_divides_odd h hsub hnews hlonger hfront left hf hr hodd

end Search

end Grid

/-- **The middle of a path divides both sides properly**, if the new lines are fewer and a sublist of the
old ones, and the sides begin with different lines. -/
theorem middle_divides {α : Type} [DecidableEq α] (a b : Array α) {a₀ a₁ b₀ b₁ : Nat} (ha : a₁ ≤ a.size)
    (hb : b₁ ≤ b.size) (hsub : (between b b₀ b₁).Sublist (between a a₀ a₁)) (hnews : b₀ < b₁)
    (hlonger : b₁ - b₀ < a₁ - a₀) (hfront : a[a₀]? ≠ b[b₀]?) :
    ∃ x y, middle a b a₀ a₁ b₀ b₁ = (x, y) ∧ (a₀ ≤ x ∧ x ≤ a₁ ∧ b₀ ≤ y ∧ y ≤ b₁) ∧
      (a₀ < x ∧ (x < a₁ ∨ y < b₁)) ∧ (between b b₀ y).Sublist (between a a₀ x) ∧
      (between b y b₁).Sublist (between a x a₁) := by
  have hinside : (Grid.mk a b a₀ a₁ b₀ b₁).Inside := ⟨ha, hb⟩
  have hrounds : (a₁ - a₀ + (b₁ - b₀) + 1) / 2 + 1 + 1 > 0 := Nat.succ_pos _
  have hsame : (between a a₀ a₁)[0]? ≠ (between b b₀ b₁)[0]? := by
    rwa [getElem?_between a (by omega), getElem?_between b (by omega)]
  obtain ⟨u, v, hsearch, hdivides, hpos, hproper⟩ :=
    Grid.search_divides hinside hsub (Nat.sub_pos_of_lt hnews) hlonger hsame
      ((a₁ - a₀ + (b₁ - b₀) + 1) / 2 + 1) (ready_start _ _ hrounds) (ready_start _ _ hrounds)
      (by simp only [Grid.height, Grid.width]; omega) (by simp only [Grid.height, Grid.width]; omega)
      (by omega)
  have hu := hdivides.old_le
  have hv := hdivides.new_le
  rw [hinside.length_olds] at hu
  rw [hinside.length_news] at hv
  simp only [Grid.height, Grid.width] at hu hv hproper
  refine ⟨a₀ + u, b₀ + v, ?_, by omega, by omega, ?_, ?_⟩
  · rw [middle]
    exact congrArg (Option.getD · (a₀, b₀)) hsearch
  · have hsplit := hdivides.front
    rw [Deletes, Grid.olds, Grid.news, take_between a hu, take_between b hv] at hsplit
    exact hsplit
  · have hsplit := hdivides.back
    rw [Grid.olds, Grid.news, drop_between, drop_between] at hsplit
    exact hsplit

end LintGate.Diff
