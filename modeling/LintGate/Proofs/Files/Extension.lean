/-
The extension of a path.

Which linters a file gets is settled by its path alone. The path is cut at its bars, parts that do
not move are left out, and the last part that is left is cut at its last dot. This file says what
that comes to on the path as a text: the last part stands behind a bar or at the start, and behind
it come only bars and single dots (`EndsIn`); the extension is what stands behind the last dot of
that part, if the part has another one than a leading dot and is not the way upwards
(`extension?_eq_some_iff`).
-/
import LintGate.Proofs.Programs

set_option autoImplicit false

namespace LintGate.Path

/-! ## Parts joined again -/

/-- Parts, each behind a bar. -/
def barred (parts : List (List Char)) : List Char := parts.flatMap ('/' :: ·)

/-- Bars do not get lost: a text is its parts with bars between them, and no part has one. -/
theorem exists_parts (s : List Char) : ∃ part parts, splitBars s = part :: parts ∧
    s = part ++ barred parts ∧ ∀ p ∈ part :: parts, '/' ∉ p := by
  induction s with
  | nil => exact ⟨[], [], rfl, rfl, by simp⟩
  | cons c s ih =>
    obtain ⟨part, parts, hsplit, hs, hnone⟩ := ih
    by_cases hc : c = '/'
    · refine ⟨[], part :: parts, ?_, ?_, ?_⟩
      · rw [splitBars, if_pos hc, hsplit]
      · rw [hc, hs]
        rfl
      · exact List.forall_mem_cons.mpr ⟨List.not_mem_nil, hnone⟩
    · refine ⟨c :: part, parts, ?_, ?_, ?_⟩
      · rw [splitBars, if_neg hc, hsplit]
      · rw [hs]
        rfl
      · obtain ⟨hpart, hparts⟩ := List.forall_mem_cons.mp hnone
        refine List.forall_mem_cons.mpr ⟨?_, hparts⟩
        simp [hpart, Ne.symm hc]

/-- Cutting takes the parts apart that were joined. -/
theorem splitBars_barred {part : List Char} {parts : List (List Char)} (hpart : '/' ∉ part)
    (hparts : ∀ p ∈ parts, '/' ∉ p) : splitBars (part ++ barred parts) = part :: parts := by
  induction parts generalizing part with
  | nil =>
    rw [show barred [] = [] from rfl, List.append_nil]
    exact splitBars_of_not_mem hpart
  | cons next parts ih =>
    obtain ⟨hnext, hrest⟩ := List.forall_mem_cons.mp hparts
    show splitBars (part ++ '/' :: (next ++ barred parts)) = _
    rw [splitBars_append, splitBars_of_not_mem hpart, ih hnext hrest]
    rfl

/-! ## The last part -/

/-- A part of a path stays where it is: it is empty or a single dot. -/
def Stays (part : List Char) : Prop := part = [] ∨ part = ['.']

/-- A path ends in a part that moves, behind a bar or at the start; behind it come parts that do not. -/
def EndsIn (path name : String) : Prop :=
  ∃ (front : List Char) (behind : List (List Char)),
    path.toList = front ++ name.toList ++ barred behind ∧ (front = [] ∨ ∃ way, front = way ++ ['/']) ∧
      (∀ part ∈ behind, Stays part) ∧ '/' ∉ name.toList ∧ ¬Stays name.toList

theorem not_stays_iff {part : List Char} :
    (String.ofList part != "" && String.ofList part != ".") = true ↔ ¬Stays part := by
  have hempty : String.ofList part = "" ↔ part = [] := by
    rw [← String.toList_inj, String.toList_ofList]
    rfl
  have hdot : String.ofList part = "." ↔ part = ['.'] := by
    rw [← String.toList_inj, String.toList_ofList]
    rfl
  rw [Bool.and_eq_true, bne_iff_ne, bne_iff_ne, Ne, Ne, hempty, hdot, Stays, not_or]

theorem Stays.not_mem {part : List Char} (h : Stays part) : '/' ∉ part := by
  rcases h with rfl | rfl
  · exact List.not_mem_nil
  · decide

/-- The last step is the last part that moves. -/
theorem getLast?_steps_iff {path name : String} :
    (steps path).getLast? = some name ↔ ∃ before behind,
      splitBars path.toList = before ++ name.toList :: behind ∧ ¬Stays name.toList ∧
        ∀ part ∈ behind, Stays part := by
  have hmoves : ∀ part : List Char,
      ((fun p => p != "" && p != ".") ∘ String.ofList) part = true ↔ ¬Stays part :=
    fun part => not_stays_iff
  unfold steps
  rw [List.getLast?_filter, ← List.map_reverse, List.find?_map, Option.map_eq_some_iff]
  simp only [List.find?_eq_some_iff_append, hmoves, Bool.not_eq_true', ← Bool.not_eq_true, not_not]
  constructor
  · rintro ⟨part, ⟨hpart, behind, before, hsplit, hbehind⟩, rfl⟩
    rw [String.toList_ofList]
    refine ⟨before.reverse, behind.reverse, ?_, hpart, ?_⟩
    · rw [← List.reverse_reverse (splitBars path.toList), hsplit]
      simp
    · intro p hp
      exact hbehind p (List.mem_reverse.mp hp)
  · rintro ⟨before, behind, hsplit, hname, hbehind⟩
    refine ⟨name.toList, ⟨hname, behind.reverse, before.reverse, ?_, ?_⟩, String.ofList_toList⟩
    · rw [hsplit]
      simp
    · intro p hp
      exact hbehind p (List.mem_reverse.mp hp)

theorem endsIn_iff {path name : String} : EndsIn path name ↔ ∃ before behind,
    splitBars path.toList = before ++ name.toList :: behind ∧ ¬Stays name.toList ∧
      ∀ part ∈ behind, Stays part := by
  constructor
  · rintro ⟨front, behind, hpath, hfront, hbehind, hname, hmoves⟩
    have hsplit : splitBars (name.toList ++ barred behind) = name.toList :: behind :=
      splitBars_barred hname fun p hp => (hbehind p hp).not_mem
    rcases hfront with rfl | ⟨way, rfl⟩
    · exact ⟨[], behind, by rw [hpath, List.nil_append, hsplit, List.nil_append], hmoves, hbehind⟩
    · refine ⟨splitBars way, behind, ?_, hmoves, hbehind⟩
      rw [hpath, List.append_assoc, List.append_assoc, List.singleton_append, splitBars_append, hsplit]
  · rintro ⟨before, behind, hsplit, hmoves, hbehind⟩
    obtain ⟨part, parts, hparts, hpath, hnone⟩ := exists_parts path.toList
    rw [hparts] at hsplit
    have hname : '/' ∉ name.toList := by
      apply hnone
      rw [hsplit]
      exact List.mem_append_right _ List.mem_cons_self
    cases before with
    | nil =>
      cases hsplit
      exact ⟨[], behind, hpath, .inl rfl, hbehind, hname, hmoves⟩
    | cons first before =>
      obtain ⟨rfl, rfl⟩ := List.cons.inj hsplit
      refine ⟨part ++ barred before ++ ['/'], behind, ?_, .inr ⟨_, rfl⟩, hbehind, hname, hmoves⟩
      rw [hpath]
      simp [barred]

/-! ## Extensions -/

/-- A path has an extension: what stands behind the last dot of its last part, if that part is not the way
upwards and the dot is not its first letter. -/
def HasExtension (path ending : String) : Prop :=
  ∃ (name : String) (stem : List Char), EndsIn path name ∧ name ≠ ".." ∧
    name.toList = stem ++ '.' :: ending.toList ∧ stem ≠ [] ∧ '.' ∉ ending.toList

theorem takeWhile_ne_dot {s : List Char} (h : '.' ∉ s) (t : List Char) :
    (s ++ t).takeWhile (· != '.') = s ++ t.takeWhile (· != '.') := by
  apply List.takeWhile_append_of_pos
  intro c hc
  rw [bne_iff_ne]
  rintro rfl
  exact h hc

/-- A name without a dot has no extension. -/
theorem extensionOf?_of_not_mem {name : List Char} (h : '.' ∉ name) : extensionOf? name = none := by
  have hall := takeWhile_ne_dot (mt List.mem_reverse.mp h) []
  rw [List.append_nil, List.takeWhile_nil, List.append_nil] at hall
  simp only [extensionOf?, hall, List.reverse_reverse]
  apply if_neg
  omega

/-- Behind the last dot of a name stands its extension, if something stands in front of the dot. -/
theorem extensionOf?_append (stem : List Char) {last : List Char} (h : '.' ∉ last) :
    extensionOf? (stem ++ '.' :: last) = if stem = [] then none else some (String.ofList last) := by
  have hlast : (stem ++ '.' :: last).reverse.takeWhile (· != '.') = last.reverse := by
    rw [List.reverse_append, List.reverse_cons, List.append_assoc,
      takeWhile_ne_dot (mt List.mem_reverse.mp h), List.singleton_append,
      List.takeWhile_cons_of_neg (by decide), List.append_nil]
  simp only [extensionOf?, hlast, List.reverse_reverse, List.length_append, List.length_cons]
  by_cases hstem : stem = []
  · rw [if_pos hstem, hstem]
    apply if_neg
    simp
  · rw [if_neg hstem]
    apply if_pos
    have hpos := List.length_pos_of_ne_nil hstem
    omega

theorem extensionOf?_eq_some_iff {name : List Char} {ending : String} :
    extensionOf? name = some ending ↔
      ∃ stem, name = stem ++ '.' :: ending.toList ∧ stem ≠ [] ∧ '.' ∉ ending.toList := by
  constructor
  · intro h
    by_cases hdot : '.' ∈ name
    · -- the dot behind which there is none
      obtain ⟨last, stem, hname, hlast⟩ := List.eq_append_cons_of_mem (List.mem_reverse.mpr hdot)
      have hsplit : name = stem.reverse ++ '.' :: last.reverse := by
        rw [← List.reverse_reverse name, hname]
        simp
      have hnone : '.' ∉ last.reverse := mt List.mem_reverse.mp hlast
      rw [hsplit, extensionOf?_append _ hnone] at h
      by_cases hstem : stem.reverse = []
      · rw [if_pos hstem] at h
        cases h
      · rw [if_neg hstem] at h
        cases h
        rw [String.toList_ofList]
        exact ⟨stem.reverse, hsplit, hstem, hnone⟩
    · rw [extensionOf?_of_not_mem hdot] at h
      cases h
  · rintro ⟨stem, rfl, hstem, hending⟩
    rw [extensionOf?_append stem hending, if_neg hstem, String.ofList_toList]

/-- **The extension of a path is the text behind the last dot of its last part**, unless there is no such
part, or no dot in it but a leading one. -/
theorem extension?_eq_some_iff {path ending : String} :
    extension? path = some ending ↔ HasExtension path ending := by
  have hname : ∀ name, fileName? path = some name ↔ EndsIn path name ∧ name ≠ ".." := by
    intro name
    rw [endsIn_iff, ← getLast?_steps_iff, fileName?]
    cases (steps path).getLast? with
    | none => simp
    | some last =>
      by_cases hup : last = ".."
      · simp [hup]
        rintro rfl
        simp
      · simp [hup]
        rintro rfl
        exact hup
  rw [extension?, Option.bind_eq_some_iff]
  constructor
  · rintro ⟨name, hfile, hending⟩
    obtain ⟨hends, hup⟩ := (hname name).mp hfile
    obtain ⟨stem, hstem⟩ := extensionOf?_eq_some_iff.mp hending
    exact ⟨name, stem, hends, hup, hstem⟩
  · rintro ⟨name, stem, hends, hup, hstem⟩
    exact ⟨name, (hname name).mpr ⟨hends, hup⟩, extensionOf?_eq_some_iff.mpr ⟨stem, hstem⟩⟩

end LintGate.Path
