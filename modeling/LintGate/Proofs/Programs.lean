/-
Where a program is looked for.

Two questions are asked about the name of a program: whether it can be found, before
anything is started, and what a process runs that is started under it. Both go through the
same places: a name with a bar is a path as seen from a directory, and any other name is one
in the directories of the search path. `isFound_eq` and `findImage_settled` say so for one
and for the other. The first question counts the parts of a name and does not look for bars;
where that differs, the name ends like a directory's, and no file is there.

At one place the two questions differ as well. The check asks for a file that may be
executed, and the start needs a whole program: of a script the interpreter must be there
too, and a file that may not be executed is a refusal of another kind than a missing one. A
place is `Plain` if there is no such difference.

For a name whose places are plain, what is left is the directory. So the check made in one
directory answers for the start in another exactly if the name has no bar, or the program
stands at both places or at none (`isFound_eq_iff`).
-/
import LintGate.Programs
import Mathlib.Data.List.Basic

set_option autoImplicit false

namespace LintGate

/-! ## Parts of a path -/

namespace Path

theorem splitBars_ne_nil (s : List Char) : splitBars s ≠ [] := by
  cases s with
  | nil => simp [splitBars]
  | cons c s =>
    unfold splitBars
    by_cases hc : c = '/'
    · simp [hc]
    · rw [if_neg hc]
      cases splitBars s <;> simp

theorem splitBars_cons {c : Char} (hc : c ≠ '/') (s : List Char) :
    ∃ part parts, splitBars s = part :: parts ∧ splitBars (c :: s) = (c :: part) :: parts := by
  obtain ⟨part, parts, h⟩ := List.exists_cons_of_ne_nil (splitBars_ne_nil s)
  refine ⟨part, parts, h, ?_⟩
  rw [splitBars, if_neg hc, h]

theorem splitBars_of_not_mem {s : List Char} (h : '/' ∉ s) : splitBars s = [s] := by
  induction s with
  | nil => rfl
  | cons c s ih =>
    obtain ⟨hc, hs⟩ := not_or.mp (mt List.mem_cons.mpr h)
    rw [splitBars, if_neg (Ne.symm hc), ih hs]

/-- A bar keeps what is in front of it and what is behind it apart. -/
theorem splitBars_append (s t : List Char) :
    splitBars (s ++ '/' :: t) = splitBars s ++ splitBars t := by
  induction s with
  | nil => simp [splitBars]
  | cons c s ih =>
    by_cases hc : c = '/'
    · simp [hc, splitBars, ih]
    · obtain ⟨part, parts, h, hcons⟩ := splitBars_cons hc s
      rw [List.cons_append, splitBars, if_neg hc, ih, h, hcons]
      rfl

/-- The last part is that behind the last bar. -/
theorem getLast?_splitBars_append (s t : List Char) :
    (splitBars (s ++ '/' :: t)).getLast? = (splitBars t).getLast? := by
  rw [splitBars_append]
  exact List.getLast?_append_of_ne_nil _ (splitBars_ne_nil t)

/-- A name keeps its last part wherever it is joined. -/
theorem isDirectoryLike_join (base : String) {child : String} (h : isDirectoryLike child = true) :
    isDirectoryLike (join base child) = true := by
  have hbehind : ∀ {path : String} (front : List Char),
      path.toList = front ++ '/' :: child.toList → isDirectoryLike path = true := by
    intro path front hpath
    unfold isDirectoryLike at h ⊢
    rw [hpath, getLast?_splitBars_append]
    exact h
  unfold join
  by_cases hself : (isAbsolute child || base.isEmpty) = true
  · rw [if_pos hself]
    exact h
  rw [if_neg hself]
  by_cases hbar : (base.toList.getLast? == some '/') = true
  · rw [if_pos hbar]
    obtain ⟨front, hfront⟩ := List.getLast?_eq_some_iff.mp (beq_iff_eq.mp hbar)
    apply hbehind front
    rw [String.toList_append, hfront, List.append_assoc]
    rfl
  · rw [if_neg hbar]
    apply hbehind base.toList
    rw [String.toList_append, String.toList_append, List.append_assoc]
    rfl

/-- The steps of a path are those in front of a bar and those behind it. -/
theorem steps_append {path : String} {s t : List Char} (h : path.toList = s ++ '/' :: t) :
    steps path = steps (String.ofList s) ++ steps (String.ofList t) := by
  simp only [steps, h, splitBars_append, List.map_append, List.filter_append, String.toList_ofList]

/-- A part that moves is a step. -/
theorem mem_steps {path : String} {part : List Char} (h : part ∈ splitBars path.toList)
    (hempty : part ≠ []) (hdot : part ≠ ['.']) : String.ofList part ∈ steps path := by
  have hne : ∀ other : List Char, part ≠ other → String.ofList part ≠ String.ofList other := by
    intro other hother heq
    apply hother
    rw [← String.toList_ofList (l := part), heq, String.toList_ofList]
  unfold steps
  rw [List.mem_filter]
  refine ⟨List.mem_map.mpr ⟨part, h, rfl⟩, ?_⟩
  rw [Bool.and_eq_true, bne_iff_ne, bne_iff_ne]
  exact ⟨hne [] hempty, hne ['.'] hdot⟩

end Path

namespace Programs

/-- A path that ends like a directory's leads to no file. -/
theorem isProgramAt_of_isDirectoryLike {disk : Folder} {path : String}
    (h : Path.isDirectoryLike path = true) : isProgramAt disk path = false := by
  unfold isProgramAt Folder.at?
  by_cases hempty : path.isEmpty = true
  · rw [if_pos hempty]
  rw [if_neg hempty]
  cases Folder.follow [] (.folder disk) (Path.steps path) with
  | error fault => rfl
  | ok entry =>
    cases entry with
    | file content executable => simp only [h, if_true]
    | folder entries => rfl

/-- **A name with a bar that counts for one part ends like a directory's.** -/
theorem isDirectoryLike_of_partCount {name : String} (hbar : '/' ∈ name.toList)
    (hcount : ¬1 < partCount name) : Path.isDirectoryLike name = true := by
  by_contra hnot
  obtain ⟨front, rest, hname, hfront⟩ := List.eq_append_cons_of_mem hbar
  -- behind the last bar stands a step
  have hrest : 0 < (Path.steps (String.ofList rest)).length := by
    unfold Path.isDirectoryLike at hnot
    rw [hname, Path.getLast?_splitBars_append] at hnot
    cases hlast : (Path.splitBars rest).getLast? with
    | none => exact absurd (List.getLast?_eq_none_iff.mp hlast) (Path.splitBars_ne_nil rest)
    | some last =>
      have hmem : last ∈ Path.splitBars (String.ofList rest).toList := by
        rw [String.toList_ofList]
        exact List.mem_of_getLast? hlast
      simp only [hlast, Bool.or_eq_true, List.isEmpty_iff, beq_iff_eq, not_or] at hnot
      exact List.length_pos_of_mem (Path.mem_steps hmem hnot.1.1 hnot.1.2)
  apply hcount
  unfold partCount
  rw [Path.steps_append hname, List.length_append]
  -- in front of the first one stands a step, or nothing, or a dot
  by_cases hempty : front = []
  · have habsolute : Path.isAbsolute name = true := by
      rw [Path.isAbsolute, hname, hempty]
      rfl
    simp only [habsolute, Bool.true_or, if_true]
    omega
  by_cases hdot : front = ['.']
  · have hhere : name.startsWith "./" = true := by
      rw [String.startsWith_string_iff, hname, hdot]
      exact ⟨rest, rfl⟩
    simp only [hhere, Bool.or_true, if_true]
    omega
  · have hstep : String.ofList front ∈ Path.steps (String.ofList front) := by
      apply Path.mem_steps _ hempty hdot
      rw [String.toList_ofList, Path.splitBars_of_not_mem hfront]
      exact List.mem_singleton_self _
    have hpos := List.length_pos_of_mem hstep
    refine Nat.lt_of_lt_of_le ?_ (Nat.le_add_left _ _)
    omega

/-- A name without a bar counts for one part at most. -/
theorem partCount_of_not_mem {name : String} (hbar : '/' ∉ name.toList) : ¬1 < partCount name := by
  have habsolute : Path.isAbsolute name = false := by
    unfold Path.isAbsolute
    rw [beq_eq_false_iff_ne]
    intro hhead
    exact hbar (List.mem_of_mem_head? hhead)
  have hhere : name.startsWith "./" = false := by
    rw [← Bool.not_eq_true, String.startsWith_string_iff]
    rintro ⟨rest, hrest⟩
    apply hbar
    rw [← hrest]
    exact List.mem_append_left _ (by decide)
  have hsteps : Path.steps name = [name].filter fun p => p != "" && p != "." := by
    unfold Path.steps
    rw [Path.splitBars_of_not_mem hbar, List.map_singleton, String.ofList_toList]
  unfold partCount
  rw [habsolute, hhere, hsteps]
  by_cases hdot : name = "."
  · rw [hdot]
    decide
  · have hle := List.length_filter_le (fun p => p != "" && p != ".") [name]
    rw [List.length_singleton] at hle
    simpa [hdot] using hle

/-! ## The places of a name -/

/-- The paths at which a program may stand, as seen from a directory: one for a name with a bar, and else
one in each directory of the search path. The empty name stands for nothing. -/
def placesOf (dir : String) (searched : List String) (name : String) : List String :=
  if name.isEmpty then []
  else if name.toList.contains '/' then [Path.join dir name]
  else searched.map fun d => Path.join d name

variable {disk : Folder} {searched : List String} {dir name path : String}

/-- **The check looks at the places of a name.** -/
theorem isFound_eq (disk : Folder) (dir : String) (searched : List String) (name : String) :
    isFound disk dir searched name = (placesOf dir searched name).any (isProgramAt disk) := by
  have hnone : ∀ {name : String}, Path.isDirectoryLike name = true →
      (searched.any fun d => isProgramAt disk (Path.join d name)) = false := by
    intro name hname
    rw [List.any_eq_false]
    intro d _
    rw [isProgramAt_of_isDirectoryLike (Path.isDirectoryLike_join d hname)]
    exact Bool.false_ne_true
  unfold isFound placesOf
  by_cases hempty : name.isEmpty = true
  · rw [if_pos hempty, String.isEmpty_iff.mp hempty, if_neg (by decide), hnone (by decide)]
    rfl
  rw [if_neg hempty]
  by_cases hbar : '/' ∈ name.toList
  · rw [if_pos (List.contains_iff_mem.mpr hbar), List.any_cons, List.any_nil, Bool.or_false]
    by_cases hcount : 1 < partCount name
    · rw [if_pos hcount]
    · -- it is looked for in the search path, and in neither way is there a file
      have hlike := isDirectoryLike_of_partCount hbar hcount
      rw [if_neg hcount, hnone hlike,
        isProgramAt_of_isDirectoryLike (Path.isDirectoryLike_join dir hlike)]
  · rw [if_neg (partCount_of_not_mem hbar), if_neg (mt List.contains_iff_mem.mp hbar), List.any_map]
    rfl

/-! ## What a start needs -/

/-- An image that a start runs: a program of the machine, or a script whose interpreter is one and is told
by its path from the root of all files. -/
def Image.Runs (disk : Folder) : Image → Prop
  | .builtin _ => True
  | .script interpreter _ _ =>
    Path.isAbsolute interpreter = true ∧ ∃ tool, imageAt disk interpreter = .ok (.builtin tool)

/-- What stands at a path runs, or there is nothing. -/
def Plain (disk : Folder) (path : String) : Prop :=
  (∃ image, imageAt disk path = .ok image ∧ image.Runs disk) ∨ disk.at? path = .error .notFound

/-- The answer of a start for a program that the check finds, and for one that it does not find. -/
def Settled (disk : Folder) (found : Bool) (answer : Except Fault Image) : Prop :=
  if found then ∃ image, answer = .ok image ∧ image.Runs disk else answer = .error .notFound

/-- The start finds nothing where the check does not. -/
theorem Settled.notFound_iff {found : Bool} {answer : Except Fault Image}
    (h : Settled disk found answer) : answer = .error .notFound ↔ found = false := by
  unfold Settled at h
  cases found with
  | false => exact iff_of_true h rfl
  | true =>
    obtain ⟨image, himage, -⟩ := h
    rw [himage]
    exact iff_of_false (fun h => nomatch h) Bool.noConfusion

/-- What is found runs. -/
theorem Settled.runs {found : Bool} {answer : Except Fault Image} (h : Settled disk found answer)
    {image : Image} (himage : answer = .ok image) : image.Runs disk := by
  unfold Settled at h
  cases found with
  | false => cases himage.symm.trans h
  | true =>
    obtain ⟨image', himage', hruns⟩ := h
    cases himage.symm.trans himage'
    exact hruns

/-- A program that can be started is one that the check finds. -/
theorem isProgramAt_of_imageAt {image : Image} (h : imageAt disk path = .ok image) :
    isProgramAt disk path = true := by
  unfold imageAt at h
  unfold isProgramAt
  cases hat : disk.at? path with
  | error fault =>
    rw [hat] at h
    cases h
  | ok entry =>
    rw [hat] at h
    cases entry with
    | folder entries => cases h
    | file content executable =>
      cases executable with
      | false => cases h
      | true => rfl

theorem Plain.settled (h : Plain disk path) :
    Settled disk (isProgramAt disk path) (imageAt disk path) := by
  rcases h with ⟨image, himage, hruns⟩ | hmissing
  · rw [isProgramAt_of_imageAt himage]
    exact ⟨image, himage, hruns⟩
  · have hnot : isProgramAt disk path = false := by
      unfold isProgramAt
      rw [hmissing]
    rw [hnot]
    unfold imageAt
    rw [hmissing]
    rfl

theorem searchImage_settled (hplain : ∀ d ∈ searched, Plain disk (Path.join d name)) :
    Settled disk (searched.any fun d => isProgramAt disk (Path.join d name))
      (searchImage disk name .notFound searched) := by
  induction searched with
  | nil => rfl
  | cons d rest ih =>
    have hrest := ih fun d' hd' => hplain d' (List.mem_cons_of_mem _ hd')
    have hfirst := (hplain d List.mem_cons_self).settled
    rw [List.any_cons]
    unfold searchImage
    cases hfound : isProgramAt disk (Path.join d name) with
    | true =>
      rw [hfound] at hfirst
      obtain ⟨image, himage, hruns⟩ := hfirst
      rw [himage]
      exact ⟨image, rfl, hruns⟩
    | false =>
      -- the search goes on
      rw [hfound] at hfirst
      have hmissing : imageAt disk (Path.join d name) = .error .notFound := hfirst
      rw [hmissing]
      exact hrest

/-- **The start answers as the check does in the same directory**, where the places of the name are
plain. -/
theorem findImage_settled (hplain : ∀ p ∈ placesOf dir searched name, Plain disk p) :
    Settled disk (isFound disk dir searched name) (findImage disk dir searched name) := by
  rw [isFound_eq]
  unfold findImage
  unfold placesOf at hplain ⊢
  by_cases hempty : name.isEmpty = true
  · rw [if_pos hempty, if_pos hempty]
    rfl
  rw [if_neg hempty] at hplain ⊢
  rw [if_neg hempty]
  by_cases hbar : name.toList.contains '/' = true
  · rw [if_pos hbar] at hplain ⊢
    rw [if_pos hbar, List.any_cons, List.any_nil, Bool.or_false]
    exact (hplain _ (List.mem_singleton_self _)).settled
  · rw [if_neg hbar] at hplain ⊢
    rw [if_neg hbar, List.any_map]
    exact searchImage_settled (List.forall_mem_map.mp hplain)

/-- A path from the root of all files is started as it is. -/
theorem findImage_of_isAbsolute (h : Path.isAbsolute name = true) :
    findImage disk dir searched name = imageAt disk name := by
  have hbar : '/' ∈ name.toList := List.mem_of_mem_head? (beq_iff_eq.mp h)
  have hempty : ¬name.isEmpty = true := by
    intro hempty
    rw [String.isEmpty_iff.mp hempty] at hbar
    cases hbar
  unfold findImage
  rw [if_neg hempty, if_pos (List.contains_iff_mem.mpr hbar), Path.join, h]
  rfl

/-! ## Two directories -/

/-- A name stands for a program in both of two directories, or in none. A name without a bar does. -/
def SameFrom (disk : Folder) (cwd root name : String) : Prop :=
  '/' ∈ name.toList →
    isProgramAt disk (Path.join cwd name) = isProgramAt disk (Path.join root name)

/-- **The check answers in one directory as in another** exactly if the name stands for a program in both
or in none. -/
theorem isFound_eq_iff {cwd root : String} :
    isFound disk cwd searched name = isFound disk root searched name ↔
      SameFrom disk cwd root name := by
  rw [isFound_eq, isFound_eq]
  unfold SameFrom placesOf
  by_cases hempty : name.isEmpty = true
  · have hname : name = "" := String.isEmpty_iff.mp hempty
    simp [hname]
  rw [if_neg hempty, if_neg hempty]
  by_cases hbar : '/' ∈ name.toList
  · have hcontains : name.toList.contains '/' = true := List.contains_iff_mem.mpr hbar
    rw [if_pos hcontains, if_pos hcontains, List.any_cons, List.any_nil, Bool.or_false, List.any_cons,
      List.any_nil, Bool.or_false]
    exact ⟨fun h _ => h, fun h => h hbar⟩
  · have hcontains : ¬name.toList.contains '/' = true := mt List.contains_iff_mem.mp hbar
    rw [if_neg hcontains, if_neg hcontains]
    exact iff_of_true rfl fun h => absurd h hbar

end Programs

end LintGate
