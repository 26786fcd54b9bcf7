/-
What one step of an attempt on the lock does.

In a directory that is there, what a step does depends on the entry at the lock's spot, on
which processes run, and on the frames that are held. `Advanced` lists what each step can do
to the stage and to the entry, one constructor for each outcome, and `advances` says that no
step does anything else. Statements about many attempts at once (`Contest`) look at the entry
only, and at who put it there.
-/
import LintGate.Lock
import LintGate.Proofs.Files.Place

set_option autoImplicit false

namespace LintGate

/-! ## Process numbers -/

theorem Text.dropWhile_of_none {p : Char → Bool} {text : List Char} (h : ∀ c ∈ text, p c = false) :
    text.dropWhile p = text := by
  cases text with
  | nil => rfl
  | cons c text => rw [List.dropWhile_cons, if_neg (by simp [h c List.mem_cons_self])]

/-- What is taken away at the ends of a text is blank, whatever stays. -/
theorem Text.exists_of_strip (p : Char → Bool) (text : List Char) :
    ∃ front back, text = front ++ (strip p text ++ back) ∧ (∀ c ∈ front, p c = true) ∧
      ∀ c ∈ back, p c = true := by
  have htaken : ∀ l : List Char, ∀ c ∈ l.takeWhile p, p c = true := fun l =>
    List.all_eq_true.mp List.all_takeWhile
  have hback : text.dropWhile p
      = strip p text ++ ((text.dropWhile p).reverse.takeWhile p).reverse := by
    rw [strip, ← List.reverse_append, List.takeWhile_append_dropWhile, List.reverse_reverse]
  refine ⟨text.takeWhile p, ((text.dropWhile p).reverse.takeWhile p).reverse, ?_, htaken text,
    fun c hc => htaken _ c (List.mem_reverse.mp hc)⟩
  rw [← hback, List.takeWhile_append_dropWhile]

/-- And where nothing that stays is blank, that is all there is to it. -/
theorem Text.strip_around {p : Char → Bool} {front text back : List Char}
    (hfront : ∀ c ∈ front, p c = true) (htext : ∀ c ∈ text, p c = false)
    (hback : ∀ c ∈ back, p c = true) : strip p (front ++ (text ++ back)) = text := by
  rw [strip, List.dropWhile_append_of_pos hfront]
  cases text with
  | nil =>
    have hblank : back.dropWhile p = [] := by
      rw [← List.append_nil back, List.dropWhile_append_of_pos hback, List.dropWhile_nil]
    rw [List.nil_append, hblank]
    rfl
  | cons c text =>
    rw [List.cons_append, List.dropWhile_cons, if_neg (by simp [htext c List.mem_cons_self]),
      ← List.cons_append, List.reverse_append,
      List.dropWhile_append_of_pos fun c hc => hback c (List.mem_reverse.mp hc),
      dropWhile_of_none fun c hc => htext c (List.mem_reverse.mp hc), List.reverse_reverse]

namespace Lock

/-- A digit is no blank space. -/
theorem not_isWhiteSpace_of_isDigit {c : Char} (h : c.isDigit = true) :
    Unicode.isWhiteSpace c = false := by
  have hall : ∀ n < 58, 48 ≤ n → Unicode.inRanges Unicode.whiteSpaceRanges n = false := by decide
  obtain ⟨hlow, hhigh⟩ := Char.isDigit_iff_toNat.mp h
  exact hall c.toNat (Nat.lt_succ_of_le hhigh) hlow

theorem digitsValue?_eq_some_iff {digits : List Char} {n : Nat} :
    digitsValue? digits = some n ↔
      digits ≠ [] ∧ (∀ c ∈ digits, c.isDigit = true) ∧ Nat.ofDigitChars 10 digits 0 = n := by
  have hvalue : digits.foldl (fun n c => n * 10 + (c.toNat - '0'.toNat)) 0
      = Nat.ofDigitChars 10 digits 0 := by
    simp only [Nat.mul_comm _ 10]
    rfl
  unfold digitsValue?
  split
  next => simp
  next hne =>
    rw [Option.ite_none_right_eq_some, List.all_eq_true, Option.some.injEq, hvalue, and_iff_right hne]

/-- Bytes that name a process: the text of decimal digits, of a value that fits 32 bits, with a plus
sign or without, and blank space around them. -/
inductive NamesProcess : Bytes → Nat → Prop where
  | intro {front sign digits back : List Char} {pid : Nat}
      (hfront : ∀ c ∈ front, Unicode.isWhiteSpace c = true)
      (hsign : sign = [] ∨ sign = ['+']) (hne : digits ≠ [])
      (hdigits : ∀ c ∈ digits, c.isDigit = true) (hvalue : Nat.ofDigitChars 10 digits 0 = pid)
      (hsmall : pid ≤ 4294967295) (hback : ∀ c ∈ back, Unicode.isWhiteSpace c = true) :
      NamesProcess (Bytes.ofText (String.ofList (front ++ (sign ++ digits ++ back)))) pid

theorem size_uint32 : UInt32.size = 4294967296 := rfl

/-- A lock is read as what it says. -/
theorem holder?_eq_some_iff {content : Bytes} {pid : Nat} :
    holder? content = some pid ↔ NamesProcess content pid := by
  have hfits : (decide (pid < UInt32.size) = true) ↔ pid ≤ 4294967295 := by
    rw [decide_eq_true_iff, size_uint32]
    omega
  constructor
  · intro h
    obtain ⟨s, hs, h⟩ := Option.bind_eq_some_iff.mp h
    obtain ⟨hvalue, hsmall⟩ := Option.filter_eq_some_iff.mp h
    obtain ⟨front, back, hsplit, hfront, hback⟩ :=
      Text.exists_of_strip Unicode.isWhiteSpace s.toList
    rw [Text.trim, String.toList_ofList] at hvalue
    obtain rfl := Bytes.text?_eq_some_iff.mp hs
    rw [← String.ofList_toList (s := s), hsplit]
    split at hvalue
    next digits hplus =>
      obtain ⟨hne, hdigits, hvalue⟩ := digitsValue?_eq_some_iff.mp hvalue
      rw [hplus]
      exact .intro hfront (.inr rfl) hne hdigits hvalue (hfits.mp hsmall) hback
    next =>
      obtain ⟨hne, hdigits, hvalue⟩ := digitsValue?_eq_some_iff.mp hvalue
      exact @NamesProcess.intro front [] _ back pid hfront (.inl rfl) hne hdigits hvalue
        (hfits.mp hsmall) hback
  · rintro @⟨front, sign, digits, back, pid, hfront, hsign, hne, hdigits, hvalue, hsmall, hback⟩
    have hsolid : ∀ c ∈ sign ++ digits, Unicode.isWhiteSpace c = false := by
      intro c hc
      rcases List.mem_append.mp hc with hc | hc
      · rcases hsign with rfl | rfl
        · cases hc
        · obtain rfl := List.mem_singleton.mp hc
          decide
      · exact not_isWhiteSpace_of_isDigit (hdigits c hc)
    have hread := digitsValue?_eq_some_iff.mpr ⟨hne, hdigits, hvalue⟩
    rw [holder?, Bytes.text?_ofText, Option.bind_some, Text.trim, String.toList_ofList,
      String.toList_ofList, Text.strip_around hfront hsolid hback]
    refine Option.filter_eq_some_iff.mpr ⟨?_, hfits.mpr hsmall⟩
    rcases hsign with rfl | rfl
    · rw [List.nil_append]
      split
      next =>
        -- no digit is a sign
        have hdigit : '+'.isDigit = true := hdigits '+' List.mem_cons_self
        cases hdigit
      next => exact hread
    · exact hread

/-- What a run writes into its lock is read back as its process number. -/
theorem holder?_claim {pid : Nat} (h : pid < UInt32.size) : holder? (claim pid) = some pid := by
  refine holder?_eq_some_iff.mpr ?_
  have hclaim : claim pid
      = Bytes.ofText (String.ofList ([] ++ ([] ++ Nat.toDigits 10 pid ++ ['\n']))) := by
    rw [claim, List.nil_append, List.nil_append, String.ofList_append,
      ← Nat.toString_eq_ofList_toDigits]
  rw [hclaim]
  refine .intro (fun c hc => nomatch hc) (.inl rfl) Nat.toDigits_ne_nil ?_
    Nat.ofDigitChars_ten_toDigits (Nat.le_of_lt_succ h) fun c hc => ?_
  · exact fun c hc => Nat.isDigit_of_mem_toDigits (by decide) (by decide) hc
  · obtain rfl := List.mem_singleton.mp hc
    decide

/-- The process number that an entry names, if it is a lock that can be read. -/
def named? : Option Entry → Option Nat
  | some (.file content _) => holder? content
  | _ => none

variable {σ : Type} {spot : Spot σ} {found : Option Entry}

theorem readHolder_eq {w : σ} (h : spot.Shows w found) : readHolder spot w = (named? found, w) := by
  obtain ⟨f, hlook, hget⟩ := h
  simp only [readHolder, bind, StateT.bind, Place.read, hlook, Folder.read, hget]
  match found with
  | none => rfl
  | some (.file _ _) => rfl
  | some (.folder _) => rfl

/-- A file that is signed holds the claim. -/
theorem sign_file (hspot : spot.place.Lawful) (self : Nat) {w : σ} {content : Bytes}
    {executable : Bool} (h : spot.Shows w (some (.file content executable))) :
    ∃ w', sign self spot w = (.ok (), w') ∧
      spot.Shows w' (some (.file (claim self) executable)) := by
  obtain ⟨f, hlook, hget⟩ := h
  refine ⟨spot.place.change (f.put spot.name (.file (claim self) executable)) w, ?_, _,
    hspot.look_change _ w (by rw [hlook]; rfl), Folder.get?_put_self _ _ _⟩
  simp only [sign, Place.attempt, hlook, hget]

/-- Where no file is, nothing is written. -/
theorem sign_other (hspot : spot.place.Lawful) (self : Nat) {w : σ} (h : spot.Shows w found)
    (hfile : ∀ content executable, found ≠ some (.file content executable)) :
    ∃ w', sign self spot w = (.ok (), w') ∧ spot.Shows w' found := by
  obtain ⟨f, hlook, rfl⟩ := h
  refine ⟨spot.place.change f w, ?_, f, hspot.look_change f w (by rw [hlook]; rfl), rfl⟩
  -- the case of a file is ruled out by `hfile`
  simp only [sign, Place.attempt, hlook]

/-! ## The specification -/

variable {vcs : VersionControl σ} {alive : Nat → Bool} {self : Nat}

/-- What a step of an attempt does to its stage and to the entry at the spot. -/
inductive Advanced (alive : Nat → Bool) (self : Nat) :
    Stage → Option Entry → Stage → Option Entry → Prop where
  | created : Advanced alive self .create none .sign (some (.file [] false))
  | occupied {entry : Entry} : Advanced alive self .create (some entry) .inspect (some entry)
  | read {found : Option Entry} {pid : Nat} (h : named? found = some pid) :
      Advanced alive self .inspect found (.probe pid) found
  | unreadable {found : Option Entry} (h : named? found = none) :
      Advanced alive self .inspect found .tell found
  | running {found : Option Entry} {pid : Nat} (h : isRunning alive pid = true) :
      Advanced alive self (.probe pid) found .tell found
  | gone {found : Option Entry} {pid : Nat} (h : isRunning alive pid = false) :
      Advanced alive self (.probe pid) found (.askFrames pid) found
  | unstashed {found : Option Entry} {pid : Nat} :
      Advanced alive self (.askFrames pid) found (.removeStale pid) found
  | stashed {found : Option Entry} {pid : Nat} {error : RunError} :
      Advanced alive self (.askFrames pid) found (.refused error) found
  | removed {found : Option Entry} {pid : Nat} (h : ∀ entries, found ≠ some (.folder entries)) :
      Advanced alive self (.removeStale pid) found .recreate none
  | unremovable {entries : List (String × Entry)} {pid : Nat} {error : RunError} :
      Advanced alive self (.removeStale pid) (some (.folder entries)) (.refused error)
        (some (.folder entries))
  | recreated : Advanced alive self .recreate none .sign (some (.file [] false))
  | overtaken {entry : Entry} : Advanced alive self .recreate (some entry) .tell (some entry)
  | signed {content : Bytes} {executable : Bool} :
      Advanced alive self .sign (some (.file content executable)) .taken
        (some (.file (claim self) executable))
  | unsigned {found : Option Entry} (h : ∀ content executable, found ≠ some (.file content executable)) :
      Advanced alive self .sign found .taken found
  | withdrawn {content : Bytes} {executable : Bool} {error : RunError} :
      Advanced alive self (.withdraw error) (some (.file content executable)) (.refused error) none
  | left {found : Option Entry} {error : RunError}
      (h : ∀ content executable, found ≠ some (.file content executable)) :
      Advanced alive self (.withdraw error) found (.refused error) found
  | told {found : Option Entry} {error : RunError} :
      Advanced alive self .tell found (.refused error) found
  | taken {found : Option Entry} : Advanced alive self .taken found .taken found
  | refused {found : Option Entry} {error : RunError} :
      Advanced alive self (.refused error) found (.refused error) found

/-- Asking for frames leaves the directory there, and the entry at the spot alone. -/
def AsksOnly (vcs : VersionControl σ) (spot : Spot σ) : Prop :=
  ∀ labels w found, spot.Shows w found → spot.Shows (vcs.heldFrames labels w).2 found

variable (vcs alive self) in
/-- The steps do nothing else, if asking for frames is only asking. -/
theorem advances (hspot : spot.place.Lawful)
    (hquery : AsksOnly vcs spot)
    (stage : Stage) (s : Session σ) (h : spot.Shows s.world found) :
    ∃ after, spot.Shows (advance vcs alive self spot stage s).2.world after ∧
      Advanced alive self stage found (advance vcs alive self spot stage s).1 after := by
  cases stage with
  | create =>
    simp only [advance, Act.quietly, bind, StateT.bind]
    match found with
    | none =>
      obtain ⟨w, hw, hshows⟩ := h.create_free hspot
      rw [hw]
      exact ⟨_, hshows, .created⟩
    | some entry =>
      rw [h.create_taken]
      exact ⟨_, h, .occupied⟩
  | inspect =>
    simp only [advance, Act.quietly, bind, StateT.bind, readHolder_eq h]
    match hnamed : named? found with
    | some pid => exact ⟨_, h, .read hnamed⟩
    | none => exact ⟨_, h, .unreadable hnamed⟩
  | probe pid =>
    cases hrunning : isRunning alive pid with
    | true => exact ⟨_, h, by simpa only [advance, hrunning, if_true] using .running hrunning⟩
    | false =>
      exact ⟨_, h, by simpa only [advance, hrunning, Bool.false_eq_true, if_false] using .gone hrunning⟩
  | askFrames pid =>
    simp only [advance, VersionControl.askHeldFrames, Act.perform, bind, StateT.bind]
    have hshows := hquery [unstagedLabel, stagedLabel] s.world found h
    generalize vcs.heldFrames [unstagedLabel, stagedLabel] s.world = asked at hshows ⊢
    obtain ⟨answer, w⟩ := asked
    match answer with
    | .error e => exact ⟨_, hshows, .stashed⟩
    | .ok [] => exact ⟨_, hshows, .unstashed⟩
    | .ok (_ :: _) => exact ⟨_, hshows, .stashed⟩
  | removeStale pid =>
    simp only [advance, Act.line, Act.say, Act.quietly, bind, StateT.bind]
    match found with
    | some (.folder entries) =>
      rw [h.clear_folder]
      exact ⟨_, h, .unremovable⟩
    | some (.file content executable) =>
      obtain ⟨w, hw, hshows⟩ := h.clear hspot (by rintro _ ⟨⟩)
      rw [hw]
      exact ⟨_, hshows, .removed (by rintro _ ⟨⟩)⟩
    | none =>
      obtain ⟨w, hw, hshows⟩ := h.clear hspot (by rintro _ ⟨⟩)
      rw [hw]
      exact ⟨_, hshows, .removed (by rintro _ ⟨⟩)⟩
  | recreate =>
    simp only [advance, Act.quietly, bind, StateT.bind]
    match found with
    | none =>
      obtain ⟨w, hw, hshows⟩ := h.create_free hspot
      rw [hw]
      exact ⟨_, hshows, .recreated⟩
    | some entry =>
      rw [h.create_taken]
      exact ⟨_, h, .overtaken⟩
  | sign =>
    simp only [advance, Act.quietly, bind, StateT.bind]
    by_cases hfile : ∃ content executable, found = some (.file content executable)
    · obtain ⟨content, executable, rfl⟩ := hfile
      obtain ⟨w, hw, hshows⟩ := sign_file hspot self h
      rw [hw]
      exact ⟨_, hshows, .signed⟩
    · push Not at hfile
      obtain ⟨w, hw, hshows⟩ := sign_other hspot self h hfile
      rw [hw]
      exact ⟨_, hshows, .unsigned hfile⟩
  | withdraw error =>
    simp only [advance, Act.quietly, bind, StateT.bind]
    match found with
    | some (.folder entries) =>
      rw [h.remove_folder]
      exact ⟨_, h, .left (by rintro _ _ ⟨⟩)⟩
    | some (.file content executable) =>
      obtain ⟨w, hw, hshows⟩ := h.remove_file hspot
      rw [hw]
      exact ⟨_, hshows, .withdrawn⟩
    | none =>
      rw [h.remove_free]
      exact ⟨_, h, .left (by rintro _ _ ⟨⟩)⟩
  | tell =>
    simp only [advance, Act.quietly, bind, StateT.bind, readHolder_eq h]
    exact ⟨_, h, .told⟩
  | taken => exact ⟨_, h, .taken⟩
  | refused error => exact ⟨_, h, .refused⟩

end Lock

end LintGate
