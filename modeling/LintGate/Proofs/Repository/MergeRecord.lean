/-
The record of a merge, read and written back.

Three files record a merge: its head, its message and its mode. Each of them may be there
without the others, an empty file is not a missing one, and the bytes are any. What is read
is written back as it was, for every combination of the three, as long as there is a head;
`Repository.mergeRecord_restored` says so.

Without a head there is no merge, whatever else is there: the reader answers that there is
none, and then nothing is written. So a message that is kept for the next commit and is not
a merge's, as a squashed merge leaves one, is not among what is brought back. That is the
only way for a file to be lost.
-/
import LintGate.Proofs.Files.Place
import LintGate.Sandbox.Repository
import Mathlib.Data.List.Nodup

set_option autoImplicit false

namespace LintGate

/-- A directory of a sandbox is one where what is put in is found. -/
theorem Sandbox.placeOf_lawful (steps : List String) : (placeOf steps).Lawful := by
  apply Place.below_lawful
  · intro disk m
    rfl
  · intro disk disk' m
    rfl

/-! ## Files of a folder -/

namespace Folder

/-- What a folder has under a name: the bytes of a file, or nothing at all. -/
def Holds (f : Folder) (name : String) : Option Bytes → Prop
  | none => f.get? name = none
  | some content => ∃ executable, f.get? name = some (.file content executable)

variable {f : Folder} {name : String}

theorem Holds.eq {content content' : Option Bytes} (h : f.Holds name content)
    (h' : f.Holds name content') : content = content' := by
  cases content with
  | none =>
    have habsent : f.get? name = none := h
    cases content' with
    | none => rfl
    | some bytes =>
      obtain ⟨executable, hfile⟩ := h'
      cases habsent.symm.trans hfile
  | some bytes =>
    obtain ⟨executable, hfile⟩ := h
    cases content' with
    | none =>
      have habsent : f.get? name = none := h'
      cases habsent.symm.trans hfile
    | some bytes' =>
      obtain ⟨executable', hfile'⟩ := h'
      cases hfile.symm.trans hfile'
      rfl

/-- A folder that has the same under a name holds the same there. -/
theorem Holds.of_get?_eq {f' : Folder} {content : Option Bytes} (h : f.Holds name content)
    (heq : f'.get? name = f.get? name) : f'.Holds name content := by
  cases content with
  | none => exact heq.trans h
  | some bytes =>
    obtain ⟨executable, hfile⟩ := h
    exact ⟨executable, heq.trans hfile⟩

/-- A file is written over what a folder holds, and no other name is touched. -/
theorem Holds.write {before : Option Bytes} (h : f.Holds name before) (content : Bytes) :
    ∃ f', f.write name content = .ok f' ∧ f'.Holds name (some content) ∧
      ∀ other, other ≠ name → f'.get? other = f.get? other := by
  have hput : ∀ executable,
      (f.put name (.file content executable)).Holds name (some content) ∧
        ∀ other, other ≠ name →
          (f.put name (.file content executable)).get? other = f.get? other := by
    intro executable
    refine ⟨⟨executable, get?_put_self f name _⟩, ?_⟩
    intro other hother
    rw [get?_put, if_neg hother]
  cases before with
  | none =>
    have habsent : f.get? name = none := h
    refine ⟨_, ?_, hput false⟩
    rw [Folder.write, habsent]
  | some bytes =>
    obtain ⟨executable, hfile⟩ := h
    refine ⟨_, ?_, hput executable⟩
    rw [Folder.write, hfile]

end Folder

/-! ## The three files -/

/-- The bytes of the files that record a merge, each where it is there. -/
structure MergeFiles where
  head : Option Bytes := none
  message : Option Bytes := none
  mode : Option Bytes := none
deriving DecidableEq

namespace MergeFiles

/-- The merge that the files record: there is one if there is a head. -/
def merge? (files : MergeFiles) : Option MergeState :=
  files.head.map fun head => ⟨head, files.message, files.mode⟩

/-- The files that belong to a merge. -/
def kept (files : MergeFiles) : MergeFiles :=
  if files.head.isSome then files else {}

/-- The files are those of a merge exactly if a message or a mode does not come without a head. -/
theorem kept_eq_self_iff {files : MergeFiles} :
    files.kept = files ↔ (files.head = none → files.message = none ∧ files.mode = none) := by
  obtain ⟨head, message, mode⟩ := files
  cases head with
  | none => simp [kept, eq_comm]
  | some bytes => simp [kept]

theorem merge?_kept (files : MergeFiles) : files.kept.merge? = files.merge? := by
  obtain ⟨head, message, mode⟩ := files
  cases head <;> rfl

end MergeFiles

namespace Repository

variable {σ : Type} {r : Repository σ} {s : σ} {files : MergeFiles}

/-- A folder holds the files that record a merge. -/
structure HoldsMerge (f : Folder) (files : MergeFiles) : Prop where
  head : f.Holds "MERGE_HEAD" files.head
  message : f.Holds "MERGE_MSG" files.message
  mode : f.Holds "MERGE_MODE" files.mode

/-- The directory of the records is there, and of the files that record a merge it holds these. -/
def Records (r : Repository σ) (s : σ) (files : MergeFiles) : Prop :=
  ∃ f, r.place.look s = some f ∧ HoldsMerge f files

theorem Records.eq {files' : MergeFiles} (h : r.Records s files) (h' : r.Records s files') :
    files = files' := by
  obtain ⟨f, hlook, hf⟩ := h
  obtain ⟨f', hlook', hf'⟩ := h'
  cases hlook.symm.trans hlook'
  obtain ⟨head, message, mode⟩ := files
  obtain ⟨head', message', mode'⟩ := files'
  rw [MergeFiles.mk.injEq]
  exact ⟨hf.head.eq hf'.head, hf.message.eq hf'.message, hf.mode.eq hf'.mode⟩

/-! ## Reading -/

theorem readRecord_of_holds {f : Folder} {name : String} {content : Option Bytes}
    (hlook : r.place.look s = some f) (h : f.Holds name content) :
    r.readRecord name s = (.ok content, s) := by
  have hread : r.place.read name s = (f.read name, s) := by
    unfold Place.read
    rw [hlook]
  unfold readRecord
  simp only [bind, StateT.bind, hread]
  cases content with
  | none =>
    have habsent : f.get? name = none := h
    rw [Folder.read, habsent]
    rfl
  | some bytes =>
    obtain ⟨executable, hfile⟩ := h
    rw [Folder.read, hfile]
    rfl

/-- **Reading answers the merge that the files record**, and leaves everything as it is. -/
theorem readMergeState_eq (h : r.Records s files) :
    r.readMergeState s = (.ok files.merge?, s) := by
  obtain ⟨f, hlook, hf⟩ := h
  have hhead := readRecord_of_holds hlook hf.head
  have hmessage := readRecord_of_holds hlook hf.message
  have hmode := readRecord_of_holds hlook hf.mode
  unfold readMergeState MergeFiles.merge?
  cases hthere : files.head with
  | none =>
    rw [hthere] at hhead
    simp only [bind, StateT.bind, hhead]
    rfl
  | some head =>
    rw [hthere] at hhead
    simp only [bind, StateT.bind, hhead, hmessage, hmode]
    rfl

/-! ## Writing -/

theorem writeRecord_of_holds (hplace : r.place.Lawful) {f : Folder} {name : String}
    {before : Option Bytes} (hlook : r.place.look s = some f) (h : f.Holds name before)
    (content : Bytes) :
    ∃ s' f', r.writeRecord name content s = (.ok (), s') ∧ r.place.look s' = some f' ∧
      f'.Holds name (some content) ∧ ∀ other, other ≠ name → f'.get? other = f.get? other := by
  obtain ⟨f', hf', hholds, hothers⟩ := h.write content
  obtain ⟨s', hattempt, hlook'⟩ :=
    Place.attempt_of_ok (fun g => g.write name content) hplace hlook hf'
  refine ⟨s', f', ?_, hlook', hholds, hothers⟩
  unfold writeRecord
  simp only [bind, StateT.bind, hattempt]
  rfl

/-- **Files are written one after the other**: each of them is there afterwards, and no other name is
touched. -/
theorem writeRecords_of_holds (hplace : r.place.Lawful) {writes : List (String × Bytes)}
    (hnames : (writes.map (·.1)).Nodup) {f : Folder} (hlook : r.place.look s = some f)
    (hbefore : ∀ w ∈ writes, ∃ before, f.Holds w.1 before) :
    ∃ s' f', r.writeRecords writes s = (.ok (), s') ∧ r.place.look s' = some f' ∧
      (∀ w ∈ writes, f'.Holds w.1 (some w.2)) ∧
      ∀ other, other ∉ writes.map (·.1) → f'.get? other = f.get? other := by
  induction writes generalizing s f with
  | nil => exact ⟨s, f, rfl, hlook, fun w hw => absurd hw List.not_mem_nil, fun _ _ => rfl⟩
  | cons w rest ih =>
    obtain ⟨name, content⟩ := w
    rw [List.map_cons, List.nodup_cons] at hnames
    obtain ⟨before, hname⟩ := hbefore _ List.mem_cons_self
    obtain ⟨s₁, f₁, hwrite, hlook₁, hholds, hothers⟩ :=
      writeRecord_of_holds hplace hlook hname content
    have hne : ∀ w ∈ rest, w.1 ≠ name := by
      intro w hw heq
      apply hnames.1
      rw [← heq]
      exact List.mem_map.mpr ⟨w, hw, rfl⟩
    have hbefore₁ : ∀ w ∈ rest, ∃ before, f₁.Holds w.1 before := by
      intro w hw
      obtain ⟨before, h⟩ := hbefore w (List.mem_cons_of_mem _ hw)
      exact ⟨before, h.of_get?_eq (hothers w.1 (hne w hw))⟩
    obtain ⟨s', f', hrest, hlook', hall, hothers'⟩ := ih hnames.2 hlook₁ hbefore₁
    refine ⟨s', f', ?_, hlook', ?_, ?_⟩
    · unfold writeRecords
      simp only [bind, StateT.bind, hwrite]
      exact hrest
    · intro w hw
      rcases List.mem_cons.mp hw with rfl | hw
      · -- none of the later writes goes to this name
        exact hholds.of_get?_eq (hothers' name hnames.1)
      · exact hall w hw
    · intro other hother
      rw [List.map_cons, List.mem_cons, not_or] at hother
      rw [hothers' other hother.2, hothers other hother.1]

/-- The names of the files that are written for a merge. -/
theorem mem_recordFiles {m : MergeState} {w : String × Bytes} :
    w ∈ recordFiles m ↔ (w.1 = "MERGE_HEAD" ∧ w.2 = m.head) ∨
      (w.1 = "MERGE_MSG" ∧ m.message = some w.2) ∨ (w.1 = "MERGE_MODE" ∧ m.mode = some w.2) := by
  obtain ⟨head, message, mode⟩ := m
  obtain ⟨name, content⟩ := w
  cases message <;> cases mode <;> simp [recordFiles] <;> tauto

theorem nodup_recordFiles (m : MergeState) : ((recordFiles m).map (·.1)).Nodup := by
  obtain ⟨head, message, mode⟩ := m
  cases message <;> cases mode <;> simp [recordFiles]

/-- **Writing a merge makes its files**, over whatever files or gaps there are: the head, and a message
and a mode if the merge has them. What it has not stays as it is. -/
theorem writeMergeState_records (hplace : r.place.Lawful) {m : MergeState}
    (h : r.Records s files) :
    ∃ s', r.versionControl.writeMergeState m s = (.ok (), s') ∧
      r.Records s' ⟨some m.head, m.message.or files.message, m.mode.or files.mode⟩ := by
  obtain ⟨f, hlook, hf⟩ := h
  have hbefore : ∀ w ∈ recordFiles m, ∃ before, f.Holds w.1 before := by
    intro w hw
    rcases mem_recordFiles.mp hw with ⟨hname, -⟩ | ⟨hname, -⟩ | ⟨hname, -⟩
    · exact ⟨_, hname ▸ hf.head⟩
    · exact ⟨_, hname ▸ hf.message⟩
    · exact ⟨_, hname ▸ hf.mode⟩
  obtain ⟨s', f', hwrite, hlook', hall, hothers⟩ :=
    writeRecords_of_holds hplace (nodup_recordFiles m) hlook hbefore
  -- what is not written stays
  have hkept : ∀ {name : String} {content : Option Bytes}, f.Holds name content →
      (∀ w ∈ recordFiles m, w.1 ≠ name) → f'.Holds name content := by
    intro name content hholds hname
    apply hholds.of_get?_eq
    apply hothers
    intro hmem
    obtain ⟨w, hw, heq⟩ := List.mem_map.mp hmem
    exact hname w hw heq
  refine ⟨s', hwrite, f', hlook', ?_, ?_, ?_⟩
  · exact hall ("MERGE_HEAD", m.head) (mem_recordFiles.mpr (.inl ⟨rfl, rfl⟩))
  · cases hmessage : m.message with
    | none =>
      apply hkept hf.message
      intro w hw heq
      simp [mem_recordFiles, heq, hmessage] at hw
    | some content =>
      exact hall ("MERGE_MSG", content) (mem_recordFiles.mpr (.inr (.inl ⟨rfl, hmessage⟩)))
  · cases hmode : m.mode with
    | none =>
      apply hkept hf.mode
      intro w hw heq
      simp [mem_recordFiles, heq, hmode] at hw
    | some content =>
      exact hall ("MERGE_MODE", content) (mem_recordFiles.mpr (.inr (.inr ⟨rfl, hmode⟩)))

/-! ## There and back -/

/-- Writes the record of a merge back, if there is a merge. -/
def writeBack (r : Repository σ) : Option MergeState → StateM σ (Except VcsError Unit)
  | none => return .ok ()
  | some m => r.versionControl.writeMergeState m

/-- **The files of a merge come back as they were.** The record is read, its three files are taken away,
and what was read is written back. Then each of the files is there or missing as at the start, byte for
byte, if there was a head; and without one none of them is there. So a file is lost exactly if a message
or a mode stood there without a head. A second reading answers what the first one did in either case. -/
theorem mergeRecord_restored (hplace : r.place.Lawful) (h : r.Records s files) :
    ∃ merge, r.versionControl.readMergeState s = (.ok merge, s) ∧
      (merge.isSome ↔ files.head.isSome) ∧
      ∀ cleared, r.Records cleared {} →
        ∃ s', r.writeBack merge cleared = (.ok (), s') ∧
          r.Records s' (if files.head.isSome then files else {}) ∧
          (r.Records s' files ↔ (files.head = none → files.message = none ∧ files.mode = none)) ∧
          r.versionControl.readMergeState s' = (.ok merge, s') := by
  refine ⟨files.merge?, readMergeState_eq h, by simp [MergeFiles.merge?], ?_⟩
  intro cleared hcleared
  have hback : ∃ s', r.writeBack files.merge? cleared = (.ok (), s') ∧ r.Records s' files.kept := by
    unfold MergeFiles.merge? MergeFiles.kept
    cases hhead : files.head with
    | none => exact ⟨cleared, rfl, hcleared⟩
    | some head =>
      obtain ⟨s', hwrite, hrecords⟩ :=
        writeMergeState_records hplace (m := ⟨head, files.message, files.mode⟩) hcleared
      refine ⟨s', hwrite, ?_⟩
      simp only [← hhead, Option.or_none] at hrecords
      rwa [← hhead, if_pos (by rw [hhead]; rfl)]
  obtain ⟨s', hwrite, hrecords⟩ := hback
  refine ⟨s', hwrite, hrecords, ?_, ?_⟩
  · rw [← MergeFiles.kept_eq_self_iff]
    constructor
    · intro hfiles
      exact hrecords.eq hfiles
    · intro heq
      rwa [heq] at hrecords
  · rw [← MergeFiles.merge?_kept]
    exact readMergeState_eq hrecords

/-! ## Two records of a sandbox -/

/-- A repository of a sandbox. -/
def sandboxSite : Sandbox.Site := ⟨["work"], ["work", ".git"], false⟩

/-- A sandbox whose repository keeps these records. -/
def sandboxWith (records : Folder) : Sandbox.Machine :=
  { disk := [("work", .folder [(".git", .folder records)])] }

theorem sandboxSite_lawful : sandboxSite.repository.place.Lawful :=
  Sandbox.placeOf_lawful _

/-- A merge with an empty mode and a message that is no text: both come back. -/
theorem mergeRecord_restored_bytes :
    sandboxSite.repository.place.Lawful ∧
      sandboxSite.repository.Records
        (sandboxWith [("MERGE_HEAD", .file [0x61] false), ("MERGE_MSG", .file [0xff, 0x0a] false),
          ("MERGE_MODE", .file [] false)]) ⟨some [0x61], some [0xff, 0x0a], some []⟩ ∧
      sandboxSite.repository.Records (sandboxWith []) {} ∧
      ∃ merge s', sandboxSite.repository.writeBack merge (sandboxWith []) = (.ok (), s') ∧
        merge = some ⟨[0x61], some [0xff, 0x0a], some []⟩ ∧
        sandboxSite.repository.Records s' ⟨some [0x61], some [0xff, 0x0a], some []⟩ := by
  have hrecords : sandboxSite.repository.Records
      (sandboxWith [("MERGE_HEAD", .file [0x61] false), ("MERGE_MSG", .file [0xff, 0x0a] false),
        ("MERGE_MODE", .file [] false)]) ⟨some [0x61], some [0xff, 0x0a], some []⟩ :=
    ⟨_, rfl, ⟨false, rfl⟩, ⟨false, rfl⟩, ⟨false, rfl⟩⟩
  have hcleared : sandboxSite.repository.Records (sandboxWith []) {} := ⟨_, rfl, rfl, rfl, rfl⟩
  obtain ⟨merge, hread, -, hback⟩ := mergeRecord_restored sandboxSite_lawful hrecords
  obtain ⟨s', hwrite, hkept, -, -⟩ := hback (sandboxWith []) hcleared
  refine ⟨sandboxSite_lawful, hrecords, hcleared, merge, s', hwrite, ?_, hkept⟩
  have hmerge := (readMergeState_eq hrecords).symm.trans hread
  cases hmerge
  rfl

/-- The message that a squashed merge leaves for the next commit. -/
def squashMessage : Bytes := Bytes.ofText "Squashed commit\n"

/-- **A message without a head is not brought back.** It is no merge's, so nothing is read, and nothing is
written when it is gone. -/
theorem squashMessage_not_restored :
    sandboxSite.repository.place.Lawful ∧
      sandboxSite.repository.Records (sandboxWith [("MERGE_MSG", .file squashMessage false)])
        ⟨none, some squashMessage, none⟩ ∧
      sandboxSite.repository.Records (sandboxWith []) {} ∧
      (sandboxSite.repository.versionControl.readMergeState
        (sandboxWith [("MERGE_MSG", .file squashMessage false)])).1 = .ok none ∧
      sandboxSite.repository.writeBack none (sandboxWith []) = (.ok (), sandboxWith []) ∧
      ¬sandboxSite.repository.Records (sandboxWith []) ⟨none, some squashMessage, none⟩ := by
  have hcleared : sandboxSite.repository.Records (sandboxWith []) {} := ⟨_, rfl, rfl, rfl, rfl⟩
  have hrecords : sandboxSite.repository.Records
      (sandboxWith [("MERGE_MSG", .file squashMessage false)]) ⟨none, some squashMessage, none⟩ :=
    ⟨_, rfl, rfl, ⟨false, rfl⟩, rfl⟩
  have hread : (sandboxSite.repository.versionControl.readMergeState
      (sandboxWith [("MERGE_MSG", .file squashMessage false)])).1 = .ok none :=
    congrArg Prod.fst (readMergeState_eq hrecords)
  refine ⟨sandboxSite_lawful, hrecords, hcleared, hread, rfl, ?_⟩
  intro hlost
  have heq := hcleared.eq hlost
  cases heq

end Repository

end LintGate
