/-
What stands at a spot after a file operation.

A folder is read by name, so each of its changes is told by what every name stands for
afterwards. The operations on a spot are told the same way: what stood there before, the
answer, and what stands there now. An operation that fails leaves the world as it was.

The world's directories are given by a look and a change, and a lawful place is one where
what is put in is found. Nothing else is asked of a world. A directory below a folder of the
world is such a place, however deep it lies.
-/
import LintGate.Files.Tree
import LintGate.Rehearsal
import Mathlib.Data.List.Basic

set_option autoImplicit false

namespace LintGate

/-! ## Names in a folder -/

namespace Folder

theorem get?_cons (name : String) (entry : Entry) (f : Folder) (other : String) :
    get? ((name, entry) :: f) other = if other = name then some entry else f.get? other := by
  rw [get?, List.lookup_cons]
  by_cases h : other = name
  · simp [h]
  · rw [if_neg h, beq_false_of_ne h]
    rfl

theorem get?_put (f : Folder) (name : String) (entry : Entry) (other : String) :
    (f.put name entry).get? other = if other = name then some entry else f.get? other := by
  induction f with
  | nil => exact get?_cons name entry [] other
  | cons e f ih =>
    obtain ⟨n, old⟩ := e
    rw [put]
    by_cases hn : n = name
    · rw [if_pos hn, get?_cons, get?_cons, hn]
      split <;> rfl
    · rw [if_neg hn, get?_cons, get?_cons, ih]
      by_cases h : other = n
      · rw [if_pos h, if_pos h, if_neg (h ▸ hn)]
      · rw [if_neg h, if_neg h]

@[simp] theorem get?_put_self (f : Folder) (name : String) (entry : Entry) :
    (f.put name entry).get? name = some entry := by
  rw [get?_put, if_pos rfl]

@[simp] theorem get?_erase_self (f : Folder) (name : String) : (f.erase name).get? name = none := by
  refine List.lookup_eq_none_iff.mpr fun e he => ?_
  have hne : e.1 ≠ name := by simpa [erase] using (List.mem_filter.mp he).2
  exact bne_iff_ne.mpr hne.symm

theorem put_put (f : Folder) (name : String) (entry entry' : Entry) :
    (f.put name entry).put name entry' = f.put name entry' := by
  induction f with
  | nil => simp only [put, if_true]
  | cons e f ih =>
    obtain ⟨n, old⟩ := e
    by_cases hn : n = name
    · simp only [put, if_pos hn]
    · simp only [put, if_neg hn, ih]

/-- A new name comes in at the end. -/
theorem put_of_free {f : Folder} {name : String} (entry : Entry) (h : f.get? name = none) :
    f.put name entry = f ++ [(name, entry)] := by
  induction f with
  | nil => rfl
  | cons e f ih =>
    obtain ⟨n, old⟩ := e
    rw [get?_cons] at h
    split at h
    · cases h
    next hn => rw [put, if_neg (Ne.symm hn), ih h, List.cons_append]

theorem erase_of_free {f : Folder} {name : String} (h : f.get? name = none) : f.erase name = f := by
  refine List.filter_eq_self.mpr fun e he => ?_
  exact bne_iff_ne.mpr (bne_iff_ne.mp (List.lookup_eq_none_iff.mp h e he)).symm

/-- A new name that goes again leaves what was there. -/
theorem erase_put_of_free {f : Folder} {name : String} (entry : Entry) (h : f.get? name = none) :
    (f.put name entry).erase name = f := by
  have hself : [(name, entry)].filter (fun e => e.1 != name) = [] := by simp
  rw [put_of_free entry h, erase, List.filter_append, hself, List.append_nil]
  exact erase_of_free h

theorem get?_erase_of_ne (f : Folder) {name other : String} (h : other ≠ name) :
    (f.erase name).get? other = f.get? other := by
  induction f with
  | nil => rfl
  | cons e f ih =>
    obtain ⟨n, entry⟩ := e
    by_cases hn : n = name
    · rw [erase, List.filter_cons_of_neg (by simp [hn]), get?_cons, if_neg (hn ▸ h)]
      exact ih
    · rw [erase, List.filter_cons_of_pos (by simp [hn]), get?_cons, get?_cons]
      split
      · rfl
      · exact ih

/-- A new file that is renamed comes in the place of the file that had its name. -/
theorem rename_put {f : Folder} {made name : String} {content : Bytes} (hmade : f.get? made = none)
    (hfile : ∀ entries, f.get? name ≠ some (.folder entries)) :
    (f.put made (.file content false)).rename made name = .ok (f.put name (.file content false)) := by
  have hnamed : ∀ entries, (f.put made (.file content false)).get? name ≠ some (.folder entries) := by
    intro entries h
    rw [get?_put] at h
    split at h
    · cases h
    · exact hfile entries h
  have herase : (.ok (((f.put made (.file content false)).erase made).put name (.file content false)) :
      Except Fault Folder) = .ok (f.put name (.file content false)) := by
    rw [erase_put_of_free _ hmade]
  rw [rename, get?_put_self]
  match hentry : (f.put made (.file content false)).get? name with
  | none => exact herase
  | some (.file _ _) => exact herase
  | some (.folder entries) => exact absurd hentry (hnamed entries)

theorem rename_put_folder {f : Folder} {made name : String} {content : Bytes}
    {entries : List (String × Entry)} (hmade : f.get? made = none)
    (hfolder : f.get? name = some (.folder entries)) :
    (f.put made (.file content false)).rename made name = .error .isDirectory := by
  have hne : name ≠ made := by
    rintro rfl
    cases hmade.symm.trans hfolder
  have hnamed : (f.put made (.file content false)).get? name = some (.folder entries) := by
    rw [get?_put, if_neg hne, hfolder]
  rw [rename, get?_put_self]
  dsimp only
  rw [hnamed]

theorem le_foldl_max (ns : List Nat) (start : Nat) :
    start ≤ ns.foldl Nat.max start ∧ ∀ n ∈ ns, n ≤ ns.foldl Nat.max start := by
  induction ns generalizing start with
  | nil => exact ⟨Nat.le_refl _, fun n hn => nomatch hn⟩
  | cons m ns ih =>
    obtain ⟨hstart, hall⟩ := ih (start.max m)
    refine ⟨Nat.le_trans (Nat.le_max_left start m) hstart, fun n hn => ?_⟩
    rcases List.mem_cons.mp hn with rfl | hn
    · exact Nat.le_trans (Nat.le_max_right start n) hstart
    · exact hall n hn

/-- The free name is free. -/
theorem get?_freeName (f : Folder) : f.get? f.freeName = none := by
  refine List.lookup_eq_none_iff.mpr fun e he => bne_iff_ne.mpr fun heq => ?_
  have hlength : e.1.length ≤ (f.names.map String.length).foldl Nat.max 0 :=
    (le_foldl_max _ 0).2 _ (List.mem_map_of_mem (List.mem_map_of_mem he))
  rw [← heq, freeName, String.length_ofList, List.length_replicate] at hlength
  exact absurd hlength (Nat.not_succ_le_self _)

end Folder

/-! ## Operations at a place -/

namespace Place

variable {σ : Type} {p : Place σ} {operation : Folder → Except Fault Folder} {s s' : σ}

variable (operation) in
theorem attempt_of_ok {f f' : Folder} (hp : p.Lawful) (hlook : p.look s = some f)
    (hf : operation f = .ok f') :
    ∃ s', p.attempt operation s = (.ok (), s') ∧ p.look s' = some f' := by
  refine ⟨p.change f' s, ?_, hp.look_change f' s (by rw [hlook]; rfl)⟩
  simp only [attempt, hlook, hf]

variable (operation) in
theorem attempt_of_error {f : Folder} {e : Fault} (hlook : p.look s = some f)
    (hf : operation f = .error e) : p.attempt operation s = (.error e, s) := by
  simp only [attempt, hlook, hf]

theorem within_of_look {steps : StateM Folder (Except Fault Unit)} {f : Folder}
    (hlook : p.look s = some f) : p.within steps s = ((steps f).1, p.change (steps f).2 s) := by
  simp only [within, hlook]
  rfl

end Place

/-! ## Operations at a spot -/

namespace Spot

variable {σ : Type} {spot : Spot σ} {s s' : σ}

theorem look_eq {f : Folder} (h : spot.place.look s = some f) :
    spot.look s = f.get? spot.name := by
  rw [look, h]
  rfl

theorem look_eq_none (h : spot.place.look s = none) : spot.look s = none := by
  rw [look, h]
  rfl

/-- Without the directory there is nothing to remove, and that is not told. -/
theorem clear_missing (hlook : spot.place.look s = none) : spot.clear s = (.ok (), s) := by
  simp only [Spot.clear, bind, StateT.bind, remove, Place.attempt, hlook]
  rfl

/-- A spot is cleared unless a directory is there, and no other name is touched. -/
theorem clear_of_look (hspot : spot.place.Lawful) {f : Folder} (hlook : spot.place.look s = some f)
    (hfile : ∀ entries, f.get? spot.name ≠ some (.folder entries)) :
    ∃ s', spot.clear s = (.ok (), s') ∧ spot.place.look s' = some (f.erase spot.name) := by
  match hentry : f.get? spot.name with
  | none =>
    have hremove : f.remove spot.name = .error .notFound := by rw [Folder.remove, hentry]
    refine ⟨s, ?_, hlook.trans (congrArg some (Folder.erase_of_free hentry).symm)⟩
    simp only [Spot.clear, bind, StateT.bind, remove,
      Place.attempt_of_error (·.remove spot.name) hlook hremove]
    rfl
  | some (.file _ _) =>
    have hremove : f.remove spot.name = .ok (f.erase spot.name) := by rw [Folder.remove, hentry]
    obtain ⟨s', hs', hlook'⟩ := Place.attempt_of_ok (·.remove spot.name) hspot hlook hremove
    refine ⟨s', ?_, hlook'⟩
    simp only [Spot.clear, bind, StateT.bind, remove, hs']
    rfl
  | some (.folder entries) => exact absurd hentry (hfile entries)

/-! ## A directory that is there -/

/-- The directory is there, and this entry, or nothing, stands at the spot. -/
def Shows (spot : Spot σ) (s : σ) (found : Option Entry) : Prop :=
  ∃ f, spot.place.look s = some f ∧ f.get? spot.name = found

namespace Shows

variable {found : Option Entry}

theorem look (h : spot.Shows s found) : spot.look s = found := by
  obtain ⟨f, hlook, hget⟩ := h
  rw [look_eq hlook, hget]

theorem create_free (hspot : spot.place.Lawful) (h : spot.Shows s none) :
    ∃ s', spot.create s = (.ok (), s') ∧ spot.Shows s' (some (.file [] false)) := by
  obtain ⟨f, hlook, hget⟩ := h
  have hf : f.create spot.name = .ok (f.put spot.name (.file [] false)) := by
    rw [Folder.create, hget]
  obtain ⟨s', hs', hlook'⟩ := Place.attempt_of_ok (·.create spot.name) hspot hlook hf
  exact ⟨s', hs', _, hlook', Folder.get?_put_self _ _ _⟩

theorem create_taken {entry : Entry} (h : spot.Shows s (some entry)) :
    spot.create s = (.error .taken, s) := by
  obtain ⟨f, hlook, hget⟩ := h
  have hf : f.create spot.name = .error .taken := by rw [Folder.create, hget]
  exact Place.attempt_of_error (·.create spot.name) hlook hf

theorem remove_file (hspot : spot.place.Lawful) {content : Bytes} {executable : Bool}
    (h : spot.Shows s (some (.file content executable))) :
    ∃ s', spot.remove s = (.ok (), s') ∧ spot.Shows s' none := by
  obtain ⟨f, hlook, hget⟩ := h
  have hf : f.remove spot.name = .ok (f.erase spot.name) := by rw [Folder.remove, hget]
  obtain ⟨s', hs', hlook'⟩ := Place.attempt_of_ok (·.remove spot.name) hspot hlook hf
  exact ⟨s', hs', _, hlook', Folder.get?_erase_self _ _⟩

theorem remove_folder {entries : List (String × Entry)}
    (h : spot.Shows s (some (.folder entries))) : spot.remove s = (.error .isDirectory, s) := by
  obtain ⟨f, hlook, hget⟩ := h
  have hf : f.remove spot.name = .error .isDirectory := by rw [Folder.remove, hget]
  exact Place.attempt_of_error (·.remove spot.name) hlook hf

theorem remove_free (h : spot.Shows s none) : spot.remove s = (.error .notFound, s) := by
  obtain ⟨f, hlook, hget⟩ := h
  have hf : f.remove spot.name = .error .notFound := by rw [Folder.remove, hget]
  exact Place.attempt_of_error (·.remove spot.name) hlook hf

/-- A spot is cleared unless a directory is there. -/
theorem clear (hspot : spot.place.Lawful) (h : spot.Shows s found)
    (hfile : ∀ entries, found ≠ some (.folder entries)) :
    ∃ s', spot.clear s = (.ok (), s') ∧ spot.Shows s' none := by
  obtain ⟨f, hlook, rfl⟩ := h
  obtain ⟨s', hs', hlook'⟩ := clear_of_look hspot hlook hfile
  exact ⟨s', hs', _, hlook', Folder.get?_erase_self _ _⟩

theorem clear_folder {entries : List (String × Entry)}
    (h : spot.Shows s (some (.folder entries))) : spot.clear s = (.error .isDirectory, s) := by
  simp only [Spot.clear, bind, StateT.bind, h.remove_folder]
  rfl

end Shows

end Spot

/-- The directory of a rehearsal is one where what is put in is found. -/
theorem Rehearsal.place_lawful : Rehearsal.place.Lawful :=
  ⟨fun _ _ _ => rfl, fun _ _ _ => rfl⟩

/-! ## A directory of a tree -/

namespace Folder

/-- The folder that a step leads to, which is an empty one where there is nothing. -/
def inner? (f : Folder) (step : String) : Option Folder :=
  match f.lookup step with
  | some (.folder inner) => some inner
  | some (.file ..) => none
  | none => some []

theorem inner?_put (f inner : Folder) (step : String) :
    (f.put step (.folder inner)).inner? step = some inner := by
  have hself : (f.put step (.folder inner)).lookup step = some (.folder inner) :=
    get?_put_self f step _
  rw [inner?, hself]

/-- A change below a step is a change of the folder that the step leads to. -/
theorem changeAt_cons_eq_ok {f f' : Folder} {change : Folder → Except Fault Folder} {step : String}
    {rest : List String} :
    f.changeAt change (step :: rest) = .ok f' ↔
      ∃ inner inner', f.inner? step = some inner ∧ inner.changeAt change rest = .ok inner' ∧
        f' = f.put step (.folder inner') := by
  have hput : ∀ inner : Folder,
      (do return f.put step (.folder (← inner.changeAt change rest)) : Except Fault Folder) = .ok f' ↔
        ∃ inner', inner.changeAt change rest = .ok inner' ∧ f' = f.put step (.folder inner') := by
    intro inner
    cases inner.changeAt change rest with
    | error e => exact ⟨fun h => (nomatch h), fun ⟨_, h, _⟩ => (nomatch h)⟩
    | ok inner' =>
      constructor
      · intro h
        cases h
        exact ⟨inner', rfl, rfl⟩
      · rintro ⟨_, h, rfl⟩
        cases h
        rfl
  rw [changeAt, inner?]
  cases f.lookup step with
  | none =>
    refine (hput []).trans ?_
    simp
  | some entry =>
    cases entry with
    | file content executable => simp
    | folder inner =>
      refine (hput inner).trans ?_
      simp

/-- A folder that is there can be exchanged for another one. -/
theorem exists_changeAt {f g : Folder} {steps : List String} (h : (f.folderAt? steps).isSome) :
    ∃ f', f.changeAt (fun _ => .ok g) steps = .ok f' := by
  induction steps generalizing f with
  | nil => exact ⟨g, rfl⟩
  | cons step rest ih =>
    unfold folderAt? at h
    split at h
    · rename_i inner hstep
      obtain ⟨inner', hinner⟩ := ih h
      refine ⟨_, changeAt_cons_eq_ok.mpr ⟨inner, inner', ?_, hinner, rfl⟩⟩
      rw [inner?, hstep]
    · cases h

/-- What was put in place of a folder is found there. -/
theorem folderAt?_changeAt {f f' g : Folder} {steps : List String}
    (h : f.changeAt (fun _ => .ok g) steps = .ok f') : f'.folderAt? steps = some g := by
  induction steps generalizing f f' with
  | nil =>
    cases h
    rfl
  | cons step rest ih =>
    obtain ⟨inner, inner', -, hinner, rfl⟩ := changeAt_cons_eq_ok.mp h
    have hself : (f.put step (.folder inner')).lookup step = some (.folder inner') :=
      get?_put_self f step _
    rw [folderAt?, hself]
    exact ih hinner

/-- Of two exchanges in one place the second one counts. -/
theorem changeAt_changeAt {f f' f'' g h : Folder} {steps : List String}
    (hfirst : f.changeAt (fun _ => .ok g) steps = .ok f')
    (hsecond : f'.changeAt (fun _ => .ok h) steps = .ok f'') :
    f.changeAt (fun _ => .ok h) steps = .ok f'' := by
  induction steps generalizing f f' f'' with
  | nil => exact hsecond
  | cons step rest ih =>
    obtain ⟨inner, inner', hstep, hinner, rfl⟩ := changeAt_cons_eq_ok.mp hfirst
    obtain ⟨made, made', hmade, hchange, rfl⟩ := changeAt_cons_eq_ok.mp hsecond
    -- the second exchange is made in what the first one left
    rw [inner?_put] at hmade
    cases hmade
    rw [put_put]
    exact changeAt_cons_eq_ok.mpr ⟨inner, made', hstep, ih hinner hchange, rfl⟩

end Folder

/-- A directory below a folder of a world is lawful where the folder can be looked at and set. -/
theorem Place.below_lawful {σ : Type} {root : σ → Folder} {setRoot : Folder → σ → σ}
    (hget : ∀ f s, root (setRoot f s) = f) (hset : ∀ f g s, setRoot f (setRoot g s) = setRoot f s)
    (steps : List String) : (Place.below root setRoot steps).Lawful := by
  constructor
  · intro f s hlook
    obtain ⟨r, hr⟩ := Folder.exists_changeAt (g := f) hlook
    simp only [below, hr, hget]
    exact Folder.folderAt?_changeAt hr
  · intro f g s
    unfold below
    dsimp only
    cases hg : (root s).changeAt (fun _ => .ok g) steps with
    | error e => rfl
    | ok r =>
      have hthere : (r.folderAt? steps).isSome := by
        rw [Folder.folderAt?_changeAt hg]
        rfl
      obtain ⟨r', hr'⟩ := Folder.exists_changeAt (g := f) hthere
      simp only [hget, hr', Folder.changeAt_changeAt hg hr', hset]

end LintGate
