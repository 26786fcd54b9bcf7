/-
The stash while frames are held.

A run puts entries of its own into the stash and takes them out again, while others push
theirs. What is kept all the time is `Stash.Carries`: the entries that are held are there,
and without them the stash is what it was at the beginning, with those of the others on top.

Every call that drops nothing adds the frame that it recorded, or none (`Keeps.carries_recorded`);
a frame that is held is forgotten with success and is held no more (`Keeps.carries_forgotten`).
Both need that nobody pushes an entry while a call is between two looks at the stash,
or between a listing and a drop (`Repository.Undisturbed`): the gate takes what is on top
behind a save for its own, and what stands where its id was listed for its own as well.
-/
import LintGate.Proofs.Repository.Saving
import LintGate.Proofs.Repository.Stash
import LintGate.Proofs.Snapshot.Frames

set_option autoImplicit false

namespace LintGate

open StashEntry (ids)

variable {σ : Type} {r : Repository σ} {stash : Stash σ} {linter : Linter σ} {s s' w w' : σ}

/-- Nobody pushes an entry while one of the gate's calls relies on what it saw of the stash. -/
structure Repository.Undisturbed (r : Repository σ) (stash : Stash σ) : Prop where
  looking : ∀ s, stash.others (r.stashTop s).2 = stash.others s
  saving : ∀ label keepIndex s,
    stash.others (r.run (saveArgs label keepIndex) s).2 = stash.others s
  listing : ∀ s, stash.others (r.listed s) = stash.others s

/-! ## Held entries -/

namespace StashEntry

variable {held more : List String} {entries : List StashEntry}

/-- The entries but those with some ids. -/
def without (held : List String) (entries : List StashEntry) : List StashEntry :=
  entries.filter fun e => decide (e.id ∉ held)

@[simp] theorem without_append (held : List String) (entries entries' : List StashEntry) :
    without held (entries ++ entries') = without held entries ++ without held entries' :=
  List.filter_append _ _

/-- Where none of the ids is that of an entry, all entries stay. -/
theorem without_eq_self (h : ∀ id ∈ held, id ∉ ids entries) : without held entries = entries := by
  refine List.filter_eq_self.mpr fun e he => decide_eq_true fun hheld => ?_
  exact h e.id hheld (List.mem_map_of_mem he)

/-- Where all of the entries have one of the ids, none stays. -/
theorem without_eq_nil (h : ∀ id ∈ ids entries, id ∈ held) : without held entries = [] := by
  refine List.filter_eq_nil_iff.mpr fun e he hstays => ?_
  exact of_decide_eq_true hstays (h e.id (List.mem_map_of_mem he))

/-- Ids that no entry has make no difference. -/
theorem without_more (h : ∀ id ∈ more, id ∉ ids entries) :
    without (held ++ more) entries = without held entries := by
  refine List.filter_congr fun e he => ?_
  have hnot : e.id ∉ more := fun hmore => h e.id hmore (List.mem_map_of_mem he)
  simp only [List.mem_append, hnot, or_false]

/-- Entries are taken out by one id first, and then by the others. -/
theorem without_cons (id : String) (held : List String) (entries : List StashEntry) :
    without (id :: held) entries = without held (entries.filter fun e => e.id != id) := by
  rw [without, without, List.filter_filter]
  refine List.filter_congr fun e _ => ?_
  rw [Bool.eq_iff_iff]
  simp [and_comm]

end StashEntry

namespace Stash

/-- Entries with some ids are held in a world: they are there, and without them the stash is what it was
in an earlier world, with the entries that others pushed since on top. -/
structure Carries (stash : Stash σ) (earlier : σ) (held : List String) (s : σ) : Prop where
  distinct : held.Nodup
  present : ∀ id ∈ held, id ∈ ids (stash.entries s)
  others : ∃ new, stash.others s = new ++ stash.others earlier ∧
    StashEntry.without held (stash.entries s) = new ++ stash.entries earlier

variable {earlier : σ} {held : List String}

/-- Nothing is held exactly if the stash is the old one with the entries of the others on top. -/
theorem carries_nil_iff : stash.Carries earlier [] s ↔ stash.Grows earlier s := by
  have hall : StashEntry.without [] (stash.entries s) = stash.entries s :=
    StashEntry.without_eq_self fun _ hid => absurd hid List.not_mem_nil
  constructor
  · rintro ⟨-, -, new, hothers, hentries⟩
    rw [hall] at hentries
    exact ⟨new, hothers, hentries⟩
  · rintro ⟨new, hothers, hentries⟩
    rw [← hall] at hentries
    exact ⟨List.nodup_nil, fun _ hid => absurd hid List.not_mem_nil, new, hothers, hentries⟩

/-- A call that makes an entry, or none, adds its id to what is held. -/
theorem Carries.add (h : stash.Carries earlier held s) (hdistinct : (ids (stash.entries s')).Nodup)
    {made : Option StashEntry} (hmade : stash.Leaves s s' (made.toList ++ stash.entries s)) :
    stash.Carries earlier (held ++ ids made.toList) s' := by
  obtain ⟨hheld, hpresent, new, hothers, hentries⟩ := h
  obtain ⟨more, hmore, hleaves⟩ := hmade
  -- the ids of the others, of the new entry and of the rest are three disjoint parts
  rw [hleaves, StashEntry.ids_append, StashEntry.ids_append] at hdistinct
  obtain ⟨-, hback, hmoreapart⟩ := List.nodup_append.mp hdistinct
  obtain ⟨hnew, -, hnewapart⟩ := List.nodup_append.mp hback
  have hbehind : ∀ id ∈ held ++ ids made.toList,
      id ∈ ids made.toList ++ ids (stash.entries s) := by
    intro id hid
    rcases List.mem_append.mp hid with hid | hid
    · exact List.mem_append_right _ (hpresent id hid)
    · exact List.mem_append_left _ hid
  refine ⟨List.nodup_append.mpr ⟨hheld, hnew, ?_⟩, fun id hid => ?_, more ++ new, ?_, ?_⟩
  · exact fun id hid id' hid' heq => hnewapart id' hid' id (hpresent id hid) heq.symm
  · rw [hleaves, StashEntry.ids_append, StashEntry.ids_append]
    exact List.mem_append_right _ (hbehind id hid)
  · rw [hmore, hothers, List.append_assoc]
  · have htheirs : StashEntry.without (held ++ ids made.toList) more = more :=
      StashEntry.without_eq_self fun id hid hmem => hmoreapart id hmem id (hbehind id hid) rfl
    have hown : StashEntry.without (held ++ ids made.toList) made.toList = [] :=
      StashEntry.without_eq_nil fun id hid => List.mem_append_right _ hid
    have hrest : StashEntry.without (held ++ ids made.toList) (stash.entries s)
        = StashEntry.without held (stash.entries s) :=
      StashEntry.without_more fun id hid hmem => hnewapart id hid id hmem rfl
    rw [hleaves, StashEntry.without_append, StashEntry.without_append, htheirs, hown, hrest,
      List.nil_append, hentries, List.append_assoc]

/-- A call that removes a held entry removes its id from what is held. -/
theorem Carries.remove {id : String} (h : stash.Carries earlier (id :: held) s)
    (hdistinct : (ids (stash.entries s')).Nodup)
    (hleft : stash.Leaves s s' ((stash.entries s).filter fun e => e.id != id)) :
    stash.Carries earlier held s' := by
  obtain ⟨hheld, hpresent, new, hothers, hentries⟩ := h
  obtain ⟨hid, hheld⟩ := List.nodup_cons.mp hheld
  obtain ⟨more, hmore, hleaves⟩ := hleft
  have hkept : ∀ id' ∈ held, id' ∈ ids ((stash.entries s).filter fun e => e.id != id) := by
    intro id' hid'
    obtain ⟨e, he, rfl⟩ := List.mem_map.mp (hpresent id' (List.mem_cons_of_mem _ hid'))
    refine List.mem_map_of_mem (List.mem_filter.mpr ⟨he, bne_iff_ne.mpr ?_⟩)
    rintro rfl
    exact hid hid'
  -- what others pushed meanwhile has none of the ids that are still held
  rw [hleaves, StashEntry.ids_append] at hdistinct
  obtain ⟨-, -, hapart⟩ := List.nodup_append.mp hdistinct
  refine ⟨hheld, fun id' hid' => ?_, more ++ new, ?_, ?_⟩
  · rw [hleaves, StashEntry.ids_append]
    exact List.mem_append_right _ (hkept id' hid')
  · rw [hmore, hothers, List.append_assoc]
  · have htheirs : StashEntry.without held more = more :=
      StashEntry.without_eq_self fun id' hid' hmem => hapart id' hmem id' (hkept id' hid') rfl
    rw [hleaves, StashEntry.without_append, htheirs, ← StashEntry.without_cons, hentries,
      List.append_assoc]

end Stash

/-! ## What each call does -/

namespace Repository.Keeps

variable (h : r.Keeps stash) (hundisturbed : r.Undisturbed stash)

include h in
/-- Where nobody pushes meanwhile, setting changes aside makes an entry or none, and the frame that comes
with the answer is that entry under the label. -/
theorem saveFrame_made (hundisturbed : r.Undisturbed stash) (label : String) (keepIndex : Bool) (s : σ) :
    ∃ made : Option StashEntry,
      stash.Leaves s (r.saveFrame label keepIndex s).2 (made.toList ++ stash.entries s) ∧
      Frame.carried (r.saveFrame label keepIndex s).1 = made.map fun e => ⟨e.id, label⟩ := by
  obtain ⟨hread, hlook⟩ := h.looks s
  rw [saveFrame_of_read hread]
  obtain ⟨made, hmade⟩ := h.saves label keepIndex (r.stashTop s).2
  rw [← git_world r "create holding frame"] at hmade
  obtain ⟨hreadagain, hlookagain⟩ := h.looks (r.push label keepIndex (r.stashTop s).2).2
  -- nobody pushes between the looks, so the second one sees the old stash below what was made
  have hbefore : stash.entries (r.stashTop s).2 = stash.entries s :=
    hlook.entries_eq (hundisturbed.looking s)
  have hafter : stash.entries (r.push label keepIndex (r.stashTop s).2).2
      = made.toList ++ stash.entries s := by
    obtain ⟨new, hothers, hentries⟩ := hmade
    rw [git_world, hundisturbed.saving] at hothers
    rw [push, hentries, List.self_eq_append_left.mp hothers, List.nil_append, hbefore]
  refine ⟨made, ?_, ?_⟩
  · refine Stash.Leaves.grows ?_ hlookagain
    refine ⟨[], ?_, hafter⟩
    rw [List.nil_append, push, git_world, hundisturbed.saving, hundisturbed.looking]
  · -- the newest entry is the one that was made, and its id is new
    have hdistinct := h.distinct (r.push label keepIndex (r.stashTop s).2).2
    rw [hafter, StashEntry.ids_append] at hdistinct
    have hfresh : ∀ id, made.map (·.id) = some id → id ∉ ids (stash.entries s) := by
      intro id hid hmem
      refine (List.nodup_append.mp hdistinct).2.2 id ?_ id hmem rfl
      rw [StashEntry.ids_toList, hid]
      exact List.mem_singleton_self id
    have hnew := @newFrame_of_recorded label _ _ hfresh
    rw [← StashEntry.ids_toList, ← StashEntry.ids_append, ← hafter, Option.map_map] at hnew
    rw [hreadagain]
    cases (r.push label keepIndex (r.stashTop s).2).1 <;> exact hnew

theorem recorded?_saveFrame (label : String) (keepIndex : Bool)
    (answer : Except SaveError (Option Frame)) :
    (Event.saveFrame label keepIndex answer).recorded? = Frame.carried answer := by
  cases answer <;> rfl

end Repository.Keeps

namespace Repository

/-- Two actions of which neither changes the world change nothing together. -/
theorem bind_world {α β : Type} {act : StateM σ α} {next : α → StateM σ β} (hact : (act s).2 = s)
    (hnext : ∀ a, (next a s).2 = s) : ((act >>= next) s).2 = s := by
  show (next (act s).1 (act s).2).2 = s
  rw [hact]
  exact hnext _

/-- Reading a file of the record changes nothing. -/
theorem readRecord_world (r : Repository σ) (name : String) (s : σ) : (r.readRecord name s).2 = s := by
  refine bind_world ?_ fun answer => ?_
  · unfold Place.read
    cases r.place.look s <;> rfl
  · rcases answer with fault | content
    · cases fault <;> rfl
    · rfl

theorem readMergeState_world (r : Repository σ) (s : σ) : (r.readMergeState s).2 = s := by
  refine bind_world (r.readRecord_world _ s) fun head => ?_
  rcases head with e | _ | head
  · rfl
  · rfl
  refine bind_world (r.readRecord_world _ s) fun message => ?_
  rcases message with e | message
  · rfl
  refine bind_world (r.readRecord_world _ s) fun mode => ?_
  cases mode <;> rfl

namespace Keeps

variable (h : r.Keeps stash)

include h

/-- Writing the record of a merge leaves the stash to the others. -/
theorem grows_writeRecords (files : List (String × Bytes)) (s : σ) :
    stash.Grows s (r.writeRecords files s).2 := by
  induction files generalizing s with
  | nil => exact Stash.Grows.refl s
  | cons file rest ih =>
    obtain ⟨name, content⟩ := file
    have hwrite : stash.Grows s (r.writeRecord name content s).2 := by
      unfold writeRecord Place.attempt
      simp only [bind, StateT.bind]
      cases r.place.look s with
      | none => exact Stash.Grows.refl s
      | some f =>
        dsimp only
        cases f.write name content with
        | error e => exact Stash.Grows.refl s
        | ok f' => exact h.writes f' s
    rcases hanswer : r.writeRecord name content s with ⟨answer, s'⟩
    rw [hanswer] at hwrite
    unfold writeRecords
    simp only [bind, StateT.bind, hanswer]
    cases answer with
    | error e => exact hwrite
    | ok u => exact hwrite.trans (ih s')

variable (hundisturbed : r.Undisturbed stash)
  (hlint : ∀ path mode s, stash.Grows s (linter.lint path mode s).2)

include hundisturbed hlint

/-- A call that forgets no frame makes an entry or none, and that entry is the frame that it recorded. -/
theorem happened_made {e : Event} (hnot : ∀ frame answer, e ≠ .dropFrame frame answer)
    (happened : e.Happened r.versionControl linter w w') :
    ∃ made : Option StashEntry, stash.Leaves w w' (made.toList ++ stash.entries w) ∧
      e.recorded?.toList.map Frame.id = ids made.toList := by
  -- all calls but one make nothing
  have hnone : e.recorded? = none → stash.Grows w w' →
      ∃ made : Option StashEntry, stash.Leaves w w' (made.toList ++ stash.entries w) ∧
        e.recorded?.toList.map Frame.id = ids made.toList := by
    intro hrecorded hgrows
    exact ⟨none, hgrows, by rw [hrecorded]; rfl⟩
  cases e with
  | stagedPaths filter answer =>
    refine hnone rfl ?_
    rw [← show (r.stagedPaths filter w).2 = w' from congrArg Prod.snd happened]
    exact h.asksChanges w
  | stagedRenames answer =>
    refine hnone rfl ?_
    rw [← show (r.stagedRenames w).2 = w' from congrArg Prod.snd happened]
    exact h.asksChanges w
  | hasCommits answer =>
    refine hnone rfl ?_
    rw [← show (r.hasCommits w).2 = w' from congrArg Prod.snd happened]
    exact h.asksCommits w
  | saveFrame label keepIndex answer =>
    obtain ⟨made, hmade, hcarried⟩ := h.saveFrame_made hundisturbed label keepIndex w
    have hsaved : r.saveFrame label keepIndex w = (answer, w') := happened
    rw [hsaved] at hmade hcarried
    refine ⟨made, hmade, ?_⟩
    rw [recorded?_saveFrame, hcarried, StashEntry.ids_toList]
    cases made <;> rfl
  | applyFrame frame answer =>
    refine hnone rfl ?_
    have hworld : (r.applyFrame frame w).2 = w' := congrArg Prod.snd happened
    rw [← hworld, show (r.applyFrame frame w).2 = (r.git _ (applyArgs frame) w).2 from rfl, git_world]
    exact h.applies frame w
  | dropFrame frame answer => exact absurd rfl (hnot frame answer)
  | heldFrames labels answer =>
    refine hnone rfl ?_
    rw [← show (r.heldFrames labels w).2 = w' from congrArg Prod.snd happened]
    exact (h.heldFrames_eq labels w).2
  | readMergeState answer =>
    refine hnone rfl ?_
    rw [← show (r.readMergeState w).2 = w' from congrArg Prod.snd happened, readMergeState_world]
    exact Stash.Grows.refl w
  | writeMergeState merge answer =>
    refine hnone rfl ?_
    rw [← show (r.writeRecords (recordFiles merge) w).2 = w' from congrArg Prod.snd happened]
    exact h.grows_writeRecords _ w
  | lint path mode answer =>
    refine hnone rfl ?_
    rw [← show (linter.lint path mode w).2 = w' from congrArg Prod.snd happened]
    exact hlint path mode w
  | say message =>
    refine hnone rfl ?_
    rw [show w' = w from happened]
    exact Stash.Grows.refl w

/-! ## What a record of calls does -/

variable {earlier : σ} {held : List String} {es : List Event}

/-- **Calls that forget no frame add those that they recorded to what is held.** -/
theorem carries_recorded (hist : History r.versionControl linter es w w')
    (hnot : ∀ frame answer, .dropFrame frame answer ∉ es) (hcarries : stash.Carries earlier held w) :
    stash.Carries earlier (held ++ (recorded es).map Frame.id) w' := by
  induction es generalizing w held with
  | nil =>
    rw [show w' = w from hist, recorded_nil, List.map_nil, List.append_nil]
    exact hcarries
  | cons e rest ih =>
    obtain ⟨v, happened, hist⟩ := hist
    have hother : ∀ frame answer, e ≠ .dropFrame frame answer := by
      rintro frame answer rfl
      exact hnot frame answer List.mem_cons_self
    obtain ⟨made, hmade, hrecorded⟩ := h.happened_made hundisturbed hlint hother happened
    -- what the first call made is held from here on, and the rest adds its own
    have hnext := hcarries.add (h.distinct v) hmade
    have hrest := ih hist (fun frame answer hmem => hnot frame answer (List.mem_cons_of_mem _ hmem)) hnext
    rwa [← hrecorded, List.append_assoc, ← List.map_append, ← recorded_cons] at hrest

omit hlint in
/-- A frame that is held is forgotten with success, and is held no more. -/
theorem carries_dropFrame {frame : Frame} {answer : Except VcsError Unit}
    (hdrop : r.dropFrame frame w = (answer, w')) (hcarries : stash.Carries earlier (frame.id :: held) w) :
    answer = .ok () ∧ stash.Carries earlier held w' := by
  have hfound : frame.id ∈ ids (stash.entries w) := hcarries.present frame.id List.mem_cons_self
  have hanswer := (h.dropFrame_answer frame w).1 hfound
  have hleaves := (h.dropFrame_exact_iff hfound).mpr (hundisturbed.listing w)
  rw [hdrop] at hanswer hleaves
  exact ⟨hanswer, hcarries.remove (h.distinct w') hleaves⟩

omit hlint in
/-- **Held frames are forgotten one after the other**, all of them with success, wherever their entries
stand by then. -/
theorem carries_forgotten {frames : List Frame} (hforgotten : Isolation.Forgotten frames es)
    (hist : History r.versionControl linter es w w')
    (hcarries : stash.Carries earlier (frames.map Frame.id ++ held) w) :
    es = frames.map (fun frame => .dropFrame frame (.ok ())) ∧ stash.Carries earlier held w' := by
  induction hforgotten generalizing w with
  | nil =>
    rw [show w' = w from hist]
    exact ⟨rfl, hcarries⟩
  | @cons frame e frames es hdrop hrest ih =>
    obtain ⟨answer, rfl⟩ := hdrop
    obtain ⟨v, happened, hist⟩ := hist
    -- the entries that stay have moved up, and are looked for again
    obtain ⟨rfl, hnext⟩ := h.carries_dropFrame hundisturbed happened hcarries
    obtain ⟨rfl, hlast⟩ := ih hist hnext
    exact ⟨rfl, hlast⟩

end Keeps

end Repository

end LintGate
