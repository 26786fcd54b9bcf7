/-
The order of a configuration's languages.

A language is known by its name: what a commit needs is collected by names, and a second
language of a name would be lost there. So no two languages of a configuration may share
one. A configuration is a list here, and nothing in its type says so; but languages are
put in by name, wherever they are read from, and putting one in keeps the names in
ascending order. This file follows that from one insertion to the configuration that is
in force.
-/
import LintGate.Config.File

set_option autoImplicit false

namespace LintGate

/-- An answer that comes of two questions is the second one's answer behind the first one's. -/
theorem exists_of_bind_eq_ok {ε α β : Type} {x : Except ε α} {f : α → Except ε β} {b : β}
    (h : (x >>= f) = .ok b) : ∃ a, x = .ok a ∧ f a = .ok b := by
  cases x with
  | error e => cases h
  | ok a => exact ⟨a, rfl, h⟩

/-! ## One insertion -/

/-- Whether entries are in the order of their names, none of which comes twice. -/
def Ascending {α : Type} (entries : List (String × α)) : Prop :=
  entries.Pairwise fun e e' => e.1 < e'.1

variable {α : Type} {entries : List (String × α)}

instance (entries : List (String × α)) : Decidable (Ascending entries) :=
  inferInstanceAs (Decidable (entries.Pairwise fun e e' => e.1 < e'.1))

theorem Ascending.nodup (h : Ascending entries) : (entries.map (·.1)).Nodup := by
  rw [List.Nodup, List.pairwise_map]
  refine h.imp ?_
  intro e e' hlt heq
  rw [heq] at hlt
  exact String.lt_irrefl _ hlt

theorem mem_insertNamed {name : String} {value : α} {e : String × α}
    (h : e ∈ insertNamed name value entries) : e = (name, value) ∨ e ∈ entries := by
  induction entries with
  | nil => exact .inl (List.mem_singleton.mp h)
  | cons entry rest ih =>
    obtain ⟨n, v⟩ := entry
    rw [insertNamed] at h
    split at h
    · -- the entry of that name gives way
      rcases List.mem_cons.mp h with rfl | h
      · exact .inl rfl
      · exact .inr (List.mem_cons_of_mem _ h)
    split at h
    · exact List.mem_cons.mp h
    rcases List.mem_cons.mp h with rfl | h
    · exact .inr List.mem_cons_self
    · exact (ih h).imp_right (List.mem_cons_of_mem _)

/-- Putting a value in under a name keeps the order. -/
theorem Ascending.insertNamed (name : String) (value : α) (h : Ascending entries) :
    Ascending (insertNamed name value entries) := by
  induction entries with
  | nil => exact List.pairwise_singleton _ _
  | cons entry rest ih =>
    obtain ⟨n, v⟩ := entry
    obtain ⟨hfirst, hrest⟩ := List.pairwise_cons.mp h
    rw [LintGate.insertNamed]
    split
    · -- the name is there, and the value in its place
      rename_i heq
      rw [heq] at hfirst
      exact List.pairwise_cons.mpr ⟨hfirst, hrest⟩
    rename_i hne
    split
    · rename_i hlt
      refine List.pairwise_cons.mpr ⟨fun e he => ?_, h⟩
      rcases List.mem_cons.mp he with rfl | he
      · exact hlt
      · exact String.lt_trans hlt (hfirst e he)
    · rename_i hnlt
      have hlt : n < name := Std.lt_of_le_of_ne (String.not_lt.mp hnlt) hne
      refine List.pairwise_cons.mpr ⟨fun e he => ?_, ih hrest⟩
      rcases mem_insertNamed he with rfl | he
      · exact hlt
      · exact hfirst e he

/-! ## Reading -/

namespace Config

open Json (Value Problem)

/-- What each member keeps, all of an object's members keep. -/
theorem foldMembers_keeps {β : Type} {f : β → String → Value → Except Problem β} {P : β → Prop}
    (hf : ∀ b name v b', P b → f b name v = .ok b' → P b') {start found : β}
    {members : List (Json.Literal × Value)} (h : Value.foldMembers f start members = .ok found)
    (hstart : P start) : P found := by
  induction members generalizing start with
  | nil =>
    cases h
    exact hstart
  | cons member rest ih =>
    obtain ⟨key, value⟩ := member
    obtain ⟨name, -, h⟩ := exists_of_bind_eq_ok h
    obtain ⟨next, hnext, h⟩ := exists_of_bind_eq_ok h
    exact ih h (hf start name value next hstart hnext)

theorem foldObject_keeps {β : Type} {f : β → String → Value → Except Problem β} {P : β → Prop}
    (hf : ∀ b name v b', P b → f b name v = .ok b' → P b') {expected : String} {start found : β}
    {v : Value} (h : v.foldObject expected f start = .ok found) (hstart : P start) : P found := by
  cases v with
  | object members gap =>
    obtain ⟨end', hend, h⟩ := exists_of_bind_eq_ok h
    obtain ⟨-, -, h⟩ := exists_of_bind_eq_ok h
    cases h
    exact foldMembers_keeps hf hend hstart
  | literal l => cases h
  | list items gap => cases h
  | hole p => cases h

theorem named_ascending {f : Value → Except Problem α} {v : Value} (h : named f v = .ok entries) :
    Ascending entries := by
  refine foldObject_keeps (P := Ascending) ?_ h .nil
  intro entries name v entries' hentries hnext
  obtain ⟨value, -, hnext⟩ := exists_of_bind_eq_ok hnext
  cases hnext
  exact hentries.insertNamed name value

/-- A member that is met is what its value is read as. -/
theorem meet_eq_some {name : String} {found : Option α} {f : Value → Except Problem α} {v : Value}
    {a : α} (h : meet name found f v = .ok (some a)) : f v = .ok a := by
  rw [meet] at h
  split at h
  · cases h
  · cases hv : f v with
    | error p =>
      rw [hv] at h
      cases h
    | ok a' =>
      rw [hv] at h
      cases h
      rfl

/-- Whether the languages, if they were met, are in order. -/
def MetAll.InOrder (m : MetAll) : Prop := ∀ languages, m.languages = some languages → Ascending languages

theorem meetMember_inOrder (m : MetAll) (name : String) (v : Value) (m' : MetAll) (hm : m.InOrder)
    (h : meetMember m name v = .ok m') : m'.InOrder := by
  unfold meetMember at h
  split at h
  case h_1 =>
    obtain ⟨met, hmet, h⟩ := exists_of_bind_eq_ok h
    cases h
    rintro languages rfl
    exact named_ascending (meet_eq_some hmet)
  case h_5 => cases h
  all_goals
    -- the other members leave the languages as they are
    obtain ⟨met, -, h⟩ := exists_of_bind_eq_ok h
    cases h
    exact hm

theorem MetAll.InOrder.config {m : MetAll} (h : m.InOrder) : Ascending m.config.languages := by
  rw [MetAll.config]
  cases hm : m.languages with
  | none => exact .nil
  | some languages => exact h languages hm

theorem nextItem_eq_some {f : Value → Except Problem α} {items rest : List Value}
    {gap : Option Problem} {a : α} (h : Value.nextItem f items gap = .ok (some a, rest)) :
    ∃ v, f v = .ok a := by
  cases items with
  | nil =>
    obtain ⟨-, -, h⟩ := exists_of_bind_eq_ok h
    cases h
  | cons v items =>
    obtain ⟨a', ha, h⟩ := exists_of_bind_eq_ok h
    cases h
    exact ⟨v, ha⟩

theorem ofValue_ascending {v : Value} {config : Config} (h : ofValue v = .ok config) :
    Ascending config.languages := by
  unfold ofValue at h
  split at h
  · obtain ⟨⟨languages, rest⟩, hlanguages, h⟩ := exists_of_bind_eq_ok h
    obtain ⟨⟨linters, rest'⟩, -, h⟩ := exists_of_bind_eq_ok h
    obtain ⟨⟨timeout, rest''⟩, -, h⟩ := exists_of_bind_eq_ok h
    obtain ⟨⟨pattern, rest'''⟩, -, h⟩ := exists_of_bind_eq_ok h
    obtain ⟨-, -, h⟩ := exists_of_bind_eq_ok h
    cases h
    refine MetAll.InOrder.config ?_
    rintro languages rfl
    obtain ⟨v, hv⟩ := nextItem_eq_some hlanguages
    exact named_ascending hv
  · obtain ⟨m, hm, h⟩ := exists_of_bind_eq_ok h
    cases h
    have hinOrder : m.InOrder :=
      foldObject_keeps meetMember_inOrder hm (by rintro languages ⟨⟩)
    exact hinOrder.config

theorem ofText_ascending {s : String} {config : Config} (h : ofText s = .ok config) :
    Ascending config.languages := by
  obtain ⟨config', hconfig, h⟩ := exists_of_bind_eq_ok h
  obtain ⟨-, -, h⟩ := exists_of_bind_eq_ok h
  cases h
  exact ofValue_ascending hconfig

/-! ## The configuration in force -/

theorem standard_ascending : Ascending standard.languages := by decide

theorem ofFile_ascending {disk : Folder} {cwd path : String} {config : Config}
    (h : ofFile disk cwd path = .ok config) : Ascending config.languages := by
  unfold ofFile at h
  split at h
  case h_2 => cases h
  unfold ofBytes at h
  split at h
  case h_1 => cases h
  split at h
  case h_2 => cases h
  rename_i config' hconfig
  cases h
  -- where a configuration was read from is noted, and nothing else of it changes
  have hlanguages : Ascending config'.languages := ofText_ascending hconfig
  exact hlanguages

/-- **The languages of the configuration in force are in the order of their names**, be it read from a
file that was given or found, or the standard one. -/
theorem load_ascending {disk : Folder} {cwd root : String} {user : UserPlaces}
    {explicit : Option String} {config : Config}
    (h : load disk cwd user explicit root = .ok config) : Ascending config.languages := by
  unfold load at h
  split at h
  · dsimp only at h
    split at h
    · exact ofFile_ascending h
    · cases h
  · dsimp only at h
    split at h
    · exact ofFile_ascending h
    · cases h
      exact standard_ascending

end Config

end LintGate
