/-
The log that is left after any history of a report.

A report may be pushed to, flagged and classified in any order before it is finished. The
flag has two sources, and the second one looks at a body that grows between its looks; so
the invariant is about the calls made so far, and `flagged_after_iff` gives the call that
set the flag together with the calls before it. The body is told by the blocks alone.

Finishing makes a second file before it touches the log, and a failure behind that point
could leave it there. `Finished` names the five ways of finishing with all that the
directory holds afterwards, and what is said about failures here is read off them.
-/
import LintGate.Proofs.Report
import LintGate.Calendar
import Mathlib.Data.List.Induction

set_option autoImplicit false

namespace LintGate

/-! ## One line of time -/

namespace Calendar

theorem isDigit_of_mem_padded {width n : Nat} {c : Char} (h : c ∈ (padded width n).toList) :
    c.isDigit = true := by
  simp only [padded, String.toList_append, String.toList_ofList] at h
  rcases List.mem_append.mp h with h | h
  · rw [List.eq_of_mem_replicate h]
    rfl
  · exact Text.isDigit_of_mem_toString h

theorem feed_not_mem_padded (width n : Nat) : '\n' ∉ (padded width n).toList := fun h =>
  absurd (isDigit_of_mem_padded h) (by decide)

/-- A point in time takes no more than a line. -/
theorem feed_not_mem_stamp (seconds micros : Nat) : '\n' ∉ (stamp seconds micros).toList := by
  simp only [stamp, String.toList_append, List.mem_append, not_or, feed_not_mem_padded,
    not_false_eq_true, true_and, and_true]
  decide

end Calendar

namespace Report

/-! ## What is done with a report -/

/-- What may be done with a report before it is finished. -/
inductive Call where
  | push (block : String)
  | flag
  | classify (matcher : Matcher)

/-- The report after one more call. -/
def Call.apply (r : Report) : Call → Report
  | push block => r.push block
  | flag => r.flag
  | classify matcher => r.classify matcher

/-- A fresh report after some calls. -/
def after (history : List Call) : Report := history.foldl Call.apply {}

/-- The block that a call appends. -/
def Call.block? : Call → Option String
  | push block => some block
  | _ => none

/-- Blocks as they stand in a body, each behind three line feeds. -/
def bodyOf (blocks : List String) : String := String.join (blocks.map fun block => "\n\n\n" ++ block)

/-- The body that some calls make. -/
def bodyAfter (history : List Call) : String := bodyOf (history.filterMap Call.block?)

/-- A call sets the flag: outright, or because a line of the body, as the calls before have made it,
is accepted. -/
def Call.Sets (before : List Call) : Call → Prop
  | push _ => False
  | flag => True
  | classify matcher => ∃ line ∈ Text.pieces (bodyAfter before), matcher line = true

/-- One of the calls set the flag. -/
def Flags (history : List Call) : Prop :=
  ∃ before call rest, history = before ++ call :: rest ∧ call.Sets before

theorem after_concat (history : List Call) (call : Call) :
    after (history ++ [call]) = call.apply (after history) := by
  rw [after, List.foldl_append]
  rfl

theorem bodyOf_concat (blocks : List String) (block : String) :
    bodyOf (blocks ++ [block]) = bodyOf blocks ++ separator ++ block := by
  have hlast : String.join ([block].map fun block => "\n\n\n" ++ block) = separator ++ block := by
    rw [List.map_singleton, String.join_cons, String.join_nil, String.append_empty]
    rfl
  rw [bodyOf, List.map_append, String.join_append, hlast, String.append_assoc]
  rfl

/-- The body is that of the blocks, whatever else was done. -/
theorem body_after (history : List Call) : (after history).body = bodyAfter history := by
  induction history using List.reverseRecOn with
  | nil => rfl
  | append_singleton history call ih =>
    rw [after_concat, bodyAfter, List.filterMap_append]
    cases call with
    | push block =>
      have hblocks : [Call.push block].filterMap Call.block? = [block] := rfl
      rw [hblocks, bodyOf_concat, ← bodyAfter, ← ih]
      rfl
    | flag =>
      have hblocks : [Call.flag].filterMap Call.block? = [] := rfl
      rw [hblocks, List.append_nil, ← bodyAfter, ← ih]
      rfl
    | classify matcher =>
      have hblocks : [Call.classify matcher].filterMap Call.block? = [] := rfl
      rw [hblocks, List.append_nil, ← bodyAfter, ← ih]
      rfl

/-- A call keeps the flag, and sets it in the two ways it can be set. -/
theorem flagged_apply_iff (history : List Call) (call : Call) :
    (call.apply (after history)).flagged = true ↔
      (after history).flagged = true ∨ call.Sets history := by
  cases call with
  | push block => exact (or_false _).symm.to_iff
  | flag => exact ⟨fun _ => .inr trivial, fun _ => rfl⟩
  | classify matcher =>
    change ((after history).flagged || detectsDefect (after history).body matcher) = true ↔ _
    rw [Bool.or_eq_true, detectsDefect, List.any_eq_true, body_after]
    rfl

theorem flags_concat_iff (history : List Call) (call : Call) :
    Flags (history ++ [call]) ↔ Flags history ∨ call.Sets history := by
  constructor
  · rintro ⟨before, set, rest, hsplit, hsets⟩
    rcases List.eq_nil_or_concat rest with rfl | ⟨rest, last, rfl⟩
    · obtain ⟨rfl, hcall⟩ := List.append_inj' hsplit rfl
      rw [List.singleton_inj] at hcall
      exact .inr (hcall ▸ hsets)
    · rw [List.concat_eq_append, ← List.cons_append, ← List.append_assoc] at hsplit
      obtain ⟨rfl, -⟩ := List.append_inj' hsplit rfl
      exact .inl ⟨before, set, rest, rfl, hsets⟩
  · rintro (⟨before, set, rest, rfl, hsets⟩ | hsets)
    · exact ⟨before, set, rest ++ [call], by rw [List.append_assoc, List.cons_append], hsets⟩
    · exact ⟨history, call, [], rfl, hsets⟩

/-- **The flag is set exactly when a call set it.** -/
theorem flagged_after_iff (history : List Call) :
    (after history).flagged = true ↔ Flags history := by
  induction history using List.reverseRecOn with
  | nil =>
    refine ⟨fun h => Bool.noConfusion h, ?_⟩
    rintro ⟨before, call, rest, hsplit, -⟩
    exact absurd hsplit.symm (List.append_ne_nil_of_right_ne_nil _ (List.cons_ne_nil _ _))
  | append_singleton history call ih =>
    rw [after_concat, flagged_apply_iff, flags_concat_iff, ih]

/-- No call takes it back. -/
theorem flags_append {history : List Call} (h : Flags history) (more : List Call) :
    Flags (history ++ more) := by
  obtain ⟨before, call, rest, rfl, hsets⟩ := h
  exact ⟨before, call, rest ++ more, by rw [List.append_assoc, List.cons_append], hsets⟩

/-- Classifying again changes nothing. -/
theorem classify_classify (r : Report) (matcher : Matcher) :
    (r.classify matcher).classify matcher = r.classify matcher := by
  simp only [classify, Bool.or_assoc, Bool.or_self]

/-! ## What finishing leaves -/

namespace Finished

variable {name : String} {content : Bytes} {flagged : Bool} {before held : Option Folder}
  {answer : Except Fault Bool}

/-- A failure leaves the directory as it was: the names, their order, and what they stand for. -/
theorem eq_of_error {e : Fault} (h : Finished name content flagged before (.error e) held) :
    held = before := by
  cases h with
  | nowhere => rfl
  | occupied => rfl

/-- No other name is touched, and none is left over. -/
theorem get?_other (h : Finished name content flagged before answer held) {other : String}
    (hne : other ≠ name) : held.bind (·.get? other) = before.bind (·.get? other) := by
  cases h with
  | @written f =>
    have hput : (f.put name (.file content false)).get? other = f.get? other := by
      rw [Folder.get?_put, if_neg hne]
    exact hput
  | @removed f => exact f.get?_erase_of_ne hne
  | nothing => rfl
  | nowhere => rfl
  | occupied => rfl

/-- A report can be finished unless a directory stands in place of the log, or the one that the log is
to be in is missing. -/
theorem ok_iff (h : Finished name content flagged before answer held) :
    (∃ written, answer = .ok written) ↔ (flagged = true → before.isSome = true) ∧
      ∀ entries, before.bind (·.get? name) ≠ some (.folder entries) := by
  cases h with
  | written hfile => exact ⟨fun _ => ⟨fun _ => rfl, hfile⟩, fun _ => ⟨true, rfl⟩⟩
  | removed hfile => exact ⟨fun _ => ⟨fun _ => rfl, hfile⟩, fun _ => ⟨false, rfl⟩⟩
  | nothing =>
    refine ⟨fun _ => ⟨fun hflagged => Bool.noConfusion hflagged, ?_⟩, fun _ => ⟨false, rfl⟩⟩
    rintro entries ⟨⟩
  | nowhere =>
    constructor
    · rintro ⟨written, ⟨⟩⟩
    · rintro ⟨hplace, -⟩
      exact Bool.noConfusion (hplace rfl)
  | occupied hfolder =>
    constructor
    · rintro ⟨written, ⟨⟩⟩
    · rintro ⟨-, hfile⟩
      exact absurd hfolder (hfile _)

end Finished

variable {σ : Type} {log : Spot σ} {s s' : σ} {answer : Except Fault Bool}

/-- **A log is written whole or not at all.** Whatever was done with a fresh report, and whatever stands
in place of its log, to finish it answers that the log was written only if a call set the flag, and
then the log is one line of time and the blocks as they were pushed; and that it was not written only
if no call did, and then there is no log. If it fails, the directory is as it was. In no case is
another name touched. -/
theorem finish_after (hlog : log.place.Lawful) (history : List Call) (seconds micros : Nat)
    (h : (after history).finish (Calendar.stamp seconds micros) log s = (answer, s')) :
    (answer = .ok true → Flags history ∧ log.look s' = some (.file
      (Bytes.ofText (Calendar.stamp seconds micros ++ "\n" ++ bodyAfter history)) false)) ∧
    (answer = .ok false → ¬Flags history ∧ log.look s' = none) ∧
    (∀ e, answer = .error e → log.place.look s' = log.place.look s) ∧
    (∀ name ≠ log.name,
      (log.place.look s').bind (·.get? name) = (log.place.look s).bind (·.get? name)) ∧
    ((∃ written, answer = .ok written) ↔ (Flags history → (log.place.look s).isSome = true) ∧
      ∀ entries, log.look s ≠ some (.folder entries)) ∧
    '\n' ∉ (Calendar.stamp seconds micros).toList ∧
    (∀ more, (after history).flagged = true → (after (history ++ more)).flagged = true) ∧
    ∀ matcher, (after (history ++ [.classify matcher, .classify matcher])).flagged
      = (after (history ++ [.classify matcher])).flagged := by
  have hfinished := finishes hlog (after history) (Calendar.stamp seconds micros) s
  rw [h] at hfinished
  refine ⟨?_, ?_, ?_, fun name hne => hfinished.get?_other hne, ?_,
    Calendar.feed_not_mem_stamp seconds micros, fun more hflagged => ?_, fun matcher => ?_⟩
  · rintro rfl
    obtain ⟨hwritten, hlook⟩ := finish_ok hlog h
    rw [← hwritten, if_pos rfl, content, body_after] at hlook
    exact ⟨(flagged_after_iff history).mp hwritten.symm, hlook⟩
  · rintro rfl
    obtain ⟨hwritten, hlook⟩ := finish_ok hlog h
    rw [← hwritten] at hlook
    refine ⟨fun hflags => ?_, hlook⟩
    exact Bool.noConfusion (hwritten.trans ((flagged_after_iff history).mpr hflags))
  · rintro e rfl
    exact hfinished.eq_of_error
  · rw [← flagged_after_iff]
    exact hfinished.ok_iff
  · exact (flagged_after_iff _).mpr (flags_append ((flagged_after_iff _).mp hflagged) more)
  · have hsplit : history ++ [.classify matcher, .classify matcher]
        = (history ++ [.classify matcher]) ++ [.classify matcher] := by
      rw [List.append_assoc]
      rfl
    rw [hsplit, after_concat, after_concat]
    exact congrArg flagged (classify_classify (after history) matcher)

/-- A block that is accepted, a look at it, and a block behind that. -/
def shortHistory : List Call := [.push "a|E|x", .classify Matcher.records, .push "b"]

/-- The log of a rehearsal. -/
def rehearsedLog : Spot Rehearsal.Stage := ⟨Rehearsal.place, "lintdiff.log", "lintdiff.log"⟩

/-- A directory with an older log and another file. -/
def olderStage : Rehearsal.Stage :=
  { folder := some [("lintdiff.log", .file [0x61] true), ("b.js", .file [] false)] }

/-- The older log goes, whatever was in it, and the other file stays. -/
theorem finish_after_short : ∃ s', rehearsedLog.place.Lawful ∧
    (after shortHistory).finish (Calendar.stamp 0 0) rehearsedLog olderStage = (.ok true, s') ∧
    Flags shortHistory ∧
    rehearsedLog.look s' = some (.file
      (Bytes.ofText ("1970-01-01 00:00:00.000000\n" ++ "\n\n\na|E|x" ++ "\n\n\nb")) false) ∧
    (rehearsedLog.place.look s').bind (·.get? "b.js") = some (.file [] false) := by
  have hfound : rehearsedLog.Shows olderStage (some (.file [0x61] true)) := ⟨_, rfl, rfl⟩
  obtain ⟨s', hfinish, -⟩ := finish_shows Rehearsal.place_lawful (after shortHistory)
    (Calendar.stamp 0 0) hfound (by rintro _ ⟨⟩)
  have hflagged : (after shortHistory).flagged = true := by decide +kernel
  rw [hflagged] at hfinish
  obtain ⟨hwritten, -, -, hother, -⟩ := finish_after Rehearsal.place_lawful shortHistory 0 0 hfinish
  obtain ⟨hflags, hlook⟩ := hwritten rfl
  have htext : Calendar.stamp 0 0 ++ "\n" ++ bodyAfter shortHistory
      = "1970-01-01 00:00:00.000000\n" ++ "\n\n\na|E|x" ++ "\n\n\nb" := by
    decide +kernel
  rw [htext] at hlook
  exact ⟨s', Rehearsal.place_lawful, hfinish, hflags, hlook, hother "b.js" (by decide)⟩

end Report

end LintGate
