/-
The arguments of a linter.

A command is split into words before anything is put into them, so no path changes how many
arguments there are or where one ends: each argument is made of its own word. In a word two
places are filled, the path's and then the reporter script's, and the second filling searches
what the first one put in. It should not: a path is any text, and may hold the other place.

`Registry.argv_fills` says when the two fillings come to what filling both places at once
gives: always without a reporter, and else exactly if putting the path in makes no new place
for the script. A script that lies at a path which is the place itself makes no difference
either, but no script does.
-/
import LintGate.Proofs.Text.Substitution
import LintGate.Registry.Basic

set_option autoImplicit false

namespace LintGate.Registry

/-- The places of a command with what is put into them. Without a reporter there is one. -/
def places (path : String) (reporter : Option String) : List (List Char × List Char) :=
  ("\x7bpath\x7d".toList, path.toList)
    :: (reporter.map fun script => ("\x7breporter\x7d".toList, script.toList)).toList

/-- A word with its places filled at once: both are places of the word itself, and not of what is put
in. -/
def filledAtOnce (path : String) (reporter : Option String) (word : String) : String :=
  String.ofList (Text.fillPlaces (places path reporter) word.toList)

/-- How often the place of the reporter occurs in a text. -/
def reporterPlaces (text : String) : Nat := Text.occurrences "\x7breporter\x7d".toList text.toList

/-! ## The two places -/

/-- What follows the first letter of the path's place. -/
def pathLetters : List Char := "path\x7d".toList

/-- What follows the first letter of the reporter's place. -/
def reporterLetters : List Char := "reporter\x7d".toList

theorem path_toList : "\x7bpath\x7d".toList = '\x7b' :: pathLetters := by decide

theorem reporter_toList : "\x7breporter\x7d".toList = '\x7b' :: reporterLetters := by decide

theorem not_mem_pathLetters : '\x7b' ∉ pathLetters := by decide

theorem not_mem_reporterLetters : '\x7b' ∉ reporterLetters := by decide

/-- The places differ in their second letter. -/
theorem path_not_reporter (s : List Char) :
    ('\x7b' :: pathLetters).isPrefixOf ('\x7b' :: (reporterLetters ++ s)) = false := rfl

theorem reporter_not_path (s : List Char) :
    ('\x7b' :: reporterLetters).isPrefixOf ('\x7b' :: (pathLetters ++ s)) = false := rfl

theorem toList_substitute {place : String} {first : Char} {others : List Char}
    (h : place.toList = first :: others) (text s : String) :
    (Text.substitute place text s).toList
      = Text.substituteChars first others text.toList s.toList := by
  unfold Text.substitute
  rw [h]
  exact String.toList_ofList

/-! ## One word -/

/-- Without a reporter a word is filled at once. -/
theorem fill_none (path word : String) : fill path none word = filledAtOnce path none word := by
  rw [← String.toList_inj]
  show (Text.substitute "\x7bpath\x7d" path word).toList = _
  rw [toList_substitute path_toList]
  simp only [filledAtOnce, places, Option.map_none, Option.toList_none, String.toList_ofList,
    path_toList, Text.fillPlaces_singleton]

/-- **With a reporter a word is filled at once exactly if the path makes no new place for it.** -/
theorem fill_some_iff (path script word : String) :
    fill path (some script) word = filledAtOnce path (some script) word ↔
      script = "\x7breporter\x7d" ∨
        reporterPlaces (filledAtOnce path none word) = reporterPlaces word := by
  have hpath : (filledAtOnce path none word).toList
      = Text.substituteChars '\x7b' pathLetters path.toList word.toList := by
    rw [← fill_none]
    exact toList_substitute path_toList path word
  have hboth : (fill path (some script) word).toList = Text.substituteChars '\x7b' reporterLetters
      script.toList (filledAtOnce path none word).toList := by
    rw [← fill_none]
    exact toList_substitute reporter_toList script _
  have honce : (filledAtOnce path (some script) word).toList = Text.fillPlaces
      [('\x7b' :: pathLetters, path.toList), ('\x7b' :: reporterLetters, script.toList)]
      word.toList := by
    simp only [filledAtOnce, places, Option.map_some, Option.toList_some, String.toList_ofList,
      path_toList, reporter_toList]
  have hscript : script = "\x7breporter\x7d" ↔ script.toList = '\x7b' :: reporterLetters := by
    rw [← String.toList_inj, reporter_toList]
  have hexchanged := Text.exchanged_fillPlaces not_mem_pathLetters not_mem_reporterLetters
    path_not_reporter reporter_not_path path.toList script.toList word.toList
  rw [← hpath, ← honce] at hexchanged
  rw [← String.toList_inj, hboth, eq_comm, hexchanged.eq_substituteChars_iff not_mem_reporterLetters,
    hscript, eq_comm (a := Text.occurrences _ _)]
  simp only [reporterPlaces, reporter_toList]

/-- The path's place alone is filled with the path. -/
theorem filledAtOnce_path (path : String) (reporter : Option String) :
    filledAtOnce path reporter "\x7bpath\x7d" = path := by
  have hfind : (places path reporter).find?
      (fun p => p.1.isPrefixOf ('\x7b' :: (pathLetters ++ [])))
        = some ('\x7b' :: pathLetters, path.toList) := by
    unfold places
    rw [path_toList]
    exact List.find?_cons_of_pos (Text.isPrefixOf_append ('\x7b' :: pathLetters) [])
  have hfill := Text.fillPlaces_of_find hfind
  rw [Text.fillPlaces_nil, List.append_nil, List.append_nil, ← path_toList] at hfill
  rw [filledAtOnce, hfill, String.ofList_toList]

/-- **The path's place alone becomes the path exactly if the path holds no place for a script.** -/
theorem fill_path_iff (path : String) (reporter : Option String) :
    fill path reporter "\x7bpath\x7d" = path ↔
      reporter = none ∨ reporter = some "\x7breporter\x7d" ∨ reporterPlaces path = 0 := by
  have hnone : reporterPlaces "\x7bpath\x7d" = 0 := by decide
  cases reporter with
  | none => simp [fill_none, filledAtOnce_path]
  | some script =>
    have hiff := fill_some_iff path script "\x7bpath\x7d"
    rw [filledAtOnce_path, filledAtOnce_path, hnone] at hiff
    simpa using hiff

/-! ## All words -/

/-- **The arguments of a linter are the words of its command, filled one by one.** There are as many as
words, whatever the path. An argument is its word with both places filled at once if and only if there is
no reporter, or putting the path in makes no new place for the script, or the script is told by a path
that is that place itself. So the argument of the path's place is the path exactly if there is no
reporter or the path holds no place for one, but for a script that is told so. -/
theorem argv_fills {spec : LinterSpec} {words : List String}
    (h : Text.words? spec.command = some words) (path : String) (reporter : Option String) :
    ∃ args, argv spec path reporter = .ok args ∧ args.length = words.length ∧
      ∀ (i : Nat) (word : String), words[i]? = some word → ∃ arg, args[i]? = some arg ∧
        (arg = filledAtOnce path reporter word ↔
          reporter = none ∨ reporter = some "\x7breporter\x7d" ∨
            reporterPlaces (filledAtOnce path none word) = reporterPlaces word) ∧
        (word = "\x7bpath\x7d" → (arg = path ↔
          reporter = none ∨ reporter = some "\x7breporter\x7d" ∨ reporterPlaces path = 0)) := by
  refine ⟨words.map (fill path reporter), ?_, List.length_map _, ?_⟩
  · unfold argv
    rw [h]
  intro i word hword
  refine ⟨fill path reporter word, ?_, ?_, ?_⟩
  · rw [List.getElem?_map, hword]
    rfl
  · cases reporter with
    | none => simp [fill_none]
    | some script => simpa using fill_some_iff path script word
  · rintro rfl
    exact fill_path_iff path reporter

/-- The words of a command with both places. -/
def reportedWords : List String := ["eslint", "--format", "\x7breporter\x7d", "\x7bpath\x7d"]

theorem words_reported :
    (builtinLinter? "eslint").bind (fun spec => Text.words? spec.command) = some reportedWords := by
  decide +kernel

/-- A path with a space, a quote and its own place in it becomes one argument as it is. -/
theorem argv_fills_spaced :
    ∃ spec, builtinLinter? "eslint" = some spec ∧ Text.words? spec.command = some reportedWords ∧
      ∃ args, argv spec "a b' \x7bpath\x7d.js" (some "/scripts/terse.js") = .ok args ∧
        args.length = 4 ∧ args[3]? = some "a b' \x7bpath\x7d.js" := by
  obtain ⟨spec, hspec, hwords⟩ := Option.bind_eq_some_iff.mp words_reported
  obtain ⟨args, hargs, hlength, hall⟩ :=
    argv_fills hwords "a b' \x7bpath\x7d.js" (some "/scripts/terse.js")
  obtain ⟨arg, harg, -, hpath⟩ := hall 3 "\x7bpath\x7d" rfl
  rw [(hpath rfl).mpr (.inr (.inr (by decide)))] at harg
  exact ⟨spec, hspec, hwords, args, hargs, hlength, harg⟩

/-- **A path that does not become an argument.** It holds the reporter's place, and gets the path of the
script in its middle: the linter is run on a file that is not there. -/
theorem path_with_place_changed :
    ∃ spec, builtinLinter? "eslint" = some spec ∧ Text.words? spec.command = some reportedWords ∧
      ∃ args, argv spec "\x7breporter\x7d.js" (some "/scripts/terse.js") = .ok args ∧
        reportedWords[3]? = some "\x7bpath\x7d" ∧
        filledAtOnce "\x7breporter\x7d.js" (some "/scripts/terse.js") "\x7bpath\x7d"
          = "\x7breporter\x7d.js" ∧
        args[3]? = some "/scripts/terse.js.js" := by
  obtain ⟨spec, hspec, hwords⟩ := Option.bind_eq_some_iff.mp words_reported
  have hargs : argv spec "\x7breporter\x7d.js" (some "/scripts/terse.js")
      = .ok (reportedWords.map (fill "\x7breporter\x7d.js" (some "/scripts/terse.js"))) := by
    unfold argv
    rw [hwords]
  have hfilled : fill "\x7breporter\x7d.js" (some "/scripts/terse.js") "\x7bpath\x7d"
      = "/scripts/terse.js.js" := by
    decide +kernel
  refine ⟨spec, hspec, hwords, _, hargs, rfl, filledAtOnce_path _ _, ?_⟩
  rw [List.getElem?_map]
  show some (fill _ _ "\x7bpath\x7d") = _
  rw [hfilled]

end LintGate.Registry
