/-
What can go wrong with the reporter scripts.

A linter that uses a reporter script can fail before it is started: the directory of the scripts
cannot be made, or one of them cannot be written (`Unwritten`). It does so only where the scripts are
not yet written. Where they are, the directory that is kept is taken and nothing is done in the world
(`scriptDirectory_eq`), and where they were just written, there is a directory.
-/
import LintGate.Registry.Scripts

set_option autoImplicit false

namespace LintGate

namespace System

variable {σ : Type} {system : System σ} {w : σ} {s : Equipped σ} {dir message : String}

/-- Why the reporter scripts cannot be written in a world: there is no directory for them, or one cannot
be written behind those in front of it. -/
inductive Unwritten (system : System σ) (w : σ) : String → Prop where
  | directory {reason : String} (hmake : (system.makeDirectory w).1 = .error reason) :
      Unwritten system w ("failed to create reporter directory: " ++ reason)
  | script {dir : String} {v u : σ} {before after : List Reporter} {reporter : Reporter} {reason : String}
      (hmake : system.makeDirectory w = (.ok dir, v)) (hall : Reporter.all = before ++ reporter :: after)
      (hbefore : system.writeScripts dir before v = (.ok (), u))
      (hwrite : (system.writeFile (Path.join dir reporter.fileName) reporter.script u).1 = .error reason) :
      Unwritten system w ("failed to write " ++ Path.join dir reporter.fileName ++ ": " ++ reason)

theorem Unwritten.head? (h : system.Unwritten w message) : message.toList.head? = some 'f' := by
  cases h <;> simp

theorem writeScripts_of_error {reporter : Reporter} {reason : String} {v : σ} (rest : List Reporter)
    (h : system.writeFile (Path.join dir reporter.fileName) reporter.script w = (.error reason, v)) :
    system.writeScripts dir (reporter :: rest) w =
      (.error ("failed to write " ++ Path.join dir reporter.fileName ++ ": " ++ reason), v) := by
  rw [writeScripts]
  simp only [bind, StateT.bind, h]
  rfl

theorem writeScripts_of_ok {reporter : Reporter} {v : σ} (rest : List Reporter)
    (h : system.writeFile (Path.join dir reporter.fileName) reporter.script w = (.ok (), v)) :
    system.writeScripts dir (reporter :: rest) w = system.writeScripts dir rest v := by
  rw [writeScripts]
  simp only [bind, StateT.bind, h]

/-- Writing scripts fails as the first does that cannot be written. -/
theorem writeScripts_error_iff {reporters : List Reporter} :
    (system.writeScripts dir reporters w).1 = .error message ↔
      ∃ before reporter after u reason, reporters = before ++ reporter :: after ∧
        system.writeScripts dir before w = (.ok (), u) ∧
        (system.writeFile (Path.join dir reporter.fileName) reporter.script u).1 = .error reason ∧
        message = "failed to write " ++ Path.join dir reporter.fileName ++ ": " ++ reason := by
  induction reporters generalizing w with
  | nil =>
    apply iff_of_false
    · intro h
      cases h
    · rintro ⟨before, reporter, after, _, _, hsplit, -⟩
      simp at hsplit
  | cons first rest ih =>
    rcases hwrite : system.writeFile (Path.join dir first.fileName) first.script w with ⟨answer, v⟩
    cases answer with
    | error reason =>
      rw [writeScripts_of_error rest hwrite]
      constructor
      · intro h
        cases h
        exact ⟨[], first, rest, w, reason, rfl, rfl, by rw [hwrite], rfl⟩
      · -- behind a script that cannot be written there is no other
        rintro ⟨before, reporter, after, u, reason', hsplit, hbefore, hfails, rfl⟩
        cases before with
        | nil =>
          cases hsplit
          cases hbefore
          rw [hwrite] at hfails
          cases hfails
          rfl
        | cons _ before =>
          cases hsplit
          rw [writeScripts_of_error before hwrite] at hbefore
          cases hbefore
    | ok _ =>
      rw [writeScripts_of_ok rest hwrite, ih]
      constructor
      · rintro ⟨before, reporter, after, u, reason, rfl, hbefore, hfails⟩
        refine ⟨first :: before, reporter, after, u, reason, rfl, ?_, hfails⟩
        rw [writeScripts_of_ok before hwrite]
        exact hbefore
      · rintro ⟨before, reporter, after, u, reason, hsplit, hbefore, hfails, hmessage⟩
        cases before with
        | nil =>
          cases hsplit
          cases hbefore
          rw [hwrite] at hfails
          cases hfails
        | cons _ before =>
          cases hsplit
          rw [writeScripts_of_ok before hwrite] at hbefore
          exact ⟨before, reporter, after, u, reason, rfl, hbefore, hfails, hmessage⟩

theorem newScripts_eq (system : System σ) (w : σ) :
    system.newScripts w =
      match system.makeDirectory w with
      | (.error reason, v) => (.error ("failed to create reporter directory: " ++ reason), v)
      | (.ok dir, v) =>
        match system.writeScripts dir Reporter.all v with
        | (.error message, u) => (.error message, (system.removeDirectory dir u).2)
        | (.ok (), u) => (.ok dir, u) := by
  unfold newScripts
  simp only [bind, StateT.bind]
  rcases system.makeDirectory w with ⟨answer, v⟩
  cases answer with
  | error reason => rfl
  | ok dir =>
    simp only [StateT.bind]
    rcases system.writeScripts dir Reporter.all v with ⟨answer, u⟩
    cases answer <;> rfl

theorem newScripts_error_iff :
    (system.newScripts w).1 = .error message ↔ Unwritten system w message := by
  rw [newScripts_eq]
  rcases hmake : system.makeDirectory w with ⟨answer, v⟩
  cases answer with
  | error reason =>
    constructor
    · intro h
      cases h
      exact .directory (by rw [hmake])
    · intro h
      cases h with
      | directory hmake' =>
        rw [hmake] at hmake'
        cases hmake'
        rfl
      | script hmake' =>
        rw [hmake] at hmake'
        cases hmake'
  | ok dir =>
    have hwritten : (system.writeScripts dir Reporter.all v).1 = .error message ↔
        Unwritten system w message := by
      rw [writeScripts_error_iff]
      constructor
      · rintro ⟨before, reporter, after, u, reason, hall, hbefore, hfails, rfl⟩
        exact .script hmake hall hbefore hfails
      · intro h
        cases h with
        | directory hmake' =>
          rw [hmake] at hmake'
          cases hmake'
        | script hmake' hall hbefore hfails =>
          rw [hmake] at hmake'
          cases hmake'
          exact ⟨_, _, _, _, _, hall, hbefore, hfails, rfl⟩
    rw [← hwritten]
    dsimp only
    rcases system.writeScripts dir Reporter.all v with ⟨answer, u⟩
    cases answer with
    | error message' => simp
    | ok _ => simp

/-! ## The directory that is kept -/

/-- The directory that is kept is taken; only if there is none, the scripts are written. -/
theorem scriptDirectory_eq (system : System σ) (s : Equipped σ) :
    system.scriptDirectory s =
      match s.scripts with
      | some dir => (.ok dir, s)
      | none =>
        match system.newScripts s.world with
        | (.error message, v) => (.error message, { s with world := v })
        | (.ok dir, v) => (.ok dir, ⟨v, some dir⟩) := by
  obtain ⟨w, scripts⟩ := s
  cases scripts with
  | some dir => rfl
  | none =>
    unfold scriptDirectory equip
    simp only [bind, StateT.bind, get, getThe, MonadStateOf.get, StateT.get, pure, inWorld]
    rcases system.newScripts w with ⟨answer, v⟩
    cases answer <;> rfl

/-- **A linter gets no directory only if the scripts are not yet written and cannot be.** -/
theorem scriptDirectory_error_iff :
    (system.scriptDirectory s).1 = .error message ↔
      s.scripts = none ∧ Unwritten system s.world message := by
  rw [scriptDirectory_eq, ← newScripts_error_iff]
  cases s.scripts with
  | some dir => simp
  | none =>
    dsimp only
    rcases system.newScripts s.world with ⟨answer, v⟩
    cases answer with
    | error message' => simp
    | ok dir => simp

end System

end LintGate
