import GovernanceLock.CommandLine.Run
import GovernanceLock.Proofs.FileTree.Action

/-!
This module contains what a run of a command comes to: what it leaves behind, and that its exit code
tells a success and a violation from a failure.
-/

namespace GovernanceLock

open FileTree.Action (runOn_bind runOn_get runOn_mapError)

namespace CommandLine

theorem ExitCode.ofMessage_cases (message : String) :
    ofMessage message = badManifest ∨ ofMessage message = unresolved ∨
      ofMessage message = failure := by
  unfold ofMessage
  split
  · exact .inl rfl
  · split
    · exact .inr (.inl rfl)
    · exact .inr (.inr rfl)

/--
A command that fails has neither succeeded nor found a violation.
-/
theorem Failure.exitCode_ne (f : Failure) :
    f.exitCode ≠ ExitCode.success ∧ f.exitCode ≠ ExitCode.violation := by
  unfold exitCode
  rcases ExitCode.ofMessage_cases f.message with h | h | h
  all_goals
    rw [h]
    decide

theorem VerifyReport.exitCode_eq_success_iff {r : VerifyReport} :
    r.exitCode = ExitCode.success ↔ r.problems = [] := by
  unfold exitCode
  rw [← List.isEmpty_iff]
  split
  · next h => simp [h]
  · next h => simp [h, ExitCode.violation, ExitCode.success]

theorem VerifyReport.exitCode_of_ne_nil {r : VerifyReport} (h : r.problems ≠ []) :
    r.exitCode = ExitCode.violation := by
  unfold exitCode
  rw [if_neg]
  rw [List.isEmpty_iff]
  exact h

theorem Command.runOn_perform_lock (selected : List String) (engineVersion : String)
    (sources : Sources) (out : Path) (json : Bool) (here : Location) (env : Environment)
    (t : FileTree) :
    ((Command.lock selected engineVersion sources out false).perform json here env).runOn t =
      match sources.load t here env selected engineVersion with
      | .error e => (.error e, t)
      | .ok request =>
        match (request.write here out).runOn t with
        | (.error e, t') => (.error (.write e), t')
        | (.ok outcome, t') =>
          let report : LockReport := ⟨outcome, out, false⟩
          (.ok (ExitCode.success, if json then report.json else report.text), t') := by
  unfold perform runLock
  simp only [runOn_bind, runOn_get]
  cases sources.load t here env selected engineVersion with
  | error e => rfl
  | ok request =>
    dsimp only
    rw [if_neg Bool.false_ne_true]
    simp only [runOn_bind, runOn_mapError]
    rcases (request.write here out).runOn t with ⟨_ | _, _⟩
    · rfl
    · rfl

theorem Command.runOn_perform_verify (path : Path) (sources : Sources) (json : Bool)
    (here : Location) (env : Environment) (t : FileTree) :
    ((Command.verify path sources).perform json here env).runOn t =
      match runVerify path sources t here env with
      | .error e => (.error e, t)
      | .ok report => (.ok (report.exitCode, if json then report.json else report.text), t) := by
  unfold perform
  simp only [runOn_bind, runOn_get]
  cases runVerify path sources t here env with
  | error e => rfl
  | ok report => rfl

theorem Command.runOn_perform_scan (directory : Path) (json : Bool) (here : Location)
    (env : Environment) (t : FileTree) :
    ((Command.scan directory).perform json here env).runOn t =
      match runScan directory t here with
      | .error e => (.error e, t)
      | .ok report => (.ok (report.exitCode, if json then report.json else report.text), t) := by
  unfold perform
  simp only [runOn_bind, runOn_get]
  cases runScan directory t here with
  | error e => rfl
  | ok report => rfl

namespace Invocation

variable {i : Invocation} {here : Location} {env : Environment} {t t' : FileTree} {o : Output}
variable {sources : Sources} {out : Path}

theorem exists_write_of_run {selected : List String} {engineVersion : String}
    (hcommand : i.command = .lock selected engineVersion sources out false)
    (h : i.run here env t = (o, t')) (hok : o.exitCode = ExitCode.success) :
    ∃ request outcome, sources.load t here env selected engineVersion = .ok request ∧
      (request.write here out).runOn t = (.ok outcome, t') := by
  unfold run at h
  rw [hcommand, Command.runOn_perform_lock] at h
  cases hload : sources.load t here env selected engineVersion with
  | error e =>
    rw [hload] at h
    cases h
    exact absurd hok e.exitCode_ne.1
  | ok request =>
    rw [hload] at h
    dsimp only at h
    rcases hwrite : (request.write here out).runOn t with ⟨e | outcome, t₁⟩
    · rw [hwrite] at h
      cases h
      exact absurd hok (Failure.write e).exitCode_ne.1
    · rw [hwrite] at h
      cases h
      exact ⟨request, outcome, rfl, hwrite⟩

theorem exitCode_run_verify (hcommand : i.command = .verify out sources) :
    (i.run here env t).1.exitCode =
      match Command.runVerify out sources t here env with
      | .error e => e.exitCode
      | .ok report => report.exitCode := by
  unfold run
  rw [hcommand, Command.runOn_perform_verify]
  cases Command.runVerify out sources t here env with
  | error e => rfl
  | ok report => rfl

end Invocation

end CommandLine

end GovernanceLock
