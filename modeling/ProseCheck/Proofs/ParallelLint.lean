import ProseCheck.Command.Run
import ProseCheck.Proofs.WorkerPool
import Mathlib.Data.Int.Notation

/-!
# Linting with several workers

With more than one worker, files are checked in a pool, and the rules of each file are evaluated in
a pool of their own. The workers of all pools make their steps in any order. Whatever the order, the
outcome is that of checking the files and evaluating the rules one after the other: the same
diagnostics, or the same fault. So a run that is asked for several workers comes out as one without
them, up to its log.
-/

namespace ProseCheck.Linter

open Document FileSystem

variable {ι ε β : Type}

/-- Whether jobs are run in a pool: if more than one worker is asked for, and there is more than one
job. -/
def usesPool (workers : Option ℤ) (jobs : List ι) : Bool :=
  workers.any (fun n => decide (1 < n)) && decide (1 < jobs.length)

/-- The machine that evaluates a rule over a document. -/
def ruleMachine : Machine (Node × Job) (Except Fault (List Diagnostic)) :=
  .ofFunction (Function.uncurry Job.run)

/-- The machine that checks a document. Its rules are evaluated in a pool or one after the other;
their diagnostics are put together in the order of the rules. -/
def lintMachine (linter : Linter) (workers : Option ℤ) :
    Machine Node (Except Fault (List Diagnostic)) :=
  ((Machine.choose (usesPool workers) (ruleMachine.pool (workers.getD 0).toNat)
    ruleMachine.inTurn).comap fun tree => linter.jobs.map fun job => (tree, job)).map
      fun _ r => r.map fun results => sortByLine results.flatten

/-- The tree of the document in a file. -/
def readTree (reader : Markdown.Reader) (fs : FileSystem) (path : Path) : Except Fault Node :=
  ((Source.ofFile reader fs path).mapError Fault.source).map Source.tree

/-- The machine that checks the document in a file, after a step in which the file is read. -/
def lintFileMachine (linter : Linter) (workers : Option ℤ) (reader : Markdown.Reader)
    (fs : FileSystem) : Machine Path (Except Fault (List Diagnostic)) :=
  (linter.lintMachine workers).andThen (readTree reader fs)

/-- The machine that checks the documents in several files, in a pool or one after the other. -/
def lintFilesMachine (linter : Linter) (workers : Option ℤ) (reader : Markdown.Reader)
    (fs : FileSystem) : Machine (List Path) (Except Fault (List (Path × List Diagnostic))) :=
  Machine.choose (usesPool workers)
    (((linter.lintFileMachine workers reader fs).pool (workers.getD 0).toNat).map
      fun paths r => r.map fun results => paths.zip results)
    ((linter.lintFileMachine workers reader fs).map
      fun path r => r.map fun diagnostics => (path, diagnostics)).inTurn

/-- A pool that is used has a worker. -/
theorem workers_pos_of_usesPool {workers : Option ℤ} {jobs : List ι}
    (h : usesPool workers jobs = true) : 0 < (workers.getD 0).toNat := by
  cases workers with
  | none => simp [usesPool] at h
  | some n =>
    simp only [usesPool, Option.any_some, Bool.and_eq_true, decide_eq_true_eq] at h
    simp only [Option.getD_some]
    omega

/-- Pairing jobs with their values at the end is pairing each job with its value. -/
theorem map_zip_mapM (f : ι → Except ε β) (jobs : List ι) :
    ((jobs.mapM f).map fun values => jobs.zip values) =
      jobs.mapM fun a => (f a).map fun b => (a, b) := by
  induction jobs with
  | nil => rfl
  | cons a jobs ih =>
    rw [List.mapM_cons, List.mapM_cons, ← ih]
    cases f a with
    | error e => rfl
    | ok b =>
      cases jobs.mapM f with
      | error e => rfl
      | ok values => rfl

/-- Checking a document in any order of steps is evaluating its rules one after the other. -/
theorem computes_lintMachine (linter : Linter) (workers : Option ℤ) :
    (linter.lintMachine workers).Computes linter.lint := by
  have hrule : ruleMachine.Computes (Function.uncurry Job.run) := Machine.computes_ofFunction _
  have hrules : (Machine.choose (usesPool workers) (ruleMachine.pool (workers.getD 0).toNat)
      ruleMachine.inTurn).Computes fun jobs => jobs.mapM (Function.uncurry Job.run) := by
    apply Machine.computes_choose
    · intro jobs hjobs
      exact hrule.pool (workers_pos_of_usesPool hjobs) jobs
    · intro jobs _
      exact hrule.inTurn jobs
  have hlint (tree : Node) : ((linter.jobs.map fun job => (tree, job)).mapM
      (Function.uncurry Job.run)).map (fun results => sortByLine results.flatten) =
        linter.lint tree := by
    rw [List.mapM_map, lint]
    change (linter.jobs.mapM (Job.run tree)).map _ = _
    cases linter.jobs.mapM (Job.run tree) with
    | error fault => rfl
    | ok results => rfl
  intro tree r
  rw [← hlint]
  exact (hrules.comap _).map _ tree r

/-- Checking a file in any order of steps is reading it and checking its document. -/
theorem computes_lintFileMachine (linter : Linter) (workers : Option ℤ) (reader : Markdown.Reader)
    (fs : FileSystem) :
    (linter.lintFileMachine workers reader fs).Computes (linter.lintFile reader fs) := by
  have hfile (path : Path) :
      (readTree reader fs path).bind linter.lint = linter.lintFile reader fs path := by
    unfold readTree lintFile
    cases Source.ofFile reader fs path with
    | error fault => rfl
    | ok source => rfl
  intro path r
  rw [← hfile]
  exact (linter.computes_lintMachine workers).andThen (readTree reader fs) path r

/-- Checking files in any order of steps is checking them one after the other. -/
theorem computes_lintFilesMachine (linter : Linter) (workers : Option ℤ)
    (reader : Markdown.Reader) (fs : FileSystem) :
    (linter.lintFilesMachine workers reader fs).Computes (linter.lintFiles reader fs) := by
  have hfile := linter.computes_lintFileMachine workers reader fs
  apply Machine.computes_choose
  · intro paths hpaths r
    rw [lintFiles, ← map_zip_mapM]
    exact (hfile.pool (workers_pos_of_usesPool hpaths)).map _ paths r
  · intro paths _ r
    exact (hfile.map fun path r => r.map fun diagnostics => (path, diagnostics)).inTurn paths r

/-- Any number of workers and any order of their steps give the outcome without workers: of a
document the same diagnostics or the same fault, and of several files the same diagnostics for each
file or the fault of the same file. The steps can always be made so that the work is completed. -/
theorem interleaving_gives_iff (linter : Linter) (workers : Option ℤ) (reader : Markdown.Reader)
    (fs : FileSystem) :
    (∀ tree r, (linter.lintMachine workers).Gives tree r ↔ r = linter.lint tree) ∧
    ∀ paths r, (linter.lintFilesMachine workers reader fs).Gives paths r ↔
      r = linter.lintFiles reader fs paths :=
  ⟨linter.computes_lintMachine workers, linter.computes_lintFilesMachine workers reader fs⟩

end ProseCheck.Linter

namespace ProseCheck.Command

variable {reader : Markdown.Reader} {fs : FileSystem} {request : LintRequest}

/-- An outcome with another log. -/
def Outcome.withLog (outcome : Outcome) (log : List LogRecord) : Outcome :=
  { outcome with log := log }

/-- A text is printed whatever is in the log. -/
theorem withLog_print (log log' : List LogRecord) (text : Str) (failed : Bool) :
    (print fs log text failed).withLog log' = print fs log' text failed := by
  unfold print
  cases text.chars with
  | ok chars => rfl
  | error lone => rfl

/-- A report is delivered whatever is in the log. -/
theorem withLog_deliver (log log' : List LogRecord) (output : Option FileSystem.Path)
    (report : Str) (failed : Bool) :
    (deliver fs log output report failed).withLog log' = deliver fs log' output report failed := by
  cases output with
  | none => exact withLog_print log log' _ failed
  | some path =>
    cases hwrite : fs.write path (bytesLeft report) with
    | error trouble =>
      simp only [deliver, hwrite]
      rfl
    | ok written =>
      cases hlone : report.lone? with
      | some lone =>
        simp only [deliver, hwrite, hlone]
        rfl
      | none =>
        simp only [deliver, hwrite, hlone]
        exact withLog_print log log' _ failed

/-- A run ends in the same way whatever is in the log. -/
theorem withLog_conclude (log log' : List LogRecord) (output : Option FileSystem.Path)
    (format : Str) (linted : Except Linter.Fault (List (FileSystem.Path × List Diagnostic))) :
    (conclude fs log output format linted).withLog log' =
      conclude fs log' output format linted := by
  cases linted with
  | error fault => rfl
  | ok results =>
    cases hrender : Report.render results format with
    | error fault =>
      simp only [conclude, hrender]
      cases fault with
      | unknown format => rfl
      | unserializable lone => rfl
    | ok report =>
      simp only [conclude, hrender]
      exact withLog_deliver log log' output report _

/-- A run whose files are there and whose configuration is loaded comes out, up to its log, as the
workers that it is asked for find the files, in whatever order they make their steps. -/
theorem runLint_eq_of_gives {config : Config}
    (hregular : ∀ path ∈ request.files, fs.isFile path = true)
    (hload : Config.load fs request.config fs.workingPath = .ok config)
    {linted : Except Linter.Fault (List (FileSystem.Path × List Diagnostic))}
    (hgives : (Linter.lintFilesMachine ⟨config, .standard⟩ (some request.jobs) reader fs).Gives
      request.files linted) (log : List LogRecord) :
    (runLint reader fs request).withLog log =
      conclude fs log request.output config.format linted := by
  have hlinted := (Linter.computes_lintFilesMachine _ _ _ _ _ _).mp hgives
  have hfind : request.files.find? (fun path => !fs.isFile path) = none := by simpa using hregular
  rw [hlinted]
  simp only [runLint, hfind, hload]
  exact withLog_conclude _ log _ _ _

end ProseCheck.Command
