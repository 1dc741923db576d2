import SheetMarkup.CommandLine.Run
import SheetMarkup.Proofs.Diagnostic.Outcome
import SheetMarkup.Proofs.Render.Warnings

/-!
# Failures — a command that fails leaves nothing behind

A run makes its report first and carries it out as its last step. A report of a failure says something
and no more, and a report with a text for a file fails only where the text cannot be written, in which
case the files are as they were. So whatever it is that goes wrong, nothing has been written before.

* `Report.Fails`: the reports that end with a failure
* `carryOut_fails_iff`, `carryOut_of_fails`: how these are carried out
* `renderReport_fails_iff`: when a strict render has such a report
* `run_failure`: the outcome of a whole command line
-/

namespace SheetMarkup.CommandLine

/-! ## Reports -/

/-- A report ends with a failure: it says so, or its text cannot be written. -/
inductive Report.Fails (files : Files) : Report → Prop where
  | failure {exit : Nat} (message : String) : exit ≠ 0 → Report.Fails files (.failure exit message)
  | store {path text : String} {fault : FileFault} (message said : String) :
    files.write path text = .error fault → Report.Fails files (.store message path text said)

section Reports

variable {files : Files} {report : Report}

theorem carryOut_fails_iff : (report.carryOut files).1.exit ≠ 0 ↔ report.Fails files := by
  cases report with
  | failure exit message =>
    constructor
    · exact .failure message
    · rintro (hexit | _)
      assumption
  | «show» message text =>
    constructor
    · intro hexit
      exact absurd rfl hexit
    · intro hfails
      cases hfails
  | store message path text said =>
    cases hwrite : files.write path text with
    | error fault =>
      simp only [Report.carryOut, hwrite, ne_eq, Nat.one_ne_zero, not_false_eq_true, true_iff]
      exact .store message said hwrite
    | ok written =>
      -- Wherever the text has gone to, it has been written.
      have hexit : ((Report.store message path text said).carryOut files).1.exit = 0 := by
        cases written <;> simp only [Report.carryOut, hwrite]
      constructor
      · intro hne
        exact absurd hexit hne
      · intro hfails
        cases hfails with
        | store _ _ hfault =>
          rw [hwrite] at hfault
          cases hfault

theorem carryOut_of_fails (h : report.Fails files) :
    (report.carryOut files).1.stdout = "" ∧ (report.carryOut files).2 = files := by
  cases h with
  | failure message _ => exact ⟨rfl, rfl⟩
  | store message said hwrite => simp only [Report.carryOut, hwrite, and_self]

theorem delivered_fails_iff {job : Job} {message text : String} {warnings : Nat} :
    (delivered job message text warnings).Fails files ↔
      ∃ path fault, job.output = some path ∧ files.write path text = .error fault := by
  unfold delivered
  cases job.output with
  | none =>
    constructor
    · intro hfails
      cases hfails
    · rintro ⟨_, _, hpath, _⟩
      cases hpath
  | some path =>
    constructor
    · intro hfails
      cases hfails with
      | store _ _ hwrite => exact ⟨path, _, rfl, hwrite⟩
    · rintro ⟨_, _, hpath, hwrite⟩
      cases hpath
      exact .store message _ hwrite

/-- A strict render fails if something is wrong with the table, and otherwise if its markup cannot be
written. -/
theorem renderReport_fails_iff {i : Invocation} (hstrict : i.strict = true) (job : Job)
    (table : Table) (options : RenderOptions) :
    (renderReport i job table options).Fails files ↔
      Renderer.Flawed { table, options } ∨
        ∃ path fault, job.output = some path ∧
          files.write path (Renderer.render { table, options }).markup = .error fault := by
  rw [← Renderer.exists_warning_iff]
  unfold renderReport
  cases hwarnings : (Renderer.render { table, options }).warnings.isEmpty with
  | false =>
    -- The failure is reported before the markup is delivered.
    simp only [hstrict, hwarnings, Bool.not_false, Bool.and_self, if_true, true_or, iff_true]
    exact .failure _ Nat.one_ne_zero
  | true =>
    simp only [hstrict, hwarnings, Bool.not_true, Bool.and_false, Bool.false_eq_true, if_false,
      delivered_fails_iff, reduceCtorEq, false_or]

end Reports

/-! ## Command lines -/

/-- A command line that fails prints nothing and leaves all files as they were. A strict render fails,
once its table and its options have been read, if no cell is left, a shown formula is resolved to an error
marker or a trigger has no cell to merge into; otherwise it fails only if its markup cannot be written. -/
theorem run_failure (arguments : List String) (stdin : String) (files : Files) :
    let out := run arguments stdin files
    (out.1.exit ≠ 0 → out.1.stdout = "" ∧ out.2 = files) ∧
      ∀ i job table options, readInvocation arguments = .ok i → i.command = .render job →
        i.strict = true → readSource files.read stdin job = .ok (table, options) →
          (out.1.exit ≠ 0 ↔
            Renderer.Flawed { table, options } ∨
              ∃ path fault, job.output = some path ∧
                files.write path (Renderer.render { table, options }).markup = .error fault) := by
  intro out
  constructor
  · intro hexit
    exact carryOut_of_fails (carryOut_fails_iff.1 hexit)
  · intro i job table options hinvocation hcommand hstrict hsource
    have hreport : reportOf files.read stdin arguments = renderReport i job table options := by
      simp only [reportOf, hinvocation, report, hcommand, hsource]
    have hout : out = (renderReport i job table options).carryOut files := by
      simp only [out, run, hreport]
    rw [hout, carryOut_fails_iff, renderReport_fails_iff hstrict]

/-- A table with nothing but a trigger fails a strict render, and the file that its markup was meant for
keeps its text. -/
theorem run_failure_of_loneTrigger :
    let files : Files := [(["tmp", "work", "out.html"], "before")]
    let out := run ["render", "--strict", "-f", "csv", "-o", "out.html"] "#rowspan#" files
    out.1.exit ≠ 0 ∧ out.1.stdout = "" ∧ out.2 = files := by
  intro files out
  have hrun := run_failure ["render", "--strict", "-f", "csv", "-o", "out.html"] "#rowspan#" files
  let job : Job := { format := .csv, output := some "out.html" }
  have hexit := hrun.2 { command := .render job, strict := true } job
    { id := "1", data := [["#rowspan#"]] } {} (eq_ok_of_toOption (by decide +kernel)) rfl rfl
    (eq_ok_of_toOption (by decide +kernel))
  -- There is no row above the first one.
  have hflawed : Renderer.Flawed { table := { id := "1", data := [["#rowspan#"]] }, options := {} } := by
    refine @Renderer.Flawed.trigger _ 0 0 "#rowspan#" .rowspan (by decide +kernel) (by decide +kernel) ?_
    rintro ⟨hrow, _⟩
    exact absurd hrow (Nat.lt_irrefl 0)
  have hfails : out.1.exit ≠ 0 := hexit.2 (Or.inl hflawed)
  exact ⟨hfails, hrun.1 hfails⟩

end SheetMarkup.CommandLine
