import BindingGlue.CommandLine.Program
import BindingGlue.Proofs.Batch.Refused
import BindingGlue.Proofs.CommandLine.Settings
import BindingGlue.Proofs.Fragments.Faults
import BindingGlue.Proofs.Interpreter.Documented

/-!
# What the program writes

Where no directory of templates is found, the program writes the report of the standard generator,
and its exit code says whether the batch was accepted; nothing else on the command line has a part
in either. The exit code can be told from the output, since a report is empty or begins with a rule
and a diagnostic begins with the name of its code.

Where a directory is found, its templates may be at fault, and then nothing is written. They cannot
make a difference to a batch that is refused.
-/

namespace BindingGlue.CommandLine

variable {engine : Template.DocumentedEngine} {raw : Template.Engine} {files files' : FileSystem Id}
  {arguments arguments' : List String}
  {settings settings' : Settings} {directory : TemplatesDirectory} {setup : Log.Setup}
  {generator : Generator} {answer : Except Diagnostic Output} {input report : String}
  {outcome outcome' : Outcome} {file file' : Option LogFile}

/-! ### Outcomes -/

theorem toOption_eq_some_iff {ε α : Type} {result : Except ε α} {a : α} :
    result.toOption = some a ↔ result = .ok a := by
  cases result <;> simp [Except.toOption]

theorem answer?_eq_some (hrun : generator.run input = .ok answer)
    (hrender : generator.render answer = .ok report) :
    answer? generator input = some (if answer.toBool then 0 else 1, report) := by
  rw [answer?, hrun]
  show (do
    let report ← (generator.render answer).toOption
    return (if answer.toBool then 0 else 1, report)) = _
  rw [hrender]
  rfl

/-- There is an outcome of a generator that answers. -/
theorem exists_of_answer?_eq_some {exitCode : Nat}
    (h : answer? generator input = some (exitCode, report)) :
    ∃ answer, generator.run input = .ok answer ∧ generator.render answer = .ok report ∧
      exitCode = if answer.toBool then 0 else 1 := by
  rw [answer?] at h
  obtain ⟨answer, hrun, h⟩ := Option.bind_eq_some_iff.1 h
  obtain ⟨report', hrender, h⟩ := Option.bind_eq_some_iff.1 h
  cases h
  exact ⟨answer, toOption_eq_some_iff.1 hrun, toOption_eq_some_iff.1 hrender, rfl⟩

theorem execute_of_answer (setup : Log.Setup)
    (hdirectory : directory.generator? raw = some generator)
    (hrun : generator.run input = .ok answer) (hrender : generator.render answer = .ok report) :
    (execute raw setup directory input).exitCode = (if answer.toBool then 0 else 1) ∧
      (execute raw setup directory input).output = report := by
  rw [execute, hdirectory]
  simp only [answer?_eq_some hrun hrender, and_self]

/-- Either the program breaks, and writes nothing, or its outcome is that of an answer. -/
theorem execute_cases (raw : Template.Engine) (setup : Log.Setup) (directory : TemplatesDirectory)
    (input : String) :
    (execute raw setup directory input).exitCode = 2 ∧
        (execute raw setup directory input).output = "" ∨
      ∃ generator answer, directory.generator? raw = some generator ∧
        generator.run input = .ok answer ∧
        generator.render answer = .ok (execute raw setup directory input).output ∧
        (execute raw setup directory input).exitCode = if answer.toBool then 0 else 1 := by
  cases hdirectory : directory.generator? raw with
  | none =>
    rw [execute, hdirectory]
    exact .inl ⟨rfl, rfl⟩
  | some generator =>
    cases hanswer : answer? generator input with
    | none =>
      rw [execute, hdirectory]
      simp only [hanswer, and_self, true_or]
    | some shown =>
      obtain ⟨answer, hrun, hrender, -⟩ := exists_of_answer?_eq_some hanswer
      obtain ⟨hexit, houtput⟩ := execute_of_answer setup hdirectory hrun hrender
      exact .inr ⟨generator, answer, rfl, hrun, by rw [houtput, hrender], hexit⟩

/-- The file of the log, if there is one, does not lead to where the standard output goes. -/
def IsApart (file : Option LogFile) : Prop :=
  ∀ log ∈ file, log.isOutput = false

/-- Apart from the log what arrives is what is written. -/
theorem received_of_isApart (outcome : Outcome) (h : IsApart file) :
    outcome.received file = outcome.output := by
  cases file with
  | none => rfl
  | some log =>
    have hlog : log.isOutput = false := h log rfl
    simp [Outcome.received, hlog]

/-- Otherwise the log arrives in front of what is written. -/
theorem received_of_not_isApart (outcome : Outcome) (h : ¬ IsApart file) :
    outcome.received file = outcome.log ++ outcome.output := by
  cases file with
  | none => exact absurd nofun h
  | some log =>
    have hlog : log.isOutput = true := by
      simpa [IsApart] using h
    simp [Outcome.received, hlog]

/-! ### What the command line asks for -/

namespace FileSystem

/-- Arguments that are accepted as settings, for which there is a log: its layout is one, and its
file can be written if there is to be one. -/
structure Accepts (files : FileSystem Id) (arguments : List String) (settings : Settings) :
    Prop where
  read_eq : Settings.read arguments = .ok settings
  exists_layout : ∃ layout, Log.Layout.read (settings.logFormat.text?.getD "") = .ok layout
  exists_logFile : ∃ file, (files.logFile settings).run = .ok file

/-- There is a directory of templates where the settings ask for one. -/
def HasTemplates (files : FileSystem Id) (settings : Settings) : Prop :=
  ∃ path steps, settings.templatesDir.text? = some path ∧ files.steps? path = some steps ∧
    (lookUp files.isDirectory? steps).run = .directory

/-- The settings ask for no directory of templates, or for one that can be looked up and is not
there. -/
def LacksTemplates (files : FileSystem Id) (settings : Settings) : Prop :=
  ∀ path, settings.templatesDir.text? = some path → ∃ steps, files.steps? path = some steps ∧
    (lookUp files.isDirectory? steps).run ∈ [.file, .vacant, .unreachable, .blocked]

theorem exists_openLog_eq_ok (h : files.Accepts arguments settings) :
    ∃ setup file, (files.openLog settings).run = .ok (setup, file) ∧
      (files.logFile settings).run = .ok file := by
  obtain ⟨layout, hlayout⟩ := h.exists_layout
  obtain ⟨setup, hsetup⟩ := Settings.exists_logSetup_eq_ok h.read_eq hlayout
  obtain ⟨file, hfile⟩ := h.exists_logFile
  refine ⟨setup, file, ?_, hfile⟩
  rw [Id.run] at hfile
  rw [openLog, hsetup]
  simp only [hfile]
  rfl

/-- The directory of templates, where a path is given for it and leads to some place. -/
theorem run_templatesDirectory {path : String} {steps : List String}
    (hpath : settings.templatesDir.text? = some path) (hsteps : files.steps? path = some steps) :
    (files.templatesDirectory settings).run = match (lookUp files.isDirectory? steps).run with
      | .directory => .found (files.shelf (pathText steps)).run
      | .tooLong => .unusable
      | _ => .missing (pathText steps) := by
  rw [templatesDirectory, hpath]
  simp only [hsteps]
  cases hplace : (lookUp files.isDirectory? steps).run
  all_goals
    rw [Id.run] at hplace
    simp only [hplace]
    rfl

theorem generator?_of_lacksTemplates (h : files.LacksTemplates settings) :
    (files.templatesDirectory settings).run.generator? engine.toEngine =
      some (.standard engine) := by
  cases hpath : settings.templatesDir.text? with
  | none =>
    rw [templatesDirectory, hpath]
    rfl
  | some path =>
    obtain ⟨steps, hsteps, hplace⟩ := h path hpath
    rw [run_templatesDirectory hpath hsteps]
    simp only [List.mem_cons, List.not_mem_nil, or_false] at hplace
    rcases hplace with hplace | hplace | hplace | hplace
    all_goals
      rw [hplace]
      rfl

theorem exists_generator?_of_hasTemplates (raw : Template.Engine)
    (h : files.HasTemplates settings) :
    ∃ shelf, (files.templatesDirectory settings).run.generator? raw =
      some { engine := raw, shelf } := by
  obtain ⟨path, steps, hpath, hsteps, hplace⟩ := h
  rw [run_templatesDirectory hpath hsteps, hplace]
  exact ⟨_, rfl⟩

theorem run_program (files : FileSystem Id) (raw : Template.Engine) (arguments : List String)
    (input : String) :
    (files.program raw arguments input).run = match Settings.read arguments with
      | .error usage => .error (.usage usage)
      | .ok settings => match (files.openLog settings).run with
        | .error fault => .error (.log fault)
        | .ok (setup, file) =>
          .ok (execute raw setup (files.templatesDirectory settings).run input, file) := by
  rw [program]
  cases Settings.read arguments with
  | error usage => rfl
  | ok settings =>
    cases hopen : (files.openLog settings).run
    all_goals
      rw [Id.run] at hopen
      simp only [hopen]
      rfl

/-- An outcome is that of accepted arguments. -/
theorem exists_of_program_eq_ok
    (h : (files.program raw arguments input).run = .ok (outcome, file)) :
    ∃ settings setup, Settings.read arguments = .ok settings ∧
      outcome = execute raw setup (files.templatesDirectory settings).run input := by
  rw [run_program] at h
  split at h
  case h_1 => cases h
  case h_2 settings hread =>
    split at h
    case h_1 => cases h
    case h_2 setup file hopen =>
      cases h
      exact ⟨settings, setup, hread, rfl⟩

theorem exists_program_eq_ok (raw : Template.Engine) (h : files.Accepts arguments settings)
    (input : String) :
    ∃ setup file, (files.logFile settings).run = .ok file ∧
      (files.program raw arguments input).run =
        .ok (execute raw setup (files.templatesDirectory settings).run input, file) := by
  obtain ⟨setup, file, hopen, hfile⟩ := exists_openLog_eq_ok h
  exact ⟨setup, file, hfile, by rw [run_program, h.read_eq]; simp only [hopen]⟩

/-! ### Output and exit code -/

/-- Without a directory of templates the outcome is that of the standard generator. -/
theorem exists_outcome_of_lacksTemplates (haccepts : files.Accepts arguments settings)
    (hlacks : files.LacksTemplates settings)
    (hrun : Generator.run (.standard engine) input = .ok answer)
    (hrender : Generator.render (.standard engine) answer = .ok report) :
    ∃ outcome file, (files.program engine.toEngine arguments input).run = .ok (outcome, file) ∧
      (files.logFile settings).run = .ok file ∧
      outcome.exitCode = (if answer.toBool then 0 else 1) ∧ outcome.output = report := by
  obtain ⟨setup, file, hfile, hprogram⟩ := exists_program_eq_ok engine.toEngine haccepts input
  exact ⟨_, file, hprogram, hfile,
    execute_of_answer setup (generator?_of_lacksTemplates hlacks) hrun hrender⟩

/-- Whatever the templates in a directory are, and whatever fills them in, nothing is written where
the program breaks, and a refused batch is shown as it is without them. -/
theorem output_of_hasTemplates (engine : Template.DocumentedEngine)
    (hread : Settings.read arguments = .ok settings) (hhas : files.HasTemplates settings)
    (hprogram : (files.program raw arguments input).run = .ok (outcome, file)) :
    (outcome.exitCode = 2 → outcome.output = "") ∧
      (outcome.exitCode = 1 → ∃ diagnostic,
        Generator.run (.standard engine) input = .ok (.error diagnostic) ∧
          outcome.output = diagnostic.text ++ "\n") := by
  obtain ⟨settings', setup, hread', rfl⟩ := exists_of_program_eq_ok hprogram
  obtain rfl := Except.ok.inj (hread.symm.trans hread')
  obtain ⟨shelf, hshelf⟩ := exists_generator?_of_hasTemplates raw hhas
  rcases execute_cases raw setup (files.templatesDirectory settings).run input with
    ⟨hcode, houtput⟩ | ⟨generator, answer, hgenerator, hrun, hrender, hcode⟩
  · rw [hcode]
    exact ⟨fun _ ↦ houtput, nofun⟩
  obtain rfl := Option.some.inj (hshelf.symm.trans hgenerator)
  rw [hcode]
  cases answer with
  | ok output => exact ⟨nofun, nofun⟩
  | error diagnostic =>
    refine ⟨nofun, fun _ ↦ ⟨diagnostic, ?_, (Except.ok.inj hrender).symm⟩⟩
    -- the standard generator answers, and so it refuses the batch as well
    obtain ⟨answer, hstandard⟩ := Generator.exists_run_standard engine input
    have hcatalogue : Generator.catalogue (.standard engine) =
        Generator.catalogue { engine := raw, shelf } := rfl
    rw [hstandard, Generator.answer_eq_of_run_refused hcatalogue hrun hstandard]

/-- Whether a batch was accepted can be told from what the standard generator shows of it. -/
theorem toBool_iff_of_render (hrun : Generator.run (.standard engine) input = .ok answer)
    (hrender : Generator.render (.standard engine) answer = .ok report) :
    answer.toBool ↔ report = "" ∨ "//----".toList <+: report.toList := by
  cases answer with
  | ok output =>
    rw [Generator.render, Generator.report_eq_ok (Generator.usesStandardTemplates_standard engine)]
      at hrender
    obtain rfl := Except.ok.inj hrender
    exact iff_of_true rfl (joined_sectionText_eq_empty_or_isPrefix _)
  | error diagnostic =>
    obtain rfl := Except.ok.inj hrender
    obtain ⟨c, cs, htext, hc⟩ := Generator.exists_toList_text_of_run hrun
    refine iff_of_false nofun ?_
    rintro (hempty | hprefix)
    · have hnil := congrArg String.toList hempty
      rw [String.toList_append, htext] at hnil
      cases hnil
    · rw [String.toList_append, htext, List.cons_append] at hprefix
      exact hc (List.cons_prefix_cons.1 hprefix).1.symm

/-- **What the program writes.** Without a directory of templates it is the report of the standard
generator, and the exit code says whether the batch was accepted, which can be told from the report
as well; neither depends on other arguments or on the file system. This is also what arrives where
the standard output goes, unless the file of the log leads there: then the log arrives first. With a
directory of templates, of whatever content and whatever fills them in, nothing is written where the
program breaks, and a batch that it refuses is shown as it is without the directory; this is all
that arrives, unless the log leads there. -/
theorem program_exact (engine : Template.DocumentedEngine) (input : String) :
    (∀ (files : FileSystem Id) arguments settings, files.Accepts arguments settings →
      files.LacksTemplates settings →
        ∃ outcome file,
          (files.program engine.toEngine arguments input).run = .ok (outcome, file) ∧
          (files.logFile settings).run = .ok file ∧
          Generator.process (.standard engine) input = .ok outcome.output ∧
          (IsApart file → outcome.received file = outcome.output) ∧
          (¬ IsApart file → outcome.received file = outcome.log ++ outcome.output) ∧
          ((∃ diagnostic, Generator.run (.standard engine) input = .ok (.error diagnostic)) ∧
              outcome.exitCode = 1 ∨
            (∃ output, Generator.run (.standard engine) input = .ok (.ok output)) ∧
              outcome.exitCode = 0) ∧
          (outcome.exitCode = 0 ↔
            outcome.output = "" ∨ "//----".toList <+: outcome.output.toList) ∧
          ∀ (files' : FileSystem Id) arguments' settings', files'.Accepts arguments' settings' →
            files'.LacksTemplates settings' →
              ∃ outcome' file',
                (files'.program engine.toEngine arguments' input).run = .ok (outcome', file') ∧
                outcome'.exitCode = outcome.exitCode ∧ outcome'.output = outcome.output ∧
                (IsApart file → IsApart file' →
                  outcome'.received file' = outcome.received file)) ∧
    ∀ (raw : Template.Engine) (files : FileSystem Id) arguments settings,
      Settings.read arguments = .ok settings → files.HasTemplates settings → ∀ outcome file,
        (files.program raw arguments input).run = .ok (outcome, file) →
          (IsApart file → outcome.received file = outcome.output) ∧
          (outcome.exitCode = 2 → outcome.output = "") ∧
          (outcome.exitCode = 1 → ∃ diagnostic,
            Generator.run (.standard engine) input = .ok (.error diagnostic) ∧
              outcome.output = diagnostic.text ++ "\n" ∧
                Generator.process (.standard engine) input = .ok outcome.output) := by
  obtain ⟨answer, hrun⟩ := Generator.exists_run_standard engine input
  obtain ⟨report, hrender⟩ :=
    Generator.exists_render_eq_ok (Generator.usesStandardTemplates_standard engine) answer
  have hprocess : Generator.process (.standard engine) input = .ok report := by
    rw [Generator.process, hrun]
    exact hrender
  refine ⟨fun files arguments settings haccepts hlacks ↦ ?_,
    fun raw files arguments settings hread hhas outcome file hprogram ↦ ?_⟩
  · obtain ⟨outcome, file, hprogram, hfile, hcode, rfl⟩ :=
      exists_outcome_of_lacksTemplates haccepts hlacks hrun hrender
    refine ⟨outcome, file, hprogram, hfile, hprocess, received_of_isApart outcome,
      received_of_not_isApart outcome, ?_, ?_, ?_⟩
    · rw [hcode, hrun]
      cases answer <;> simp [Except.toBool]
    · rw [← toBool_iff_of_render hrun hrender, hcode]
      split <;> simp [*]
    · intro files' arguments' settings' haccepts' hlacks'
      obtain ⟨outcome', file', hprogram', -, hsame⟩ :=
        exists_outcome_of_lacksTemplates haccepts' hlacks' hrun hrender
      rw [hcode]
      refine ⟨outcome', file', hprogram', hsame.1, hsame.2, fun hapart hapart' ↦ ?_⟩
      rw [received_of_isApart _ hapart, received_of_isApart _ hapart', hsame.2]
  · obtain ⟨hbroken, hrefused⟩ := output_of_hasTemplates engine hread hhas hprogram
    refine ⟨received_of_isApart outcome, hbroken, fun hcode ↦ ?_⟩
    obtain ⟨diagnostic, hrun', houtput⟩ := hrefused hcode
    exact ⟨diagnostic, hrun', houtput, houtput ▸ Generator.process_eq_of_run_refused hrun'⟩

/-- A file system with two directories of templates, where the one of the report is broken or cannot
be read, and with the place that the standard output goes to. -/
def withBrokenTemplates : FileSystem Id where
  workingDirectory := "/"
  isDirectory? path :=
    if path ∈ ["/broken", "/unreadable", "/dev"] then some true
    else if path = "/dev/stdout" then some false
    else none
  shelf path :=
    if path = "/broken" then [("report.txt.j2", .ok "\x7b\x7b")]
    else [("report.txt.j2", .error (.unreadable "report.txt.j2"))]
  isOutput path := path == "/dev/stdout"

/-- A refused batch with many options, with the log where the output goes, and with broken
templates; and batches that broken and unreadable templates break. -/
theorem program_exact_withBrokenTemplates :
    (∃ outcome file, (withBrokenTemplates.program Interpreter.engine
          ["-vvq", "--templ", "none", "--log-file=log", "--log-level", "info"]
          "// PROP: QLabel\n// TODO: int indent(int a);").run = .ok (outcome, file) ∧
        Generator.process (.standard Interpreter.documented)
          "// PROP: QLabel\n// TODO: int indent(int a);" = .ok (outcome.received file)) ∧
    (∃ outcome file, (withBrokenTemplates.program Interpreter.engine ["--log-file", "/dev/stdout"]
          "// PROP: QLabel\n// TODO: int indent(int a);").run = .ok (outcome, file) ∧
        Generator.process (.standard Interpreter.documented)
          "// PROP: QLabel\n// TODO: int indent(int a);" = .ok outcome.output ∧
        outcome.received file = "WARNING: Aborting batch: " ++ outcome.output ++ outcome.output) ∧
    (∃ outcome file, (withBrokenTemplates.program Interpreter.engine ["--templates-dir", "broken"]
          "// PROP: QLabel\n// TODO: int indent(int a);").run = .ok (outcome, file) ∧
        outcome.exitCode = 1 ∧
        Generator.process (.standard Interpreter.documented)
          "// PROP: QLabel\n// TODO: int indent(int a);" = .ok outcome.output) ∧
    ∀ name ∈ ["broken", "unreadable"], ∃ outcome file,
      (withBrokenTemplates.program Interpreter.engine ["--templates-dir", name]
          "// PROP: QLabel\n// TODO: int indent();").run = .ok (outcome, file) ∧
        outcome.exitCode = 2 ∧ outcome.output = "" := by
  have haccepts : withBrokenTemplates.Accepts
      ["-vvq", "--templ", "none", "--log-file=log", "--log-level", "info"]
      { templatesDir := .given "none", verbose := 2, quiet := 1, logLevel := .given "info",
        logFile := .given "log" } :=
    ⟨by decide +kernel, ⟨⟨Log.Layout.standardText, by decide +kernel⟩, by rfl⟩,
      some ⟨"/log", false⟩, by rfl⟩
  have hlacks : withBrokenTemplates.LacksTemplates
      { templatesDir := .given "none", verbose := 2, quiet := 1, logLevel := .given "info",
        logFile := .given "log" } := by
    intro path hpath
    obtain rfl : "none" = path := Option.some.inj hpath
    exact ⟨["none"], by rfl, by decide +kernel⟩
  have hfile : (withBrokenTemplates.logFile
      { templatesDir := .given "none", verbose := 2, quiet := 1, logLevel := .given "info",
        logFile := .given "log" }).run = .ok (some ⟨"/log", false⟩) := by
    rfl
  have haccepts' : withBrokenTemplates.Accepts ["--log-file", "/dev/stdout"]
      { logFile := .given "/dev/stdout" } :=
    ⟨by decide +kernel, ⟨⟨Log.Layout.standardText, by decide +kernel⟩, by rfl⟩,
      some ⟨"/dev/stdout", true⟩, by rfl⟩
  have hlacks' : withBrokenTemplates.LacksTemplates { logFile := .given "/dev/stdout" } := by
    rintro path ⟨⟩
  have hfile' : (withBrokenTemplates.logFile { logFile := .given "/dev/stdout" }).run =
      .ok (some ⟨"/dev/stdout", true⟩) := by
    rfl
  have hread : ∀ name ∈ ["broken", "unreadable"],
      Settings.read ["--templates-dir", name] = .ok { templatesDir := .given name } := by
    decide +kernel
  have hhas : ∀ name ∈ ["broken", "unreadable"],
      withBrokenTemplates.HasTemplates { templatesDir := .given name } := by
    intro name hname
    refine ⟨name, [name], ?_, ?_, ?_⟩
    all_goals
      simp only [List.mem_cons, List.not_mem_nil, or_false] at hname
      rcases hname with rfl | rfl
      all_goals decide +kernel
  have hrefused : (withBrokenTemplates.program Interpreter.engine ["--templates-dir", "broken"]
      "// PROP: QLabel\n// TODO: int indent(int a);").run =
        .ok (⟨1, "GrammarMismatch: property getter 'indent' must not take arguments in line: " ++
            "// TODO: int indent(int a);\n",
          "WARNING: Aborting batch: GrammarMismatch: property getter 'indent' must not take " ++
            "arguments in line: // TODO: int indent(int a);\n"⟩, none) := by
    decide +kernel
  have hlogged : (withBrokenTemplates.program Interpreter.engine ["--log-file", "/dev/stdout"]
      "// PROP: QLabel\n// TODO: int indent(int a);").run =
        .ok (⟨1, "GrammarMismatch: property getter 'indent' must not take arguments in line: " ++
            "// TODO: int indent(int a);\n",
          "WARNING: Aborting batch: GrammarMismatch: property getter 'indent' must not take " ++
            "arguments in line: // TODO: int indent(int a);\n"⟩, some ⟨"/dev/stdout", true⟩) := by
    decide +kernel
  have hbroken : ∀ name ∈ ["broken", "unreadable"],
      (withBrokenTemplates.program Interpreter.engine ["--templates-dir", name]
        "// PROP: QLabel\n// TODO: int indent();").run =
          .ok (⟨2, "", "ERROR: Failed to generate bindings\n"⟩, none) := by
    decide +kernel
  refine ⟨?_, ?_, ?_, fun name hname ↦ ?_⟩
  · obtain ⟨outcome, file, hprogram, hlog, hprocess, hreceived, -⟩ :=
      (program_exact Interpreter.documented _).1 _ _ _ haccepts hlacks
    obtain rfl := Except.ok.inj (hfile.symm.trans hlog)
    refine ⟨outcome, _, hprogram, ?_⟩
    rw [hreceived (by rintro log ⟨⟩; rfl), hprocess]
  · obtain ⟨outcome, file, hprogram, hlog, hprocess, -, hreceived, -⟩ :=
      (program_exact Interpreter.documented
        "// PROP: QLabel\n// TODO: int indent(int a);").1 _ _ _ haccepts' hlacks'
    obtain rfl := Except.ok.inj (hfile'.symm.trans hlog)
    refine ⟨outcome, _, hprogram, hprocess, ?_⟩
    rw [hreceived fun hapart ↦ absurd (hapart _ rfl) (by decide)]
    obtain ⟨rfl, -⟩ := Prod.mk.inj (Except.ok.inj (hprogram.symm.trans hlogged))
    decide +kernel
  · obtain ⟨-, -, hone⟩ :=
      (program_exact Interpreter.documented _).2 _ _ _ _ (hread _ (by simp)) (hhas _ (by simp))
        _ _ hrefused
    obtain ⟨diagnostic, -, -, hprocess⟩ := hone rfl
    exact ⟨_, _, hrefused, rfl, hprocess⟩
  · obtain ⟨-, htwo, -⟩ :=
      (program_exact Interpreter.documented _).2 _ _ _ _ (hread _ hname) (hhas _ hname) _ _
        (hbroken _ hname)
    exact ⟨_, _, hbroken _ hname, rfl, htwo rfl⟩

end FileSystem

end BindingGlue.CommandLine
