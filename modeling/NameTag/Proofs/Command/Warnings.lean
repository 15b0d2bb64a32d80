import NameTag.Proofs.Batch.Independent
import NameTag.Proofs.Command.Preparation
import NameTag.Proofs.Command.Report

/-!
# Which warnings a run tells

The warnings of a run come from three places: the assignments, which store values with a report each
(`Assigned`), the parsed names and the rendering. `format` writes all that is pending before its result.
`parse` reports the warnings of the names only: those of its assignments stay pending when the run
ends, and nothing that it writes holds them (`warnings_told`).
-/

namespace NameTag.Command

open Act Session

variable {s : Surroundings} {g : Given} {c c₀ c₁ c' : Console} {e : Exit}

/-! ## Assignments -/

/-- The assignments store their values one after the other, each with a report, and none is refused. -/
inductive Assigned :
    Subject → List Value → Session → List (Report Text) → Subject → Session → Prop
  | nil (subject : Subject) (s : Session) : Assigned subject [] s [] subject s
  | cons {subject after last : Subject} {expr : Value} {rest : List Value} {s s₁ s₂ : Session}
      {f : Field} {value : Text} {report : Report Text} {reports : List (Report Text)}
      (hexpr : parseAssignment expr = .ok (f, value))
      (hset : setField subject (.text f.name) (.text value) s = ((.ok report, after), s₁))
      (hpassed : report.problem? = none) (hrest : Assigned after rest s₁ reports last s₂) :
      Assigned subject (expr :: rest) s (report :: reports) last s₂

variable {subject after last : Subject} {exprs : List Value} {reports : List (Report Text)}
  {session session' : Session}

theorem exists_assigned (h : (assignAll subject exprs).run session = (.ok last, session')) :
    ∃ reports, Assigned subject exprs session reports last session' := by
  induction exprs generalizing subject session with
  | nil =>
    cases h
    exact ⟨[], .nil _ _⟩
  | cons expr rest ih =>
    rw [assignAll_cons] at h
    rcases hexpr : parseAssignment expr with e | ⟨f, value⟩
    · simp only [hexpr] at h
      cases h
    · simp only [hexpr] at h
      rcases hset : setField subject (.text f.name) (.text value) session with
        ⟨⟨e | report, after⟩, s₁⟩
      · simp only [hset] at h
        cases h
      · simp only [hset] at h
        cases hp : report.problem? with
        | some p =>
          simp only [hp] at h
          cases h
        | none =>
          simp only [hp] at h
          obtain ⟨reports, hrest⟩ := ih h
          exact ⟨report :: reports, .cons hexpr hset hp hrest⟩

theorem Assigned.run (h : Assigned subject exprs session reports last session') :
    (assignAll subject exprs).run session = (.ok last, session') := by
  induction h with
  | nil subject s => rfl
  | cons hexpr hset hpassed _ ih =>
    rw [assignAll_cons, hexpr]
    simp only [hset, hpassed]
    exact ih

theorem setField_session {field value : Value} {report : Report Text}
    (h : setField subject field value session = ((.ok report, after), session')) :
    session' = session.note report := by
  have hresult : ((Edit.store session.settings.marker field value).run subject).1.report =
      .ok report := by
    rw [setField, perform_run] at h
    exact congrArg (·.1.1) h
  rw [setField, perform_run, hresult] at h
  exact (congrArg (·.2) h).symm

/-- Assignments record their reports in order. -/
theorem Assigned.session_eq (h : Assigned subject exprs session reports last session') :
    session' = session.noteAll reports := by
  induction h with
  | nil subject s => rfl
  | cons _ hset _ _ ih => rw [ih, setField_session hset, noteAll, noteAll, List.foldl_cons]

/-- The tag that a command starts from, and the reports of the values stored in it. -/
def BuildsBase (g : Given) (session : Session) (reports : List (Report Text)) (base : Tag) : Prop :=
  ∃ subject, base = subject.tag?.getD .empty ∧
    Assigned (.editable .empty) (g.assignments.map .text) session reports subject
      (session.noteAll reports)

theorem buildBase_of_run {assignments : List Text} {base : Tag}
    (h : (buildTag (.list (assignments.map .text))).run c.session = (.ok base, session)) :
    buildBase assignments c = .ok base { c with session := session } := by
  rw [buildBase, bind_of_ok (ofStep_run _ c), h]
  rfl

/-- The base is built if the tag is. -/
theorem run_of_buildBase {assignments : List Text} {base : Tag}
    (h : buildBase assignments c = .ok base c') :
    (buildTag (.list (assignments.map .text))).run c.session = (.ok base, c'.session) ∧
      c' = { c with session := c'.session } := by
  rw [buildBase, bind_of_ok (ofStep_run _ c)] at h
  rcases hrun : (buildTag (.list (assignments.map .text))).run c.session with ⟨f | tag, s⟩
  · rw [hrun] at h
    simp only at h
    split at h
    · obtain ⟨_, _, -, hthrow⟩ := bind_eq_ok_iff.1 h
      cases hthrow
    · cases h
  · rw [hrun] at h
    cases h
    exact ⟨rfl, rfl⟩

theorem buildBase_eq_ok {base : Tag} (h : buildBase g.assignments c = .ok base c') :
    ∃ reports, BuildsBase g c.session reports base ∧
      c' = { c with session := c.session.noteAll reports } := by
  obtain ⟨hrun, hc⟩ := run_of_buildBase h
  rw [buildTag_run, assignments?_list] at hrun
  rcases hassign : (assignAll (.editable .empty) (g.assignments.map .text)).run c.session with
    ⟨f | subject, s⟩
  · simp only [hassign] at hrun
    cases hrun
  · simp only [hassign] at hrun
    have hbase : subject.tag?.getD .empty = base := Except.ok.inj (congrArg (·.1) hrun)
    have hs : s = c'.session := congrArg (·.2) hrun
    obtain ⟨reports, hassigned⟩ := exists_assigned hassign
    obtain rfl := hassigned.session_eq
    refine ⟨reports, ⟨subject, hbase.symm, hassigned⟩, ?_⟩
    rw [hc, ← hs]

theorem BuildsBase.run {base : Tag} (h : BuildsBase g c.session reports base) :
    buildBase g.assignments c =
      .ok base { c with session := c.session.noteAll reports } := by
  obtain ⟨subject, rfl, hassigned⟩ := h
  refine buildBase_of_run ?_
  rw [buildTag_run, assignments?_list]
  simp only [hassigned.run]

/-! ## Parsing -/

/-- The names to parse: those given, or those on the input. -/
def Given.namesToParse (g : Given) (s : Surroundings) : Option (List Text) :=
  if g.names.isEmpty then s.input.map namesIn else some g.names

/-- How the names are parsed. -/
def Given.parseOptions (g : Given) (settings : Settings) (pattern : Text) (base : Tag) :
    ParseOptions where
  pattern := .text pattern
  mode := orSetting .int g.caseMode settings.defaultCase
  weed := orSetting .text g.weed settings.defaultWeed
  base := .editable ⟨base.entries.filter (·.2.isTrue)⟩
  stripExtension := .flag g.stripExtension

/-- The batch that a run of `parse` makes of its names. -/
def Given.batch (g : Given) (settings : Settings) (pattern : Text) (base : Tag)
    (names : List Text) : Session.Task (Summary ParsedItem) :=
  parseBatch (g.parseOptions settings pattern base) (.list (names.map .text))
    (orSetting .int g.threads .null) (.flag true)

/-- A run of `parse` from the console that the command finds to the one that it leaves. -/
structure ParseRun (s : Surroundings) (g : Given) (c c' : Console) (reports : List (Report Text))
    (summary : Summary ParsedItem) : Prop where
  parsed : ∃ pattern names base, g.pattern = some pattern ∧ g.namesToParse s = some names ∧
    BuildsBase g c.session reports base ∧
    (g.batch c.session.settings pattern base names).run (c.session.noteAll reports) =
      (.ok summary, c'.session)
  written : ∃ before, c.transcript.Logged before ∧
    c'.transcript = before ++ [.write .output (g.report summary)]

theorem parseRun_of_parseNames {origin pattern : Text} {names : List Text}
    (hpattern : g.pattern = some pattern) (hnames : g.namesToParse s = some names)
    (h : parseNames origin g pattern names c = .ok e c') :
    ∃ reports summary, ParseRun s g c c' reports summary := by
  obtain ⟨base, c₁, hbase, h⟩ := bind_eq_ok_iff.1 h
  obtain ⟨reports, hbuilds, hc₁⟩ := buildBase_eq_ok hbase
  obtain ⟨_, c₂, hdebug, h⟩ := bind_eq_ok_iff.1 h
  obtain ⟨hs₂, ht₂⟩ := logs_record _ _ _ hdebug
  rw [bind_of_ok (get_run _)] at h
  obtain ⟨_, c₃, hdispatch, h⟩ := bind_eq_ok_iff.1 h
  obtain ⟨hs₃, ht₃⟩ := logs_recordDispatch _ _ hdispatch
  obtain ⟨summary, c₄, htask, h⟩ := bind_eq_ok_iff.1 h
  obtain ⟨session, hrun, hc₄⟩ := ofTask_eq_ok htask
  obtain ⟨_, c₅, hitems, h⟩ := bind_eq_ok_iff.1 h
  obtain ⟨hs₅, ht₅⟩ := Logs.forM logs_recordItem _ hitems
  have hc' : c' = { c₅ with transcript :=
      c₅.transcript ++ [.write .output (g.report summary)] } := by
    unfold Given.report
    simp only at h
    split at h
    · next hj =>
      cases h
      rw [if_pos hj]
    · next hj =>
      cases h
      rw [if_neg hj]
  refine ⟨reports, summary, ⟨pattern, names, base, hpattern, hnames, hbuilds, ?_⟩,
    c₅.transcript, ?_, by rw [hc']⟩
  · have hsession : c'.session = session := by
      rw [hc', hs₅, hc₄]
    have hnoted : c₃.session = c.session.noteAll reports := by
      rw [hs₃, hs₂, hc₁]
    have hsettings : c₂.session.settings = c.session.settings := by
      rw [hs₂, hc₁, noteAll_eq]
    rw [hnoted, hsettings] at hrun
    rw [hsession]
    exact hrun
  · rw [hc₄] at ht₅
    rw [hc₁] at ht₂
    exact (ht₂.trans ht₃).trans ht₅

/-! ## Pending warnings -/

theorem pending_isPrefix_noted {α : Type} (s : Session) (result : Except Fault (Report α)) :
    s.pending <+: (s.noted result).pending := by
  cases result with
  | ok report => exact List.prefix_append _ _
  | error f => exact List.prefix_rfl

theorem pending_isPrefix_inSequence (o : ParseOptions) (names : List Value) (s : Session) :
    s.pending <+: ((inSequence (parseItem o) names).run s).2.pending := by
  induction names generalizing s with
  | nil => exact List.prefix_rfl
  | cons name names ih =>
    have hitem : s.pending <+: ((parseItem o name).run s).2.pending := by
      rw [parseItem_session]
      exact pending_isPrefix_noted s _
    rw [inSequence_cons]
    rcases hrun : (parseItem o name).run s with ⟨f | item, s₁⟩
    · rw [hrun] at hitem
      exact hitem
    · rw [hrun] at hitem
      have hrest := hitem.trans (ih s₁)
      simp only
      rcases hnames : (inSequence (parseItem o) names).run s₁ with ⟨f | items, s₂⟩
      · rw [hnames] at hrest
        exact hrest
      · rw [hnames] at hrest
        exact hrest

/-- A batch fetches no warning. -/
theorem pending_isPrefix_parseBatch (o : ParseOptions) (names : List Value)
    (maxWorkers useParallel : Value) (s : Session) :
    s.pending <+: ((parseBatch o (.list names) maxWorkers useParallel).run s).2.pending := by
  rw [parseBatch_run rfl, runItems_run]
  split
  · exact List.prefix_rfl
  · split
    · exact List.prefix_rfl
    · rw [inParallel_session]
    · exact pending_isPrefix_inSequence o names s

theorem ParseRun.pending_isPrefix {reports : List (Report Text)} {summary : Summary ParsedItem}
    (h : ParseRun s g c c' reports summary) :
    c.session.pending ++ reports.flatMap (·.warnings) <+: c'.session.pending := by
  obtain ⟨pattern, names, base, -, -, -, hrun⟩ := h.parsed
  have hbatch := pending_isPrefix_parseBatch (g.parseOptions c.session.settings pattern base)
    (names.map .text) (orSetting .int g.threads .null) (.flag true) (c.session.noteAll reports)
  rw [← Given.batch, hrun, noteAll_eq] at hbatch
  exact hbatch

/-! ## Rendering -/

/-- What `format` writes last: the name, or why there is none. -/
def lastWrite (report : Report Text) : Event :=
  match report.result with
  | .ok name => .write .output (name ++ ['\n'])
  | .error p => .write .errors ("Error: ".toList ++ p.message ++ ['\n'])

/-- A run of `format` from the console that the command finds to the one that it leaves. -/
structure FormatRun (g : Given) (c c' : Console) (reports : List (Report Text))
    (report : Report Text) : Prop where
  rendered : ∃ pattern base, g.pattern = some pattern ∧ BuildsBase g c.session reports base ∧
    (render (.editable base) (.text pattern)
      (orSetting .int g.caseMode c.session.settings.defaultCase) (c.session.noteAll reports)).1 =
        .ok report
  written : ∃ before, c.transcript.Logged before ∧
    c'.transcript = before ++ (c.session.pending ++ reports.flatMap (·.warnings) ++
      report.warnings).map (fun w => .write .errors (warningLine w)) ++ [lastWrite report]
  fetched : c'.session.pending = []

theorem exists_rendered (tag : Tag) (pattern mode : Value) (s : Session) :
    ∃ report, render (.editable tag) pattern mode s = (.ok report, s.note report) := by
  obtain ⟨report, hreport⟩ :=
    (Edit.faultless_render (fun _ => True) pattern mode).exists_report (t := tag) trivial
  exact ⟨report, by rw [render_run, hreport]; rfl⟩

/-- The end of `format`: all that is pending is written, then the result. -/
theorem finishFormat_run (report : Report Text) (c : Console) :
    (do
      let warnings ← ofStep flushWarnings
      writeLines .errors (warnings.map fun w => "WARNING: ".toList ++ w.message)
      match report.result with
      | .ok name =>
        writeLine .output name
        pure .success
      | .error p =>
        writeLine .errors ("Error: ".toList ++ p.message)
        pure .failure : Act Exit) c =
      .ok (if report.passed then .success else .failure)
        { c with
          session := { c.session with pending := [] }
          transcript := c.transcript ++ c.session.pending.map
            (fun w => .write .errors (warningLine w)) ++ [lastWrite report] } := by
  rw [bind_of_ok (ofStep_run flushWarnings c), bind_of_ok (writeLines_run _ _ _), List.map_map]
  obtain ⟨p | name, warnings⟩ := report
  · rfl
  · rfl

theorem exists_formatRun {pattern : Text} {base : Tag} (hpattern : g.pattern = some pattern)
    (hbase : BuildsBase g c.session reports base) :
    ∃ e c' report, runFormat g pattern c = .ok e c' ∧ (e = .success ∨ e = .failure) ∧
      FormatRun g c c' reports report := by
  obtain ⟨report, hrender⟩ := exists_rendered base (.text pattern)
    (orSetting .int g.caseMode c.session.settings.defaultCase) (c.session.noteAll reports)
  have hsettings : (c.session.noteAll reports).settings = c.session.settings := by
    rw [noteAll_eq]
  have hpending : ((c.session.noteAll reports).note report).pending =
      c.session.pending ++ reports.flatMap (·.warnings) ++ report.warnings := by
    rw [note, noteAll_eq]
  have htask : ofTask (ExceptT.mk (render (.editable base) (.text pattern)
      (orSetting .int g.caseMode c.session.settings.defaultCase)))
        { c with session := c.session.noteAll reports } =
      .ok report { c with session := (c.session.noteAll reports).note report } :=
    ofTask_of_run hrender
  rw [runFormat, bind_of_ok hbase.run, bind_of_ok (get_run _)]
  simp only [hsettings]
  rw [bind_of_ok htask]
  have hend : ∀ c₁ : Console, c₁.session = (c.session.noteAll reports).note report →
      c.transcript.Logged c₁.transcript →
      FormatRun g c { c₁ with
          session := { c₁.session with pending := [] }
          transcript := c₁.transcript ++ c₁.session.pending.map
            (fun w => .write .errors (warningLine w)) ++ [lastWrite report] } reports report := by
    intro c₁ hs₁ ht₁
    refine ⟨⟨pattern, base, hpattern, hbase, ?_⟩, ⟨c₁.transcript, ht₁, ?_⟩, rfl⟩
    · rw [hrender]
    · rw [hs₁, hpending]
  have hexit : (if report.passed then Exit.success else .failure) = .success ∨
      (if report.passed then Exit.success else .failure) = .failure := by
    cases report.passed
    · exact .inr rfl
    · exact .inl rfl
  cases hp : report.problem? with
  | none =>
    exact ⟨_, _, report, finishFormat_run report _, hexit,
      hend { c with session := (c.session.noteAll reports).note report } rfl (.refl _)⟩
  | some p =>
    obtain ⟨c₁, hrecord, hs₁⟩ := passes_recordProblem "substitute_fields" p
      { c with session := (c.session.noteAll reports).note report }
    have ht₁ := (logs_recordProblem _ _ hrecord).2
    simp only
    rw [bind_of_ok hrecord]
    exact ⟨_, _, report, finishFormat_run report _, hexit, hend c₁ hs₁ ht₁⟩

/-! ## Runs -/

/-- A run of `parse` that comes to its report writes records and the report, which holds the warnings
of every name; the warnings of the assignments are pending at its end. A run of `format` that comes to
rendering comes to an end, after it has written all that is pending: the warnings of the assignments
and of the rendering. Nothing is written before a command, and no warning goes away there. -/
theorem warnings_of_run {texts : List Text} {i : Invocation} (hread : read texts = .ok i)
    (s : Surroundings) (c : Console) :
    (i.verb = .parse → ∀ e c', run s texts c = .ok e c' → e = .success ∨ e = .failure →
      ∃ c₀ reports summary, prepare s i c = .ok () c₀ ∧ ParseRun s i.given c₀ c' reports summary ∧
        (∀ item ∈ summary.results,
          i.given.Tells (i.given.report summary) item.report.warnings) ∧
        c₀.session.pending ++ reports.flatMap (·.warnings) <+: c'.session.pending) ∧
    (i.verb = .format → ∀ c₀ reports base, prepare s i c = .ok () c₀ →
      BuildsBase i.given c₀.session reports base →
      ∃ e c' report, run s texts c = .ok e c' ∧ (e = .success ∨ e = .failure) ∧
        FormatRun i.given c₀ c' reports report) ∧
    ∀ c₀, prepare s i c = .ok () c₀ →
      c₀.transcript = c.transcript ∧ c₀.session.pending = c.session.pending := by
  refine ⟨fun hverb e c' hrun he => ?_, fun hverb c₀ reports base hprepare hbase => ?_,
    fun c₀ hprepare => prepare_keeps hprepare⟩
  · have hmisuse : e ≠ .misuse := by
      rintro rfl
      rcases he with he | he <;> cases he
    obtain ⟨c₀, hprepare, hcommand⟩ := runCommand_of_run hread hrun hmisuse
    obtain ⟨pattern, hpattern⟩ := exists_pattern hread (by rw [hverb]; decide)
    rw [runCommand, hverb, hpattern] at hcommand
    simp only at hcommand
    have hparse : ∃ reports summary, ParseRun s i.given c₀ c' reports summary := by
      unfold runParse at hcommand
      rw [← Given.namesToParse] at hcommand
      rcases hnames : i.given.namesToParse s with _ | _ | ⟨name, names⟩
      · rw [hnames] at hcommand
        cases hcommand
        rcases he with he | he <;> cases he
      · rw [hnames] at hcommand
        cases hcommand
        rcases he with he | he <;> cases he
      · rw [hnames] at hcommand
        exact parseRun_of_parseNames hpattern hnames hcommand
    obtain ⟨reports, summary, hparse⟩ := hparse
    exact ⟨c₀, reports, summary, hprepare, hparse, fun item hitem => i.given.tells_report hitem,
      hparse.pending_isPrefix⟩
  · obtain ⟨pattern, hpattern⟩ := exists_pattern hread (by rw [hverb]; decide)
    obtain ⟨e, c', report, hformat, he, hrun⟩ := exists_formatRun hpattern hbase
    refine ⟨e, c', report, ?_, he, hrun⟩
    have hcommand : runCommand s i c₀ = .ok e c' := by
      rw [runCommand, hverb, hpattern]
      exact hformat
    rw [run_of_read hread, perform_of_prepare hprepare, orElse_of_ok hcommand]

/-- A title that is cut, in a name and as an assignment. -/
theorem warnings_of_run_long :
    let long := List.replicate 31 'x'
    let parse := ["parse".toList, "((TITLE))".toList, long]
    let format := ["format".toList, "((TITLE))".toList, "--set".toList, "TITLE=".toList ++ long]
    let c : Console := { session := {} }
    (∃ i c₀ c₁ reports summary, read parse = .ok i ∧ run {} parse c = .ok .success c₁ ∧
      ParseRun {} i.given c₀ c₁ reports summary ∧
      ∀ item ∈ summary.results, i.given.Tells (i.given.report summary) item.report.warnings) ∧
    ∃ i c₀ c₁ reports report e, read format = .ok i ∧ run {} format c = .ok e c₁ ∧
      FormatRun i.given c₀ c₁ reports report := by
  intro long parse format c
  have hparse : read parse = .ok ⟨false, .parse,
      { pattern := some "((TITLE))".toList, names := [long] }⟩ := by decide +kernel
  have hformat : read format = .ok ⟨false, .format,
      { pattern := some "((TITLE))".toList, assignments := ["TITLE=".toList ++ long] }⟩ := by
    decide +kernel
  obtain ⟨hparses, -⟩ := warnings_of_run hparse {} c
  obtain ⟨-, hformats, -⟩ := warnings_of_run hformat {} c
  refine ⟨?_, ?_⟩
  · have hresult : result? (run {} parse c) = some .success := by decide +kernel
    obtain ⟨c₁, hrun⟩ := exists_of_result hresult
    obtain ⟨c₀, reports, summary, -, hparseRun, htells, -⟩ := hparses rfl _ _ hrun (.inl rfl)
    exact ⟨_, c₀, c₁, reports, summary, hparse, hrun, hparseRun, htells⟩
  · have hbuilt : (result? ((do
        prepare {} ⟨false, .format,
          { pattern := some "((TITLE))".toList, assignments := ["TITLE=".toList ++ long] }⟩
        buildBase ["TITLE=".toList ++ long]) c)).isSome = true := by
      decide +kernel
    obtain ⟨base, c₂, hboth⟩ := exists_of_isSome hbuilt
    obtain ⟨_, c₀, hprepare, hbase⟩ := bind_eq_ok_iff.1 hboth
    obtain ⟨reports, hbuilds, -⟩ :=
      buildBase_eq_ok (g := { assignments := ["TITLE=".toList ++ long] }) hbase
    obtain ⟨e, c₁, report, hrun, -, hformatRun⟩ := hformats rfl c₀ reports base hprepare hbuilds
    exact ⟨_, c₀, c₁, reports, report, e, hformat, hrun, hformatRun⟩

/-- A value that an assignment cuts: the run writes nothing of it, and the warning stays pending. -/
theorem parse_cut_assignment :
    let long := List.replicate 31 'x'
    let parse := ["parse".toList, "--set".toList, "ARTIST=".toList ++ long, "((TITLE))".toList,
      "song".toList]
    let warning := "set_field: value of ARTIST must be truncated to '".toList ++ long.tail
      ++ "'".toList
    ∃ c', run {} parse { session := {} } = .ok .success c' ∧
      c'.session.pending.map Warning.message = [warning] ∧
      c'.transcript = [.write .output ("\nName: song\n  Tag: TITLE: song / ARTIST: ".toList
        ++ long.tail ++ "\n  Fields written: 1\n\n--- SUMMARY ---\nTotal names processed: 1\n".toList
        ++ "Successful: 1\nFailed: 0\n".toList)] ∧
      ∀ e ∈ c'.transcript, ¬ warning <:+: e.text [] := by
  intro long parse warning
  have hended : (ended? (run {} parse { session := {} })).map (fun p =>
      (p.1, p.2.session.pending.map Warning.message, p.2.transcript)) =
        some (.success, [warning], [.write .output
          ("\nName: song\n  Tag: TITLE: song / ARTIST: ".toList ++ long.tail
            ++ "\n  Fields written: 1\n\n--- SUMMARY ---\nTotal names processed: 1\n".toList
            ++ "Successful: 1\nFailed: 0\n".toList)]) := by
    decide +kernel
  obtain ⟨⟨e, c'⟩, hrun, hends⟩ := Option.map_eq_some_iff.1 hended
  obtain ⟨rfl, hrest⟩ := Prod.mk.inj hends
  obtain ⟨hpending, hwritten⟩ := Prod.mk.inj hrest
  refine ⟨c', eq_ok_of_ended hrun, hpending, hwritten, ?_⟩
  rw [show c'.transcript = _ from hwritten]
  decide +kernel

end NameTag.Command
