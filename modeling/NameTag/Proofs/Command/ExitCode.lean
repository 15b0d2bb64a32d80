import NameTag.Proofs.Command.Options

/-!
# The exit code of `parse`

The exit code of a run of `parse` depends on the options, the settings and the names to parse in a
fixed order (`Given.parseCode`): options that are refused, the lack of names, assignments that are
refused, and last whether every name parses on its own. What is decided first leaves nothing to the
batch that the configuration could be blamed for, and how the batch is dispatched or reported does
not matter (`exit_of_parse`).
-/

namespace NameTag.Command

open Act Session

variable {g g' : Given} {c c₁ c' : Console} {settings : Settings}

/-! ## The code -/

/-- Whether the name parses on its own, into the tag of the assignments. -/
def Given.parses (g : Given) (settings : Settings) (name : Text) : Bool :=
  g.pattern.any fun pattern =>
    match ((buildTag (.list (g.assignments.map .text))).run { settings := settings }).1 with
    | .ok base => (g.parseOptions settings pattern base).passes settings name
    | .error _ => false

/-- The exit code of a run that parses the names under the settings. -/
def Given.parseCode (g : Given) (settings : Settings) (names : List Text) : Nat :=
  if g.flawed then 2
  else if names = [] then 3
  else if g.assignments.any isBadAssignment then 2
  else if names.all (g.parses settings) then 0
  else 1

/-! ## Parsing -/

/-- Once the base is built, the run ends with the report of the batch. -/
theorem exists_parseNames (origin : Text) {pattern : Text} {names : List Text} {base : Tag}
    {parallel : Bool} {summary : Summary ParsedItem} {session : Session}
    (hbase : buildBase g.assignments c = .ok base c₁)
    (hsettings : c₁.session.settings = c.session.settings)
    (hd : runsParallel c.session.settings names.length (orSetting .int g.threads .null)
      (.flag true) = .ok parallel)
    (hbatch : (g.batch c.session.settings pattern base names).run c₁.session =
      (.ok summary, session)) :
    ∃ c', parseNames origin g pattern names c =
      .ok (if summary.failed = 0 then .success else .failure) c' := by
  obtain ⟨c₂, hdebug, hs₂⟩ := passes_record .debug origin
    ("Pattern fields: ".toList ++ Text.listing ((Pattern.fields pattern).map Field.name)) c₁
  have hs : c₂.session.settings = c.session.settings := by rw [hs₂, hsettings]
  obtain ⟨c₃, hdispatch, hs₃⟩ := exists_recordDispatch (hs.symm ▸ hd)
  have htask : ofTask (g.batch c.session.settings pattern base names) c₃ =
      .ok summary { c₃ with session := session } :=
    ofTask_of_run (by rw [hs₃, hs₂, hbatch])
  obtain ⟨c₄, hitems, -⟩ := Passes.forM passes_recordItem summary.results
    { c₃ with session := session }
  rw [Given.batch, Given.parseOptions] at htask
  rw [parseNames, bind_of_ok hbase, Act.debug, bind_of_ok hdebug, bind_of_ok (get_run _)]
  simp only [hs]
  rw [bind_of_ok hdispatch, bind_of_ok htask, bind_of_ok hitems]
  split
  · exact ⟨_, rfl⟩
  · exact ⟨_, rfl⟩

/-- Names are parsed into a tag of good assignments; a bad one is refused. -/
theorem parseNames_code {pattern : Text} (origin : Text) (names : List Text)
    (hg : g.flawed = false) (hset : c.session.settings.Checked)
    (hpattern : g.pattern = some pattern) :
    (g.assignments.any isBadAssignment = true ∧
      ∃ why c', parseNames origin g pattern names c = .error (.badValue why) c') ∨
    g.assignments.any isBadAssignment = false ∧
      ∃ e c', parseNames origin g pattern names c = .ok e c' ∧
        e.code = if names.all (g.parses c.session.settings) then 0 else 1 := by
  obtain ⟨marker, hmarker⟩ := hset.marker
  rcases buildTag_cases g.assignments hmarker with
    ⟨hgood, base, session, hbuild⟩ | ⟨hbad, why, session, hbuild⟩
  · obtain ⟨htexts, hsame⟩ := buildTag_eq hmarker hbuild
    have hbase := buildBase_of_run hbuild
    obtain ⟨reports, -, hnoted⟩ := buildBase_eq_ok hbase
    have hsettings : session.settings = c.session.settings := by
      have hsession : session = c.session.noteAll reports := congrArg Console.session hnoted
      rw [hsession, noteAll_eq]
    have hready := g.ready_parseOptions hg hset htexts pattern
    obtain ⟨parallel, hd⟩ := exists_dispatch hg hset names.length
    obtain ⟨summary, hsummary, -, hfailed⟩ := parseBatch_of_ready hready (s := session)
      (by rw [hsettings, hmarker]) (by rw [hsettings, hd])
    have hparses : ∀ name, g.parses c.session.settings name =
        (g.parseOptions c.session.settings pattern base).passes session.settings name := by
      intro name
      rw [Given.parses, hpattern, Option.any_some, hsame { settings := c.session.settings } hmarker,
        hsettings]
    obtain ⟨c', hrun⟩ := exists_parseNames origin hbase hsettings hd
      (Prod.ext hsummary rfl)
    refine .inr ⟨hgood, _, c', hrun, ?_⟩
    simp only [List.all_eq_true, hparses, ← hfailed]
    split <;> rfl
  · obtain ⟨c', hbase⟩ := buildBase_of_badValue hbuild
    refine .inl ⟨hbad, why, c', ?_⟩
    rw [parseNames, bind_run, hbase]

/-- No item of a run under checked settings is refused for the configuration. -/
theorem ParseRun.unconfigured {s : Surroundings} {reports : List (Report Text)}
    {summary : Summary ParsedItem} (h : ParseRun s g c c' reports summary)
    (hg : g.flawed = false) (hset : c.session.settings.Checked) :
    ∀ item ∈ summary.results, ∀ problem ∈ item.report.problem?, problem.kind ≠ .configuration := by
  obtain ⟨pattern, names, base, -, -, hbuilds, hbatch⟩ := h.parsed
  obtain ⟨marker, hmarker⟩ := hset.marker
  have hbuild := (run_of_buildBase hbuilds.run).1
  have hready := g.ready_parseOptions hg hset (buildTag_eq hmarker hbuild).1 pattern
  have hsettings : (c.session.noteAll reports).settings = c.session.settings := by rw [noteAll_eq]
  obtain ⟨parallel, hd⟩ := exists_dispatch hg hset names.length
  obtain ⟨summary', hsummary, hkind, -⟩ := parseBatch_of_ready hready
    (s := c.session.noteAll reports) (by rw [hsettings, hmarker]) (by rw [hsettings, hd])
  have hsame : summary' = summary :=
    Except.ok.inj (hsummary.symm.trans (congrArg Prod.fst hbatch))
  rw [← hsame]
  exact hkind

/-! ## Runs -/

variable {s s₂ : Surroundings} {texts texts₂ : List Text} {i i₂ : Invocation}
  {names names₂ : List Text}

/-- A run of `parse`: the words are read as its command line, the environment leaves settings that
name no file for the log, and the names are there to be parsed. -/
structure ParseStart (s : Surroundings) (texts : List Text) (c : Console) (i : Invocation)
    (settings : Settings) (names : List Text) : Prop where
  read : Command.read texts = .ok i
  verb : i.verb = .parse
  load : Settings.load s.environment c.session.settings = .ok () settings
  noFile : settings.logFile.isTrue = false
  names : i.given.namesToParse s = some names

theorem logFile?_of_not_isTrue {v : Value} (h : v.isTrue = false) : s.logFile? v = .ok none := by
  cases v with
  | text t =>
    have ht : t.isEmpty = true := by simpa [Value.isTrue] using h
    exact if_pos ht
  | null => rfl
  | _ =>
    rw [Surroundings.logFile?, h, if_neg Bool.false_ne_true]
    simp

/-- Before the options are checked a run only takes its settings and opens the log. -/
theorem ParseStart.run_eq (h : ParseStart s texts c i settings names) :
    ∃ c₀ : Console, c₀.session.settings = settings ∧
      (checkOptions i.given c₀ = .ok () c₀ → prepare s i c = .ok () c₀) ∧
      run s texts c = (checkOptions i.given).andThen (refuseOptions s.origin)
        ((runCommand s i).orElse complain) c₀ := by
  have hload : loadSettings s.environment c =
      .ok () { c with session := { c.session with settings := settings } } := by
    rw [loadSettings, h.load]
  have hlog := openLog_run s i { c with session := { c.session with settings := settings } }
  simp only [logFile?_of_not_isTrue h.noFile] at hlog
  refine ⟨{ c with
    session := { c.session with settings := settings }
    log := some (i.log settings none) }, rfl, fun hcheck => ?_, ?_⟩
  · rw [prepare, bind_of_ok hload, bind_of_ok hlog]
    exact hcheck
  · rw [run_of_read h.read, perform, andThen_of_ok hload, bind_of_ok hlog]

/-- A run without a flaw in its options ends as its command does, in a misuse where a value is
refused. -/
theorem ParseStart.run_of_not_flawed (h : ParseStart s texts c i settings names)
    (hg : i.given.flawed = false) :
    ∃ c₀ : Console, c₀.session.settings = settings ∧ prepare s i c = .ok () c₀ ∧
      run s texts c = (runCommand s i).orElse complain c₀ := by
  obtain ⟨c₀, hsettings, hprepare, hrun⟩ := h.run_eq
  have hcheck := checkOptions_of_not_flawed hg c₀
  exact ⟨c₀, hsettings, hprepare hcheck, by rw [hrun, andThen_of_ok hcheck]⟩

theorem ParseStart.run_of_flawed (h : ParseStart s texts c i settings names)
    (hg : i.given.flawed = true) :
    (∃ c', run s texts c = .ok .misuse c') ∨
      (∃ w ∈ i.given.weed, Weed.compile (.text w) = .error (.fault .overflow)) ∧
        ∃ c', run s texts c = .error .overflow c' := by
  obtain ⟨c₀, -, -, hrun⟩ := h.run_eq
  rcases checkOptions_of_flawed hg c₀ with ⟨why, hcheck⟩ | ⟨hover, hcheck⟩
  · rw [hrun, andThen_of_badValue hcheck]
    exact .inl (exists_refuseOptions s.origin why c₀)
  · rw [hrun, andThen_of_overflow hcheck]
    exact .inr ⟨hover, _, rfl⟩

/-- The command, with its names and pattern. -/
theorem ParseStart.runCommand_eq (h : ParseStart s texts c i settings names) :
    ∃ pattern, i.given.pattern = some pattern ∧ runCommand s i = match names with
      | [] => do
        writeLine .errors "No names given.".toList
        pure .noInput
      | names => parseNames s.origin i.given pattern names := by
  obtain ⟨pattern, hpattern⟩ := exists_pattern h.read (by rw [h.verb]; decide)
  refine ⟨pattern, hpattern, ?_⟩
  rw [runCommand, h.verb, hpattern]
  simp only
  rw [runParse, ← Given.namesToParse, h.names]
  cases names <;> rfl

/-- Without a flaw in its options the run ends with the exit code. -/
theorem ParseStart.exists_exit_of_not_flawed (h : ParseStart s texts c i settings names)
    (hg : i.given.flawed = false) :
    ∃ e c', run s texts c = .ok e c' ∧ e.code = i.given.parseCode settings names := by
  have hset := Settings.checked_of_load h.load
  obtain ⟨c₀, rfl, -, hrun⟩ := h.run_of_not_flawed hg
  obtain ⟨pattern, hpattern, hcommand⟩ := h.runCommand_eq
  rw [Given.parseCode, if_neg (Bool.eq_false_iff.1 hg), hrun, hcommand]
  cases names with
  | nil => exact ⟨.noInput, _, rfl, rfl⟩
  | cons name names =>
    rw [if_neg (List.cons_ne_nil _ _)]
    rcases parseNames_code s.origin (name :: names) hg hset hpattern with
      ⟨hbad, why, c', hparse⟩ | ⟨hgood, e, c', hparse, hcode⟩
    · rw [if_pos hbad, orElse_of_badValue hparse]
      exact ⟨.misuse, _, complain_run why c', rfl⟩
    · rw [if_neg (Bool.eq_false_iff.1 hgood)]
      exact ⟨e, c', orElse_of_ok hparse, hcode⟩

theorem Given.parseCode_of_flawed (h : g.flawed = true) (settings : Settings) (names : List Text) :
    g.parseCode settings names = Exit.misuse.code := by
  rw [Given.parseCode, if_pos h]
  rfl

/-- The run ends with the exit code, unless compiling the weed overflows. -/
theorem ParseStart.exists_exit (h : ParseStart s texts c i settings names) :
    ((∃ w ∈ i.given.weed, Weed.compile (.text w) = .error (.fault .overflow)) ∧
        ∃ c', run s texts c = .error .overflow c') ∨
      ∃ e c', run s texts c = .ok e c' ∧ e.code = i.given.parseCode settings names := by
  cases hg : i.given.flawed with
  | true =>
    rcases h.run_of_flawed hg with ⟨c', hrun⟩ | hover
    · exact .inr ⟨_, c', hrun, (Given.parseCode_of_flawed hg settings names).symm⟩
    · exact .inl hover
  | false => exact .inr (h.exists_exit_of_not_flawed hg)

/-- A run that comes to parse its names reports on them, and on none for the configuration. -/
theorem ParseStart.exists_parseRun {e : Exit} (h : ParseStart s texts c i settings names)
    (hg : i.given.flawed = false) (hrun : run s texts c = .ok e c')
    (he : e = .success ∨ e = .failure) :
    ∃ c₀ reports summary, prepare s i c = .ok () c₀ ∧ ParseRun s i.given c₀ c' reports summary ∧
      ∀ item ∈ summary.results, ∀ problem ∈ item.report.problem?,
        problem.kind ≠ .configuration := by
  have hset := Settings.checked_of_load h.load
  have hmisuse : e ≠ .misuse := by
    rintro rfl
    rcases he with he | he <;> cases he
  obtain ⟨c₀, rfl, hprepare, -⟩ := h.run_of_not_flawed hg
  obtain ⟨c₁, hprepare₁, hcommand⟩ := runCommand_of_run h.read hrun hmisuse
  obtain rfl : c₀ = c₁ := by
    rw [hprepare] at hprepare₁
    cases hprepare₁
    rfl
  obtain ⟨pattern, hpattern, hcommand_eq⟩ := h.runCommand_eq
  rw [hcommand_eq] at hcommand
  have hparse : parseNames s.origin i.given pattern names c₀ = .ok e c' := by
    cases names with
    | nil =>
      cases hcommand
      rcases he with he | he <;> cases he
    | cons name names => exact hcommand
  obtain ⟨reports, summary, hparseRun⟩ := parseRun_of_parseNames hpattern h.names hparse
  exact ⟨c₀, reports, summary, hprepare, hparseRun, hparseRun.unconfigured hg hset⟩

/-! ## Runs with the same task -/

theorem Exit.code_injective {e e' : Exit} (h : e.code = e'.code) : e = e' := by
  cases e <;> cases e' <;> first | rfl | cases h

/-- The same pattern, weed and assignments for names that are read in the same way. -/
structure Given.SameTask (g g' : Given) : Prop where
  pattern : g.pattern = g'.pattern
  weed : g.weed = g'.weed
  assignments : g.assignments = g'.assignments
  stripExtension : g.stripExtension = g'.stripExtension

theorem Given.SameTask.parses_eq (h : g.SameTask g') (settings : Settings) (name : Text) :
    g.parses settings name = g'.parses settings name := by
  have hpasses : ∀ pattern base, (g.parseOptions settings pattern base).passes settings name =
      (g'.parseOptions settings pattern base).passes settings name := by
    intro pattern base
    simp only [ParseOptions.passes, Given.parseOptions, h.weed, h.stripExtension]
  simp only [Given.parses, h.pattern, h.assignments, hpasses]

/-- Without a flaw, the code depends on the task and on the names in any order. -/
theorem Given.SameTask.parseCode_eq (h : g.SameTask g') (hg : g.flawed = false)
    (hg' : g'.flawed = false) (hp : names.Perm names₂) :
    g.parseCode settings names = g'.parseCode settings names₂ := by
  have hnil : names = [] ↔ names₂ = [] := by
    rw [← List.length_eq_zero_iff, hp.length_eq, List.length_eq_zero_iff]
  have hall : names.all (g.parses settings) = names₂.all (g'.parses settings) := by
    rw [funext (h.parses_eq settings)]
    exact hp.all_eq
  simp only [Given.parseCode, hg, hg', hnil, hall, h.assignments]

/-- A run of `parse` that exits does so with the code of its options, settings and names; only a weed
that overflows when it is compiled keeps it from exiting. If it comes to parse the names, no item is
refused for the configuration, and the code is the same for the names in any other order and for any
other case mode, number of threads, form of the report and log, if these options have no flaw. -/
theorem exit_of_parse (h : ParseStart s texts c i settings names) :
    ((∃ w ∈ i.given.weed, Weed.compile (.text w) = .error (.fault .overflow)) ∧
        ∃ c', run s texts c = .error .overflow c') ∨
      ∃ e c', run s texts c = .ok e c' ∧ e.code = i.given.parseCode settings names ∧
        (e = .success ∨ e = .failure →
          (∃ c₀ reports summary, prepare s i c = .ok () c₀ ∧
            ParseRun s i.given c₀ c' reports summary ∧ ∀ item ∈ summary.results,
              ∀ problem ∈ item.report.problem?, problem.kind ≠ .configuration) ∧
          ∀ s₂ texts₂ c₂ i₂ names₂, ParseStart s₂ texts₂ c₂ i₂ settings names₂ →
            i₂.given.flawed = false → i.given.SameTask i₂.given → names.Perm names₂ →
            ∃ c₂', run s₂ texts₂ c₂ = .ok e c₂') := by
  rcases h.exists_exit with hover | ⟨e, c', hrun, hcode⟩
  · exact .inl hover
  refine .inr ⟨e, c', hrun, hcode, fun he => ?_⟩
  have hg : i.given.flawed = false := by
    rw [← Bool.not_eq_true]
    intro hflawed
    have hmisuse := Exit.code_injective
      (hcode.trans (Given.parseCode_of_flawed hflawed settings names))
    rw [hmisuse] at he
    rcases he with he | he <;> cases he
  refine ⟨h.exists_parseRun hg hrun he, fun s₂ texts₂ c₂ i₂ names₂ h₂ hg₂ htask hp => ?_⟩
  obtain ⟨e₂, c₂', hrun₂, hcode₂⟩ := h₂.exists_exit_of_not_flawed hg₂
  have hsame : e₂.code = e.code := by
    rw [hcode, hcode₂, htask.parseCode_eq hg hg₂ hp]
  obtain rfl := Exit.code_injective hsame
  exact ⟨c₂', hrun₂⟩

/-- A name with a separator and one without it, in both orders and with more options. -/
theorem exit_of_parse_two_names :
    let pattern := "((ARTIST)) - ((TITLE))".toList
    let names := ["Maiden - Aces High".toList, "Powerslave".toList]
    (∃ c', run {} ("parse".toList :: pattern :: names) { session := {} } = .ok .failure c') ∧
      ∃ c', run {} (["parse".toList, "--json".toList, "--case".toList, "1".toList,
        "--threads".toList, "2".toList, pattern] ++ names.reverse) { session := {} } =
          .ok .failure c' := by
  intro pattern names
  let plain : Given := { pattern := some pattern, names := names }
  let more : Given :=
    { plain with names := names.reverse, caseMode := some 1, threads := some 2, json := true }
  have hplain : ParseStart {} ("parse".toList :: pattern :: names) { session := {} }
      ⟨false, .parse, plain⟩ {} names := ⟨by decide +kernel, rfl, rfl, rfl, rfl⟩
  have hmore : ParseStart {} (["parse".toList, "--json".toList, "--case".toList, "1".toList,
      "--threads".toList, "2".toList, pattern] ++ names.reverse) { session := {} }
      ⟨false, .parse, more⟩ {} names.reverse := ⟨by decide +kernel, rfl, rfl, rfl, rfl⟩
  have hcode : plain.parseCode {} names = 1 := by decide +kernel
  rcases exit_of_parse hplain with ⟨⟨w, hw, -⟩, -⟩ | ⟨e, c', hrun, he, hrest⟩
  · cases hw
  · obtain rfl : e = .failure := Exit.code_injective (he.trans hcode)
    obtain ⟨c₂', hrun₂⟩ := (hrest (.inr rfl)).2 _ _ _ _ _ hmore (by decide +kernel)
      ⟨rfl, rfl, rfl, rfl⟩ names.reverse_perm.symm
    exact ⟨⟨c', hrun⟩, c₂', hrun₂⟩

end NameTag.Command
