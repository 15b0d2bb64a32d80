import NameTag.Proofs.Batch.Weed
import NameTag.Proofs.Command.Preparation
import NameTag.Proofs.Settings
import NameTag.Proofs.Weed.Faults

/-!
# Runs with any weed

A run that is given a weed by an option or the environment, and cannot compile it, ends in a misuse.
The exception is a weed with a number that is too large: nothing turns the overflow into a refusal.
-/

namespace NameTag.Command

open Act

variable {s : Surroundings} {i : Invocation} {g : Given} {texts : List Text} {c c₁ : Console}
  {w : Text} {e : Failure} {f : Fault}

/-! ## Ends of a compilation and a run -/

/-- Compiling a text ends in no fault but a refusal or an overflow. -/
theorem refusal_or_overflow (he : Weed.compile (.text w) = .error e) (hf : e.EndsIn f) :
    (∃ why, f = .badValue why) ∨ f = .overflow ∧ Weed.compile (.text w) = .error (.fault .overflow) := by
  rcases hf with hwhy | rfl
  · exact .inl hwhy
  · cases Weed.culprit_of_compile he with
    | repetitions => exact .inr ⟨rfl, he⟩
    | codePoint => exact .inr ⟨rfl, he⟩
    | longNumber => exact .inl ⟨_, rfl⟩
    | classFlags => exact .inl ⟨_, rfl⟩

/-- The run ends in a misuse, or the weed overflows and this ends the run. -/
def Refused (w : Text) (r : EStateM.Result Fault Console Exit) : Prop :=
  (∃ c, r = .ok .misuse c) ∨
    Weed.compile (.text w) = .error (.fault .overflow) ∧ ∃ c, r = .error .overflow c

theorem Refused.misuse {r : EStateM.Result Fault Console Exit} {problem : Problem}
    (h : Refused w r) (hw : Weed.compile (.text w) = .error (.problem problem)) :
    ∃ c, r = .ok .misuse c := by
  rcases h with h | ⟨hover, -⟩
  · exact h
  · rw [hw] at hover
    cases hover

theorem problem_of_compile {v : Value} (h : (match Weed.compile v with
    | .error (.problem _) => true
    | _ => false) = true) : ∃ problem, Weed.compile v = .error (.problem problem) := by
  split at h
  · next problem he => exact ⟨problem, he⟩
  · cases h

/-- The fault is an overflow. -/
def isOverflow : Fault → Bool
  | .overflow => true
  | _ => false

theorem compile_of_overflow {v : Value} (h : (match Weed.compile v with
    | .error (.fault f) => isOverflow f
    | _ => false) = true) : Weed.compile v = .error (.fault .overflow) := by
  split at h
  · next f he =>
    cases f <;> first | exact he | cases h
  · cases h

theorem exists_of_overflow {r : EStateM.Result Fault Console Exit} (h : (match r with
    | .error f _ => isOverflow f
    | .ok .. => false) = true) : ∃ c, r = .error .overflow c := by
  split at h
  · next f c =>
    cases f <;> first | exact ⟨c, rfl⟩ | cases h
  · cases h

/-! ## The environment -/

theorem loadSettings_of_load {env : Settings.Environment} {settings : Settings}
    (h : Settings.load env c.session.settings = .error f settings) :
    loadSettings env c = .error f { c with session := { c.session with settings := settings } } := by
  rw [loadSettings, h]

theorem refused_of_environment (hread : read texts = .ok i)
    (hw : s.environment.get? "INFOTAG_WEED".toList = some w)
    (he : Weed.compile (.text w) = .error e) (c : Console) : Refused w (run s texts c) := by
  obtain ⟨f, settings, hload, hf⟩ := Settings.load_of_weed hw he c.session.settings
  have hload := loadSettings_of_load hload
  rw [run_of_read hread, perform]
  rcases refusal_or_overflow he hf with ⟨why, rfl⟩ | ⟨rfl, hover⟩
  · rw [andThen_of_badValue hload]
    exact .inl ⟨_, complain_run why _⟩
  · rw [andThen_of_overflow hload]
    exact .inr ⟨hover, _, rfl⟩

/-! ## The option -/

theorem flaws_of_problem {p : Problem} (hg : g.weed = some w)
    (he : Weed.compile (.text w) = .error (.problem p)) :
    ∃ flaw flaws, g.flaws = .ok (flaw :: flaws) := by
  have hflaws : ∃ before after, g.flaws = .ok (before ++ .weed p :: after) := by
    rw [Given.flaws, hg]
    simp only [Option.map_some, he, List.append_assoc]
    exact ⟨_, _, rfl⟩
  obtain ⟨before, after, hflaws⟩ := hflaws
  rw [hflaws]
  cases before with
  | nil => exact ⟨_, _, rfl⟩
  | cons flaw before => exact ⟨_, _, rfl⟩

theorem flaws_of_fault (hg : g.weed = some w) (he : Weed.compile (.text w) = .error (.fault f)) :
    g.flaws = .error f := by
  rw [Given.flaws, hg]
  simp only [Option.map_some, he]
  rfl

theorem checkOptions_of_weed (hg : g.weed = some w) (he : Weed.compile (.text w) = .error e)
    (c : Console) :
    ∃ f, checkOptions g c = .error f c ∧ e.EndsIn f ∧ ∀ fault, e = .fault fault → f = fault := by
  rw [checkOptions_run]
  cases e with
  | problem p =>
    obtain ⟨flaw, flaws, hflaws⟩ := flaws_of_problem hg he
    rw [hflaws]
    exact ⟨_, rfl, .inl ⟨_, rfl⟩, fun fault h => by cases h⟩
  | fault f =>
    rw [flaws_of_fault hg he]
    exact ⟨f, rfl, .inr rfl, fun fault h => by cases h; rfl⟩

theorem exists_refuseOptions (origin : Text) (why : BadValue) (c : Console) :
    ∃ c', refuseOptions origin why c = .ok .misuse c' := by
  obtain ⟨c₁, hrecord, -⟩ := passes_record .error origin
    ("Argument validation failed: ".toList ++ why.message) c
  exact ⟨_, by rw [refuseOptions, bind_of_ok hrecord, complain_run]⟩

/-- Once the settings are loaded and the log is open, the weed of the option is the first value that is
compiled. -/
theorem refused_of_option (hread : read texts = .ok i) (hg : i.given.weed = some w)
    (he : Weed.compile (.text w) = .error e)
    (hopen : (do loadSettings s.environment; openLog s i : Act Unit) c = .ok () c₁) :
    Refused w (run s texts c) ∧
      (Weed.compile (.text w) = .error (.fault .overflow) →
        ∃ c', run s texts c = .error .overflow c') := by
  obtain ⟨_, c₀, hload, hlog⟩ := bind_eq_ok_iff.1 hopen
  obtain ⟨f, hcheck, hf, hfault⟩ := checkOptions_of_weed hg he c₁
  rw [run_of_read hread, perform, andThen_of_ok hload, bind_of_ok hlog]
  rcases refusal_or_overflow he hf with ⟨why, rfl⟩ | ⟨rfl, hover⟩
  · rw [andThen_of_badValue hcheck]
    refine ⟨.inl (exists_refuseOptions s.origin why c₁), fun hover => ?_⟩
    rw [he] at hover
    cases hfault _ (Except.error.inj hover)
  · rw [andThen_of_overflow hcheck]
    exact ⟨.inr ⟨hover, _, rfl⟩, fun _ => ⟨_, rfl⟩⟩

/-! ## Outcomes -/

/-- A text that is given for a weed compiles, gives a problem of the configuration, or ends in a fault
that something in the text accounts for. Such a fault ends a batch in which a name can be read; any other
batch gives a result for every name. A run whose weed does not compile ends in a misuse, or in an
overflow if compiling the weed does. -/
theorem outcomes_of_weed (w : Text) :
    (∀ e, Weed.compile (.text w) = .error e →
      (∃ problem, e = .problem problem ∧ problem.kind = .configuration) ∨
        ∃ f, e = .fault f ∧ Weed.Culprit w f) ∧
    (∀ (o : ParseOptions) p (names : List Text) marker (session : Session) least workers maxWorkers
        useParallel,
      o.Proper p w → session.settings.marker = .ofMarker marker →
      session.settings.Dispatches least workers →
      (maxWorkers = .null ∨ ∃ n : Nat, maxWorkers = .int n) →
      let result := ((Session.parseBatch o (.list (names.map .text)) maxWorkers useParallel).run
        session).1
      (∀ f, o.Escapes p names f → result = .error f) ∧
        ((∀ f, ¬ o.Escapes p names f) → ∃ summary, result = .ok summary ∧
          summary.results.map ParsedItem.name = names.map .text)) ∧
    ∀ (s : Surroundings) texts i c e, read texts = .ok i → Weed.compile (.text w) = .error e →
      (s.environment.get? "INFOTAG_WEED".toList = some w → Refused w (run s texts c)) ∧
      ∀ c₁, i.given.weed = some w → (do loadSettings s.environment; openLog s i : Act Unit) c = .ok () c₁ →
        Refused w (run s texts c) ∧
          (Weed.compile (.text w) = .error (.fault .overflow) →
            ∃ c', run s texts c = .error .overflow c') := by
  refine ⟨fun e he => ?_, ?_, ?_⟩
  · cases e with
    | problem problem =>
      refine .inl ⟨problem, rfl, ?_⟩
      unfold Weed.compile at he
      simp only at he
      split at he <;> cases he
      rfl
    | fault f => exact .inr ⟨f, rfl, Weed.culprit_of_compile he⟩
  · intro o p names marker session least workers maxWorkers useParallel ho hs hd hm
    exact Session.parseBatch_of_proper ho hs hd hm useParallel
  · intro s texts i c e hread he
    refine ⟨fun hw => refused_of_environment hread hw he c, fun c₁ hg hopen => ?_⟩
    exact refused_of_option hread hg he hopen

/-- An expression that opens a set and does not close it. -/
theorem outcomes_of_weed_open_set :
    let w := "[a".toList
    let parse := ["parse".toList, "((TITLE))".toList, "song".toList]
    let o : ParseOptions := { pattern := .text "((TITLE))".toList, weed := .text w }
    ∃ problem summary c₁ c₂, Weed.compile (.text w) = .error (.problem problem) ∧
      problem.kind = .configuration ∧
      ((Session.parseBatch o (.list [.text "song".toList]) .null (.flag true)).run {}).1 =
        .ok summary ∧
      summary.results.map ParsedItem.name = [.text "song".toList] ∧
      run {} (parse ++ ["--weed".toList, w]) { session := {} } = .ok .misuse c₁ ∧
      run { environment := [("INFOTAG_WEED".toList, w)] } parse { session := {} } =
        .ok .misuse c₂ := by
  intro w parse o
  obtain ⟨hcompile, hbatch, hrun⟩ := outcomes_of_weed w
  have hflawed : ∃ problem, Weed.compile (.text w) = .error (.problem problem) :=
    problem_of_compile (by decide +kernel)
  obtain ⟨problem, hproblem⟩ := hflawed
  have hkind : problem.kind = .configuration := by
    rcases hcompile _ hproblem with ⟨p, hp, hkind⟩ | ⟨f, hf, -⟩
    · cases hp
      exact hkind
    · cases hf
  have hnone : ∀ f, ¬ o.Escapes "((TITLE))".toList ["song".toList] f := by
    intro f hf
    cases hproblem.symm.trans hf.weed
  obtain ⟨summary, hsummary, hnames⟩ := (hbatch o "((TITLE))".toList ["song".toList] none {} 50 8
    .null (.flag true) ⟨rfl, .inl rfl, .inr rfl, rfl⟩ rfl ⟨rfl, rfl, by decide⟩ (.inl rfl)).2 hnone
  let i : Invocation :=
    ⟨false, .parse, { pattern := some "((TITLE))".toList, names := ["song".toList], weed := some w }⟩
  have hoption : read (parse ++ ["--weed".toList, w]) = .ok i := by decide +kernel
  have hparse : read parse = .ok ⟨false, .parse,
      { pattern := some "((TITLE))".toList, names := ["song".toList] }⟩ := by
    decide +kernel
  have hopen : (result? ((do
      loadSettings []
      openLog {} i : Act Unit) { session := {} })).isSome = true := by
    decide +kernel
  obtain ⟨_, c, hopen⟩ := exists_of_isSome hopen
  have hgiven := (hrun {} _ _ { session := {} } _ hoption hproblem).2 c rfl hopen
  obtain ⟨c₁, hc₁⟩ := hgiven.1.misuse hproblem
  have hset := (hrun { environment := [("INFOTAG_WEED".toList, w)] } _ _ { session := {} } _ hparse
    hproblem).1 rfl
  obtain ⟨c₂, hc₂⟩ := hset.misuse hproblem
  exact ⟨problem, summary, c₁, c₂, hproblem, hkind, hsummary, hnames, hc₁, hc₂⟩

/-- A number of repetitions that is too large ends a batch and a run in an overflow. -/
theorem weed_overflow :
    let w := "a{4294967296}".toList
    let parse := ["parse".toList, "((TITLE))".toList, "song".toList]
    let o : ParseOptions := { pattern := .text "((TITLE))".toList, weed := .text w }
    Weed.compile (.text w) = .error (.fault .overflow) ∧
      ((Session.parseBatch o (.list [.text "song".toList]) .null (.flag true)).run {}).1 =
        .error .overflow ∧
      (∃ c', run {} (parse ++ ["--weed".toList, w]) { session := {} } = .error .overflow c') ∧
      ∃ c', run { environment := [("INFOTAG_WEED".toList, w)] } parse { session := {} } =
        .error .overflow c' := by
  intro w parse o
  have hcompile : Weed.compile (.text w) = .error (.fault .overflow) :=
    compile_of_overflow (by decide +kernel)
  have hproper : o.Proper "((TITLE))".toList w := ⟨rfl, .inl rfl, .inr rfl, rfl⟩
  have hescapes : o.Escapes "((TITLE))".toList ["song".toList] .overflow :=
    ⟨hcompile, _, List.mem_singleton.2 rfl, by decide, by decide +kernel⟩
  have hmarker : ({} : Session).settings.marker = .ofMarker none := rfl
  have hbatch := (Session.parseBatch_of_proper hproper hmarker ⟨rfl, rfl, by decide⟩ (.inl rfl)
    (.flag true)).1 .overflow hescapes
  exact ⟨hcompile, hbatch, exists_of_overflow (by decide +kernel),
    exists_of_overflow (by decide +kernel)⟩

end NameTag.Command
