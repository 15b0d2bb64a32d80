import NameTag.Proofs.Batch.Dispatch

/-!
# Diagnostics lose and duplicate nothing

A call of a session gives an event. `Recorded` says all that a call can do to the diagnostics of its
session: it records a report, hands out the pending warnings, or leaves them alone.
`Session.diagnostics_conserved` says what follows for calls in a row: the warnings that were fetched and
those still pending are the warnings of the reports, and the last problem is that of the last report
with one.
-/

namespace NameTag.Session

/-- What a call gives. -/
inductive Event
  | report (problem? : Option Problem) (warnings : List Warning)
  | fault (f : Fault)
  | flushed (warnings : List Warning)
  | message (t : Text)
  | configured

namespace Event

variable {α : Type}

def ofReport (r : Report α) : Event :=
  .report r.problem? r.warnings

def ofResult : Except Fault (Report α) → Event
  | .ok r => ofReport r
  | .error f => .fault f

/-- The warnings of a report. -/
def given : Event → List Warning
  | report _ ws => ws
  | _ => []

/-- The warnings that a call fetched. -/
def fetched : Event → List Warning
  | flushed ws => ws
  | _ => []

def problem? : Event → Option Problem
  | report p _ => p
  | _ => none

end Event

/-- The message of the last problem among some events; empty if there is none. -/
def lastMessage (events : List Event) : Text :=
  ((events.filterMap Event.problem?).getLast?.map Problem.message).getD []

inductive Call
  | setField (subject : Subject) (field value : Value)
  | parse (subject : Subject) (source pattern mode weed : Value)
  | render (subject : Subject) (pattern mode : Value)
  | tagFromFrames (source : FrameSource)
  | tagToFrames (rules : FrameRules) (subject : Subject)
  | parseItem (o : ParseOptions) (name : Value)
  | renderItem (pattern mode : Value) (subject : Subject)
  | flushWarnings
  | lastError
  | configure (settings : Settings)

def Call.run : Call → Step Event
  | .setField subject field value => do
    pure (.ofResult (← Session.setField subject field value).1)
  | .parse subject source pattern mode weed => do
    pure (.ofResult (← Session.parse subject source pattern mode weed).1)
  | .render subject pattern mode => do
    pure (.ofResult (← Session.render subject pattern mode))
  | .tagFromFrames source => do
    pure (.ofResult (← Session.tagFromFrames source))
  | .tagToFrames rules subject => do
    pure (.ofResult (← Session.tagToFrames rules subject))
  | .parseItem o name => do
    pure (.ofResult ((← (Session.parseItem o name).run).map ParsedItem.report))
  | .renderItem pattern mode subject => do
    pure (.ofResult ((← (Session.renderItem pattern mode subject).run).map RenderedItem.report))
  | .flushWarnings => do
    pure (.flushed (← Session.flushWarnings))
  | .lastError => do
    pure (.message (← get).lastError)
  | .configure settings => do
    modify ({ · with settings := settings })
    pure .configured

/-- Makes the calls in order. -/
def runCalls (calls : List Call) : Step (List Event) :=
  calls.mapM Call.run

variable {s s' : Session} {event : Event} {call : Call} {calls : List Call}

theorem runCalls_nil (s : Session) : runCalls [] s = ([], s) := rfl

theorem runCalls_cons (call : Call) (calls : List Call) (s : Session) :
    runCalls (call :: calls) s =
      ((call.run s).1 :: (runCalls calls (call.run s).2).1, (runCalls calls (call.run s).2).2) := by
  rw [runCalls, List.mapM_cons]
  rfl

/-! ## One call -/

/-- What a call does to its session, by the event that it gives. -/
inductive Recorded (s : Session) : Event → Session → Prop
  | report (p : Option Problem) (ws : List Warning) :
    Recorded s (.report p ws)
      { s with pending := s.pending ++ ws, lastProblem := p.or s.lastProblem }
  | fault (f : Fault) : Recorded s (.fault f) s
  | flushed : Recorded s (.flushed s.pending) { s with pending := [] }
  | message : Recorded s (.message s.lastError) s
  | configured (settings : Settings) : Recorded s .configured { s with settings := settings }

theorem recorded_noted {α : Type} (s : Session) (result : Except Fault (Report α)) :
    Recorded s (.ofResult result) (s.noted result) := by
  cases result with
  | ok r => exact .report r.problem? r.warnings
  | error f => exact .fault f

theorem recorded_conclude {α : Type} (o : Outcome α) (s : Session) :
    Recorded s (.ofResult (conclude o s).1) (conclude o s).2 := by
  rw [conclude_run]
  exact recorded_noted s o.report

theorem recorded_perform {α : Type} (body : Value → Edit α) (subject : Subject) (s : Session) :
    Recorded s (.ofResult (perform body subject s).1.1) (perform body subject s).2 :=
  recorded_conclude _ s

theorem recorded_run (call : Call) (s : Session) :
    Recorded s (call.run s).1 (call.run s).2 := by
  cases call with
  | setField subject field value =>
    exact recorded_perform (fun marker => Edit.store marker field value) subject s
  | parse subject source pattern mode weed =>
    exact recorded_perform (fun marker => Edit.extract marker source pattern mode weed) subject s
  | render subject pattern mode =>
    exact recorded_perform (fun _ => Edit.render pattern mode) subject s
  | tagFromFrames source => exact recorded_conclude _ s
  | tagToFrames rules subject => exact recorded_conclude _ s
  | parseItem o name =>
    show Recorded s (.ofResult (((Session.parseItem o name).run s).1.map ParsedItem.report))
      ((Session.parseItem o name).run s).2
    rw [parseItem_session]
    exact recorded_noted s _
  | renderItem pattern mode subject =>
    show Recorded s (.ofResult (((Session.renderItem pattern mode subject).run s).1.map
      RenderedItem.report)) ((Session.renderItem pattern mode subject).run s).2
    rw [renderItem_session]
    exact recorded_noted s _
  | flushWarnings => exact .flushed
  | lastError => exact .message
  | configure settings => exact .configured settings

/-- Warnings that are fetched are no longer pending, and those of a report are. -/
theorem Recorded.pending_eq (h : Recorded s event s') :
    event.fetched ++ s'.pending = s.pending ++ event.given := by
  cases h <;> simp [Event.fetched, Event.given]

theorem Recorded.lastProblem_eq (h : Recorded s event s') :
    s'.lastProblem = event.problem?.or s.lastProblem := by
  cases h <;> rfl

theorem Recorded.eq_of_fault {f : Fault} (h : Recorded s (.fault f) s') : s' = s := by
  cases h
  rfl

theorem Recorded.message_eq {t : Text} (h : Recorded s (.message t) s') : t = s.lastError := by
  cases h
  rfl

/-! ## Calls in a row -/

theorem pending_runCalls (calls : List Call) (s : Session) :
    (runCalls calls s).1.flatMap Event.fetched ++ (runCalls calls s).2.pending =
      s.pending ++ (runCalls calls s).1.flatMap Event.given := by
  induction calls generalizing s with
  | nil => simp [runCalls_nil]
  | cons call calls ih =>
    rw [runCalls_cons, List.flatMap_cons, List.flatMap_cons]
    have hcall := (recorded_run call s).pending_eq
    calc (call.run s).1.fetched ++ (runCalls calls (call.run s).2).1.flatMap Event.fetched ++
          (runCalls calls (call.run s).2).2.pending
        = (call.run s).1.fetched ++ ((call.run s).2.pending ++
          (runCalls calls (call.run s).2).1.flatMap Event.given) := by
          rw [List.append_assoc, ih]
      _ = s.pending ++ ((call.run s).1.given ++
          (runCalls calls (call.run s).2).1.flatMap Event.given) := by
          rw [← List.append_assoc, hcall, List.append_assoc]

theorem lastProblem_runCalls (calls : List Call) (s : Session) :
    (runCalls calls s).2.lastProblem =
      ((runCalls calls s).1.filterMap Event.problem?).getLast?.or s.lastProblem := by
  induction calls generalizing s with
  | nil => rfl
  | cons call calls ih =>
    rw [runCalls_cons, ih, (recorded_run call s).lastProblem_eq]
    cases hp : (call.run s).1.problem? <;> simp [hp, List.getLast?_cons]

/-- The events before the `i`-th are those of the calls before it. -/
theorem runCalls_take (calls : List Call) (i : Nat) (s : Session) :
    (runCalls (calls.take i) s).1 = (runCalls calls s).1.take i := by
  induction calls generalizing i s with
  | nil => simp [runCalls_nil]
  | cons call calls ih =>
    cases i with
    | zero => rfl
    | succ i => rw [List.take_succ_cons, runCalls_cons, runCalls_cons, List.take_succ_cons, ih]

/-- The `i`-th event is recorded in the session after the calls before it. -/
theorem recorded_getElem? (calls : List Call) {i : Nat} (s : Session)
    (h : (runCalls calls s).1[i]? = some event) :
    ∃ s', Recorded (runCalls (calls.take i) s).2 event s' := by
  induction calls generalizing i s with
  | nil => simp [runCalls_nil] at h
  | cons call calls ih =>
    rw [runCalls_cons] at h
    cases i with
    | zero =>
      obtain rfl := Option.some.inj h
      exact ⟨_, recorded_run call s⟩
    | succ i =>
      rw [List.take_succ_cons, runCalls_cons]
      exact ih _ h

/-- After calls of a fresh session the last error is the message of the last problem they reported. -/
theorem lastError_runCalls (settings : Settings) (calls : List Call) :
    (runCalls calls { settings := settings }).2.lastError =
      lastMessage (runCalls calls { settings := settings }).1 := by
  rw [lastError, lastProblem_runCalls, Option.or_none, lastMessage]

/-! ## Batches -/

/-- The task runs as these calls, one after the other: all of them if it gives a result, whose events
are then theirs, and otherwise those up to the fault that ends it. -/
def RunsAs {α : Type} (task : Task α) (calls : List Call) (events : α → List Event)
    (s : Session) : Prop :=
  ∃ done, done <+: calls ∧ (task.run s).2 = (runCalls done s).2 ∧
    match (task.run s).1 with
    | .ok a => done = calls ∧ (runCalls done s).1 = events a
    | .error f => (runCalls done s).1.getLast? = some (.fault f)

variable {ι α β : Type} {task : ι → Task α} {report : α → Report β} {callOf : ι → Call}

/-- The call of an item gives the event of its report. -/
def Reports (callOf : ι → Call) (task : ι → Task α) (report : α → Report β) : Prop :=
  ∀ item s, (callOf item).run s =
    (.ofResult (((task item).run s).1.map report), ((task item).run s).2)

theorem reports_parseItem (o : ParseOptions) :
    Reports (.parseItem o) (parseItem o) ParsedItem.report :=
  fun _ _ => rfl

theorem reports_renderItem (pattern mode : Value) :
    Reports (.renderItem pattern mode) (renderItem pattern mode) RenderedItem.report :=
  fun _ _ => rfl

theorem Reports.inSequence (h : Reports callOf task report) (items : List ι) (s : Session) :
    RunsAs (inSequence task items) (items.map callOf)
      (fun results => results.map fun r => .ofReport (report r)) s := by
  induction items generalizing s with
  | nil => exact ⟨[], List.prefix_rfl, rfl, rfl, rfl⟩
  | cons item items ih =>
    have hcall := h item s
    rw [RunsAs, inSequence_cons, List.map_cons]
    rcases hitem : (task item).run s with ⟨result, s₁⟩
    rw [hitem] at hcall
    cases result with
    | error f =>
      refine ⟨[callOf item], ⟨_, rfl⟩, ?_, ?_⟩
      · rw [runCalls_cons, hcall, runCalls_nil]
      · rw [runCalls_cons, hcall, runCalls_nil]
        rfl
    | ok a =>
      obtain ⟨done, hpre, hs, hevents⟩ := ih s₁
      have hdone : runCalls (callOf item :: done) s =
          (.ofReport (report a) :: (runCalls done s₁).1, (runCalls done s₁).2) := by
        rw [runCalls_cons, hcall]
        rfl
      refine ⟨callOf item :: done, List.cons_prefix_cons.2 ⟨rfl, hpre⟩, ?_⟩
      rw [hdone]
      simp only
      rcases hrest : (Session.inSequence task items).run s₁ with ⟨results, s₂⟩
      rw [hrest] at hs hevents
      cases results with
      | error f =>
        have hlast : (runCalls done s₁).1.getLast? = some (.fault f) := hevents
        exact ⟨hs, by simp only [List.getLast?_cons, hlast, Option.getD_some]⟩
      | ok as =>
        obtain ⟨rfl, hevents⟩ := hevents
        exact ⟨hs, rfl, by rw [hevents, List.map_cons]⟩

theorem Reports.runItems (h : Reports callOf task report) {items : List ι}
    {maxWorkers useParallel : Value}
    (hd : runsParallel s.settings items.length maxWorkers useParallel = .ok false) :
    RunsAs (runItems task items maxWorkers useParallel) (items.map callOf)
      (fun results => results.map fun r => .ofReport (report r)) s := by
  have hrun : (Session.runItems task items maxWorkers useParallel).run s =
      (Session.inSequence task items).run s := by
    rw [runItems_run, hd]
    split
    · next hi =>
      rw [hi]
      rfl
    · rfl
  rw [RunsAs, hrun]
  exact h.inSequence items s

theorem RunsAs.map {γ : Type} {x : Task α} {y : Task γ} {g : α → γ} {events : α → List Event}
    {events' : γ → List Event} (h : RunsAs x calls events s) (hg : ∀ a, events' (g a) = events a)
    (hrun : y.run s = ((x.run s).1.map g, (x.run s).2)) : RunsAs y calls events' s := by
  obtain ⟨done, hpre, hs, hevents⟩ := h
  rw [RunsAs, hrun]
  refine ⟨done, hpre, hs, ?_⟩
  cases hx : (x.run s).1 with
  | error f =>
    rw [hx] at hevents
    exact hevents
  | ok a =>
    rw [hx] at hevents
    exact ⟨hevents.1, hevents.2.trans (hg a).symm⟩

theorem runsAs_parseBatch (o : ParseOptions) {names : Value} {items : List Value}
    {maxWorkers useParallel : Value} (hn : names.parts? = some items)
    (hd : runsParallel s.settings items.length maxWorkers useParallel = .ok false) :
    RunsAs (parseBatch o names maxWorkers useParallel) (items.map (.parseItem o))
      (fun summary => summary.results.map fun item => .ofReport item.report) s :=
  ((reports_parseItem o).runItems hd).map (fun _ => rfl) (parseBatch_run hn o _ _)

theorem runsAs_renderBatch (pattern mode : Value) {tags : List Subject}
    {maxWorkers useParallel : Value}
    (hd : runsParallel s.settings tags.length maxWorkers useParallel = .ok false) :
    RunsAs (renderBatch pattern mode tags maxWorkers useParallel)
      (tags.map (.renderItem pattern mode))
      (fun summary => summary.results.map fun item => .ofReport item.report) s :=
  ((reports_renderItem pattern mode).runItems hd).map (fun _ => rfl)
    (renderBatch_run pattern mode tags _ _)

/-- For any calls in a row from a fresh session: the warnings fetched, with those still pending, are
the warnings of the reports; whenever the last error is asked for, it is the message of the last
problem that was reported before; and a call that ends in a fault leaves the session as it was. A
batch that does not run in parallel counts as the calls of its items. -/
theorem diagnostics_conserved (settings : Settings) (calls : List Call) :
    let run := runCalls calls { settings := settings }
    run.1.flatMap Event.fetched ++ run.2.pending = run.1.flatMap Event.given ∧
    run.2.lastError = lastMessage run.1 ∧
    (∀ i t, run.1[i]? = some (.message t) → t = lastMessage (run.1.take i)) ∧
    (∀ (call : Call) (s : Session) f, (call.run s).1 = .fault f → (call.run s).2 = s) ∧
    (∀ (s : Session) o names items maxWorkers useParallel, names.parts? = some items →
      runsParallel s.settings items.length maxWorkers useParallel = .ok false →
      RunsAs (parseBatch o names maxWorkers useParallel) (items.map (.parseItem o))
        (fun summary => summary.results.map fun item => .ofReport item.report) s) ∧
    ∀ (s : Session) pattern mode tags maxWorkers useParallel,
      runsParallel s.settings tags.length maxWorkers useParallel = .ok false →
      RunsAs (renderBatch pattern mode tags maxWorkers useParallel)
        (tags.map (.renderItem pattern mode))
        (fun summary => summary.results.map fun item => .ofReport item.report) s := by
  refine ⟨?_, lastError_runCalls settings calls, fun i t ht => ?_, fun call s f hf => ?_,
    fun s o names items _ _ hn hd => runsAs_parseBatch o hn hd,
    fun s pattern mode tags _ _ hd => runsAs_renderBatch pattern mode hd⟩
  · rw [pending_runCalls, List.nil_append]
  · obtain ⟨s', hs⟩ := recorded_getElem? calls _ ht
    rw [hs.message_eq, lastError_runCalls, runCalls_take]
  · have hcall := recorded_run call s
    rw [hf] at hcall
    exact hcall.eq_of_fault

/-- A title that is cut, a year that is refused, and a comment that is no text: the title's warning is
fetched once, and only the year's problem is kept. -/
theorem diagnostics_title_year :
    let title := Value.text "Rime of the Ancient Mariner, live".toList
    let calls : List Call := [.setField (.editable .empty) (.text "TITLE".toList) title,
      .setField (.editable .empty) (.text "YEAR".toList) (.text "MMIV".toList),
      .flushWarnings, .setField (.editable .empty) (.text "YEAR".toList) (.int 1984), .lastError]
    let number : Call := .setField (.editable ⟨[("COMMENT".toList, .int 7)]⟩)
      (.text "TRACKNUM".toList) (.int 7)
    let run := runCalls calls {}
    (run.1.flatMap Event.fetched).length = 1 ∧ run.2.pending = [] ∧
      run.1[4]? = some (.message Problem.yearMalformed.message) ∧
      (number.run run.2).2 = run.2 ∧
      RunsAs (parseBatch { pattern := .text "((TITLE))".toList } (.list [title, title]) .null
          (.flag false))
        [.parseItem { pattern := .text "((TITLE))".toList } title,
          .parseItem { pattern := .text "((TITLE))".toList } title]
        (fun summary => summary.results.map fun item => .ofReport item.report) run.2 ∧
      RunsAs (renderBatch title .null [.editable .empty] .null (.flag false))
        [.renderItem title .null (.editable .empty)]
        (fun summary => summary.results.map fun item => .ofReport item.report) run.2 := by
  intro title calls number run
  obtain ⟨hlog, -, hmessage, hfault, hparse, hrender⟩ := diagnostics_conserved {} calls
  have hfetched : (run.1.flatMap Event.fetched).length = 1 := by decide +kernel
  have hgiven : (run.1.flatMap Event.given).length = 1 := by decide +kernel
  have hlen : (run.1.flatMap Event.fetched).length + run.2.pending.length =
      (run.1.flatMap Event.given).length := by
    rw [← List.length_append]
    exact congrArg List.length hlog
  have hasked : run.1[4]? = some (.message run.2.lastError) := rfl
  have hyear : lastMessage (run.1.take 4) = Problem.yearMalformed.message := by decide +kernel
  have hnumber : (number.run run.2).1 = .fault .missingOperation := rfl
  refine ⟨hfetched, List.length_eq_zero_iff.1 (by omega), ?_, hfault number run.2 _ hnumber, ?_, ?_⟩
  · rw [hasked, hmessage 4 _ hasked, hyear]
  · exact hparse run.2 _ (.list [title, title]) _ .null (.flag false) rfl rfl
  · exact hrender run.2 title .null [.editable .empty] .null (.flag false) rfl

end NameTag.Session
