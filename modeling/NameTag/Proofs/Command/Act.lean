import NameTag.Command.Run
import NameTag.Proofs.Command.Transcript
import NameTag.Proofs.Session

/-!
# Parts of a run

How a run comes apart. A part that only logs (`Act.Logs`) leaves the session alone and adds nothing
but records to what the run writes.
-/

namespace NameTag.Command

variable {α : Type} {c c' : Console}

namespace Act

variable {x : Act α} {a : α}

theorem writeLine_run (s : Stream) (t : Text) (c : Console) :
    writeLine s t c = .ok () { c with transcript := c.transcript ++ [.write s (t ++ ['\n'])] } := rfl

theorem writeLines_run (s : Stream) (texts : List Text) (c : Console) :
    writeLines s texts c =
      .ok () { c with transcript := c.transcript ++ texts.map fun t => .write s (t ++ ['\n']) } := by
  induction texts generalizing c with
  | nil =>
    rw [List.map_nil, List.append_nil]
    rfl
  | cons t texts ih =>
    have hrest := ih { c with transcript := c.transcript ++ [.write s (t ++ ['\n'])] }
    rw [List.append_assoc] at hrest
    show (do writeLine s t; writeLines s texts : Act Unit) c = _
    rw [bind_of_ok (writeLine_run s t c)]
    exact hrest

theorem ofStep_run (step : Session.Step α) (c : Console) :
    ofStep step c = .ok (step c.session).1 { c with session := (step c.session).2 } := rfl

theorem ofTask_run (task : Session.Task α) (c : Console) :
    ofTask task c = match task.run c.session with
      | (.ok a, s) => .ok a { c with session := s }
      | (.error e, s) => .error e { c with session := s } := by
  rw [ofTask, bind_of_ok (ofStep_run task.run c)]
  rcases task.run c.session with ⟨result, s⟩
  cases result <;> rfl

theorem ofTask_of_run {task : Session.Task α} {s : Session} (h : task.run c.session = (.ok a, s)) :
    ofTask task c = .ok a { c with session := s } := by
  rw [ofTask_run, h]

theorem ofTask_eq_ok {task : Session.Task α} (h : ofTask task c = .ok a c') :
    ∃ s, task.run c.session = (.ok a, s) ∧ c' = { c with session := s } := by
  rw [ofTask_run] at h
  split at h
  · next s hs =>
    cases h
    exact ⟨s, hs, rfl⟩
  · cases h

/-- What a part of a run gives; nothing after a fault. -/
def result? (r : EStateM.Result Fault Console α) : Option α :=
  match r with
  | .ok a _ => some a
  | .error .. => none

theorem exists_of_isSome {r : EStateM.Result Fault Console α} (h : (result? r).isSome = true) :
    ∃ a c, r = .ok a c := by
  cases r with
  | ok a c => exact ⟨a, c, rfl⟩
  | error e c => cases h

theorem exists_of_result {r : EStateM.Result Fault Console α} (h : result? r = some a) :
    ∃ c, r = .ok a c := by
  cases r with
  | ok b c =>
    obtain rfl := Option.some.inj h
    exact ⟨c, rfl⟩
  | error e c => cases h

/-- The value and the console that a part of a run ends with; nothing after a fault. -/
def ended? (r : EStateM.Result Fault Console α) : Option (α × Console) :=
  match r with
  | .ok a c => some (a, c)
  | .error .. => none

theorem eq_ok_of_ended {r : EStateM.Result Fault Console α} (h : ended? r = some (a, c)) :
    r = .ok a c := by
  cases r with
  | ok b c' =>
    cases h
    rfl
  | error e c' => cases h

/-! ## Parts that only log -/

/-- If the part goes on, it has left the session alone and written nothing but records. -/
def Logs (x : Act Unit) : Prop :=
  ∀ ⦃c c'⦄, x c = .ok () c' → c'.session = c.session ∧ c.transcript.Logged c'.transcript

theorem logs_pure : Logs (pure ()) := by
  intro c c' h
  cases h
  exact ⟨rfl, .refl _⟩

theorem Logs.then {x y : Act Unit} (hx : Logs x) (hy : Logs y) : Logs (do x; y) := by
  intro c c' h
  obtain ⟨_, c₁, hx₁, hy₁⟩ := bind_eq_ok_iff.1 h
  obtain ⟨hs, ht⟩ := hx hx₁
  obtain ⟨hs₁, ht₁⟩ := hy hy₁
  exact ⟨hs₁.trans hs, ht.trans ht₁⟩

/-- A record is logged or left out. -/
theorem record_run (severity : Severity) (origin message : Text) (c : Console) :
    record severity origin message c = .ok () c ∨
      ∃ stream, record severity origin message c =
        .ok () { c with transcript := c.transcript ++ [.record stream ⟨origin, severity, message⟩] } := by
  obtain ⟨session, log, transcript⟩ := c
  rw [record, bind_of_ok (get_run _)]
  cases log with
  | none => exact .inl rfl
  | some log =>
    by_cases h : severity = .debug ∧ (!log.verbose) = true
    · simp only [if_pos h]
      exact .inl rfl
    · simp only [if_neg h]
      exact .inr ⟨log.stream, rfl⟩

theorem logs_record (severity : Severity) (origin message : Text) :
    Logs (record severity origin message) := by
  intro c c' h
  rcases record_run severity origin message c with hrun | ⟨stream, hrun⟩
  · rw [hrun] at h
    exact logs_pure h
  · rw [hrun] at h
    cases h
    refine ⟨rfl, _, ?_, rfl⟩
    intro e he
    rw [List.mem_singleton.1 he]
    rfl

theorem Logs.forM {f : α → Act Unit} (hf : ∀ a, Logs (f a)) (l : List α) : Logs (l.forM f) := by
  induction l with
  | nil => exact logs_pure
  | cons a l ih => exact (hf a).then ih

/-! ## Parts that go on -/

/-- The part goes on and leaves the session alone. -/
def Passes (x : Act Unit) : Prop :=
  ∀ c, ∃ c', x c = .ok () c' ∧ c'.session = c.session

theorem passes_record (severity : Severity) (origin message : Text) :
    Passes (record severity origin message) := by
  intro c
  rcases record_run severity origin message c with hrun | ⟨stream, hrun⟩
  · exact ⟨_, hrun, rfl⟩
  · exact ⟨_, hrun, rfl⟩

theorem Passes.forM {f : α → Act Unit} (hf : ∀ a, Passes (f a)) (l : List α) :
    Passes (l.forM f) := by
  induction l with
  | nil => exact fun c => ⟨c, rfl, rfl⟩
  | cons a l ih =>
    intro c
    obtain ⟨c₁, hrun, hs₁⟩ := hf a c
    obtain ⟨c₂, hrest, hs₂⟩ := ih c₁
    exact ⟨c₂, (bind_of_ok hrun).trans hrest, hs₂.trans hs₁⟩

end Act

open Act Session

theorem logs_recordProblem (operation : String) (p : Problem) :
    Logs (recordProblem operation p) :=
  logs_record _ _ _

theorem passes_recordProblem (operation : String) (p : Problem) :
    Passes (recordProblem operation p) :=
  passes_record _ _ _

theorem logs_recordItem (item : ParsedItem) : Logs (recordItem item) := by
  unfold recordItem
  split
  · exact logs_record _ _ _
  · exact logs_recordProblem _ _

theorem passes_recordItem (item : ParsedItem) : Passes (recordItem item) := by
  unfold recordItem
  split
  · exact passes_record _ _ _
  · exact passes_recordProblem _ _

theorem logs_recordDispatch (total : Nat) (maxWorkers : Value) :
    Logs (recordDispatch total maxWorkers) := by
  intro c c' h
  rw [recordDispatch, bind_of_ok (get_run c)] at h
  rcases hd : runsParallel c.session.settings total maxWorkers (.flag true) with f | parallel
  · rw [hd] at h
    cases h
  · rw [hd] at h
    cases parallel with
    | true => exact logs_record _ _ _ h
    | false => exact logs_record _ _ _ h

/-- A batch is recorded without fail if it can be dispatched. -/
theorem exists_recordDispatch {total : Nat} {maxWorkers : Value} {parallel : Bool}
    (h : runsParallel c.session.settings total maxWorkers (.flag true) = .ok parallel) :
    ∃ c', recordDispatch total maxWorkers c = .ok () c' ∧ c'.session = c.session := by
  rw [recordDispatch, bind_of_ok (get_run c)]
  simp only [h]
  cases parallel
  · exact passes_record _ _ _ c
  · exact passes_record _ _ _ c

end NameTag.Command
