import NameTag.Proofs.Batch.Item
import Mathlib.Data.List.Forall2

/-!
# Dispatch

How a batch runs its tasks, and the summary it makes of their results. Run in parallel, the tasks
leave the caller's session alone.
-/

namespace NameTag

namespace Session

variable {ι α : Type} {task : ι → Task α} {item : ι} {items : List ι} {s : Session}

theorem inSequence_cons :
    (inSequence task (item :: items)).run s =
      match (task item).run s with
      | (.error f, s₁) => (.error f, s₁)
      | (.ok a, s₁) =>
        match (inSequence task items).run s₁ with
        | (.error f, s₂) => (.error f, s₂)
        | (.ok as, s₂) => (.ok (a :: as), s₂) := by
  rw [inSequence, task_bind_run]
  rcases (task item).run s with ⟨result, s₁⟩
  cases result with
  | error f => rfl
  | ok a =>
    simp only [task_bind_run]
    rcases (inSequence task items).run s₁ with ⟨results, s₂⟩
    cases results <;> rfl

theorem inParallel_cons :
    (inParallel task (item :: items)).run s =
      match ((task item).run { settings := s.settings }).1 with
      | .error f => (.error f, s)
      | .ok a =>
        match (inParallel task items).run s with
        | (.error f, s₁) => (.error f, s₁)
        | (.ok as, s₁) => (.ok (a :: as), s₁) := by
  rw [inParallel, task_get_bind_run, task_bind_run, task_except_run]
  show (match (((task item).run { settings := s.settings }).1, s) with
    | (.ok a, s₁) => _
    | (.error e, s₁) => _) = _
  cases ((task item).run { settings := s.settings }).1 with
  | error f => rfl
  | ok a =>
    simp only [task_bind_run]
    rcases (inParallel task items).run s with ⟨results, s₁⟩
    cases results <;> rfl

/-- Tasks run in parallel record nothing, whatever becomes of them. -/
theorem inParallel_session : ((inParallel task items).run s).2 = s := by
  induction items with
  | nil => rfl
  | cons item items ih =>
    rw [inParallel_cons]
    cases ((task item).run { settings := s.settings }).1 with
    | error f => rfl
    | ok a =>
      rcases hrest : (inParallel task items).run s with ⟨results, s₁⟩
      rw [hrest] at ih
      cases results <;> exact ih

theorem runItems_run (maxWorkers useParallel : Value) :
    (runItems task items maxWorkers useParallel).run s =
      if items = [] then (.ok [], s)
      else match runsParallel s.settings items.length maxWorkers useParallel with
        | .error f => (.error f, s)
        | .ok true => (inParallel task items).run s
        | .ok false => (inSequence task items).run s := by
  unfold runItems
  cases items with
  | nil => rfl
  | cons item items =>
    simp only [List.isEmpty_cons, Bool.false_eq_true, if_false, reduceCtorEq]
    rw [task_get_bind_run, task_bind_run, task_except_run]
    rcases runsParallel s.settings (item :: items).length maxWorkers useParallel with
      f | (_ | _) <;> rfl

/-! ## Tasks that give a result -/

variable {β : Type} {report : α → Report β} {marker : Value} {results : List α}

/-- The session after some reports, recorded in order. -/
def noteAll (s : Session) (reports : List (Report β)) : Session :=
  reports.foldl note s

theorem noteAll_eq (s : Session) (reports : List (Report β)) :
    s.noteAll reports =
      { s with
        pending := s.pending ++ reports.flatMap (·.warnings)
        lastProblem := (reports.filterMap (·.problem?)).getLast?.or s.lastProblem } := by
  induction reports generalizing s with
  | nil => simp [noteAll]
  | cons r reports ih =>
    rw [noteAll, List.foldl_cons, ← noteAll, ih, note]
    cases hp : r.problem? <;> simp [hp, List.getLast?_cons]

/-- In any session with this marker the task of the item gives the result and records its report. -/
def Gives (marker : Value) (task : ι → Task α) (report : α → Report β) (item : ι) (a : α) : Prop :=
  ∀ s : Session, s.settings.marker = marker → (task item).run s = (.ok a, s.note (report a))

theorem inSequence_run (h : List.Forall₂ (Gives marker task report) items results)
    (hs : s.settings.marker = marker) :
    (inSequence task items).run s = (.ok results, s.noteAll (results.map report)) := by
  induction h generalizing s with
  | nil => rfl
  | @cons item a items results hitem _ ih =>
    have hrest := @ih (s.note (report a)) hs
    rw [inSequence_cons, hitem s hs]
    simp only [hrest]
    rfl

theorem inParallel_run (h : List.Forall₂ (Gives marker task report) items results)
    (hs : s.settings.marker = marker) : (inParallel task items).run s = (.ok results, s) := by
  induction h with
  | nil => rfl
  | @cons item a items results hitem _ ih =>
    rw [inParallel_cons, hitem { settings := s.settings } hs]
    simp only [ih]

/-- The results do not depend on the dispatch; only a run in sequence records the reports. -/
theorem runItems_run_of_gives (h : List.Forall₂ (Gives marker task report) items results)
    (hs : s.settings.marker = marker) {maxWorkers useParallel : Value} {parallel : Bool}
    (hd : runsParallel s.settings items.length maxWorkers useParallel = .ok parallel) :
    (runItems task items maxWorkers useParallel).run s =
      (.ok results, if parallel then s else s.noteAll (results.map report)) := by
  rw [runItems_run, hd]
  split
  · next hi =>
    subst hi
    cases h
    cases parallel <;> rfl
  · cases parallel
    · exact inSequence_run h hs
    · exact inParallel_run h hs

/-! ## Tasks that end in a fault -/

variable {f : Fault}

/-- In any session with this marker the task of the item ends in the fault. -/
def Faults (marker : Value) (task : ι → Task α) (f : Fault) (item : ι) : Prop :=
  ∀ s : Session, s.settings.marker = marker → (task item).run s = (.error f, s)

theorem Gives.faults_of_cons {a : α} (h : Gives marker task report item a)
    (hf : ∃ other ∈ item :: items, Faults marker task f other) :
    ∃ other ∈ items, Faults marker task f other := by
  obtain ⟨other, hmem, hother⟩ := hf
  rcases List.mem_cons.1 hmem with rfl | hmem
  · let s : Session := { settings := { marker := marker } }
    have hboth := (hother s rfl).symm.trans (h s rfl)
    cases hboth
  · exact ⟨other, hmem, hother⟩

/-- A task that ends in a fault ends the run, if those before it give results. -/
theorem inSequence_of_faults
    (h : ∀ item ∈ items, Faults marker task f item ∨ ∃ a, Gives marker task report item a)
    (hf : ∃ item ∈ items, Faults marker task f item) (hs : s.settings.marker = marker) :
    ((inSequence task items).run s).1 = .error f := by
  induction items generalizing s with
  | nil => simp at hf
  | cons item items ih =>
    obtain ⟨hitem, hitems⟩ := List.forall_mem_cons.1 h
    rw [inSequence_cons]
    rcases hitem with hitem | ⟨a, hitem⟩
    · rw [hitem s hs]
    · have hrest := hitem.faults_of_cons hf
      have hmore := @ih (s.note (report a)) hitems hrest hs
      rw [hitem s hs]
      rcases hrun : (inSequence task items).run (s.note (report a)) with ⟨e | results, s₁⟩
      · rw [hrun] at hmore
        simp only [hrun]
        exact hmore
      · rw [hrun] at hmore
        cases hmore

theorem inParallel_of_faults
    (h : ∀ item ∈ items, Faults marker task f item ∨ ∃ a, Gives marker task report item a)
    (hf : ∃ item ∈ items, Faults marker task f item) (hs : s.settings.marker = marker) :
    ((inParallel task items).run s).1 = .error f := by
  induction items with
  | nil => simp at hf
  | cons item items ih =>
    obtain ⟨hitem, hitems⟩ := List.forall_mem_cons.1 h
    rw [inParallel_cons]
    rcases hitem with hitem | ⟨a, hitem⟩
    · rw [hitem { settings := s.settings } hs]
    · have hrest := hitem.faults_of_cons hf
      have hmore := ih hitems hrest
      rw [hitem { settings := s.settings } hs]
      rcases hrun : (inParallel task items).run s with ⟨e | results, s₁⟩
      · rw [hrun] at hmore
        exact hmore
      · rw [hrun] at hmore
        cases hmore

theorem runItems_of_faults
    (h : ∀ item ∈ items, Faults marker task f item ∨ ∃ a, Gives marker task report item a)
    (hf : ∃ item ∈ items, Faults marker task f item) (hs : s.settings.marker = marker)
    {maxWorkers useParallel : Value} {parallel : Bool}
    (hd : runsParallel s.settings items.length maxWorkers useParallel = .ok parallel) :
    ((runItems task items maxWorkers useParallel).run s).1 = .error f := by
  have hne : items ≠ [] := by
    rintro rfl
    simp at hf
  rw [runItems_run, if_neg hne, hd]
  cases parallel
  · exact inSequence_of_faults h hf hs
  · exact inParallel_of_faults h hf hs

/-! ## Batches -/

theorem parseBatch_run {names : Value} {items : List Value} (hn : names.parts? = some items)
    (o : ParseOptions) (maxWorkers useParallel : Value) :
    (parseBatch o names maxWorkers useParallel).run s =
      (((runItems (parseItem o) items maxWorkers useParallel).run s).1.map
          (.ofResults (·.passed) (·.changed == 0)),
        ((runItems (parseItem o) items maxWorkers useParallel).run s).2) := by
  rw [parseBatch, hn]
  exact task_map_run _ _ s

theorem renderBatch_run (pattern mode : Value) (tags : List Subject)
    (maxWorkers useParallel : Value) :
    (renderBatch pattern mode tags maxWorkers useParallel).run s =
      (((runItems (renderItem pattern mode) tags maxWorkers useParallel).run s).1.map
          (.ofResults (·.report.passed) fun _ => false),
        ((runItems (renderItem pattern mode) tags maxWorkers useParallel).run s).2) :=
  task_map_run _ _ s

end Session

end NameTag
