import NameTag.Settings
import NameTag.Proofs.Steps

/-!
# Settings from the environment

Reading a variable refuses a value or changes the settings (`Settings.Leads`), and then a check of the
settings ends loading (`Settings.load_cases`). So a weed that does not compile is refused when it is
taken from the environment (`Settings.load_of_weed`), and the settings of a start can only be kept from
the environment by a refusal or by the weed (`Settings.fault_of_load`).
-/

namespace NameTag

/-- What fails so ends in the fault: a value is refused, or the fault is that of the failure. -/
def Failure.EndsIn (e : Failure) (f : Fault) : Prop :=
  (∃ why, f = .badValue why) ∨ e = .fault f

namespace Settings

variable {α β : Type} {P Q R : Settings → Prop} {x : Change α} {f : α → Change β}
  {env : Environment} {name w : Text} {s s' : Settings} {e : Failure}

/-- From settings with the one property the change comes to settings with the other, or refuses a
value. -/
def Leads (P Q : Settings → Prop) (x : Change α) : Prop :=
  ∀ s, P s → (∃ a s', x s = .ok a s' ∧ Q s') ∨ ∃ why s', x s = .error (.badValue why) s'

theorem leads_pure (a : α) : Leads P P (pure a) :=
  fun s hs => .inl ⟨a, s, rfl, hs⟩

theorem leads_refuse (why : BadValue) : Leads P Q (throw (.badValue why) : Change α) :=
  fun s _ => .inr ⟨why, s, rfl⟩

theorem leads_modify {g : Settings → Settings} (h : ∀ s, P s → Q (g s)) :
    Leads P Q (modify g : Change Unit) :=
  fun s hs => .inl ⟨(), g s, rfl, h s hs⟩

theorem leads_whenSet {act : Text → Change Unit} (h : ∀ t, Leads P P (act t)) :
    Leads P P (whenSet env name act) := by
  unfold whenSet
  split
  · exact h _
  · exact leads_pure ()

/-- Taking a number from the environment keeps what holds with any number. -/
theorem leads_setNumber {g : Value → Settings → Settings}
    (h : ∀ (n : Int) (s : Settings), P s → P (g (.int n) s)) :
    Leads P P (whenSet env name fun t => do
      let n ← readNumber t
      modify (g n)) := by
  refine leads_whenSet fun t => ?_
  unfold readNumber
  split
  · next n _ => exact leads_modify (h n)
  · exact leads_refuse _

/-- The text of a variable, or the value in its place. -/
def Environment.textOr (env : Environment) (name : Text) (v : Value) : Value :=
  ((env.get? name).map Value.text).getD v

/-- Taking a text from the environment leads from what holds with the value that a setting has to what
holds with the text, if there is one. -/
theorem leads_setText {g : Text → Settings → Settings} {P : Value → Settings → Prop} {v : Value}
    (h : ∀ t s, P v s → P (.text t) (g t s)) :
    Leads (P v) (P (env.textOr name v)) (whenSet env name fun t => modify (g t)) := by
  rw [whenSet, Environment.textOr]
  cases env.get? name with
  | none => exact leads_pure ()
  | some t => exact leads_modify (h t)

/-! ## Checks -/

theorem require_cases (c : Bool) (why : BadValue) :
    require c why = .ok () ∨ require c why = .error (.badValue why) := by
  cases c
  · exact .inr rfl
  · exact .inl rfl

theorem checkCase_cases (s : Settings) :
    s.checkCase = .ok () ∨ ∃ why, s.checkCase = .error (.badValue why) := by
  unfold checkCase
  split
  · exact .inl rfl
  · exact (require_cases _ _).imp_right fun h => ⟨_, h⟩

theorem checkWeed_of_error (hs : s.defaultWeed = .text w) (he : Weed.compile (.text w) = .error e) :
    ∃ f, s.checkWeed = .error f ∧ e.EndsIn f := by
  rw [checkWeed, hs]
  simp only [he]
  cases e with
  | problem p => exact ⟨_, rfl, .inl ⟨_, rfl⟩⟩
  | fault f => exact ⟨f, rfl, .inr rfl⟩

/-- Settings with a weed that does not compile fail their check. -/
theorem check_of_weed (hs : s.defaultWeed = .text w) (he : Weed.compile (.text w) = .error e) :
    ∃ f, s.check = .error f ∧ e.EndsIn f := by
  unfold check
  rcases s.checkCase_cases with hcase | ⟨why, hcase⟩
  · obtain ⟨f, hweed, hf⟩ := checkWeed_of_error hs he
    rw [hcase, hweed]
    exact ⟨f, rfl, hf⟩
  · rw [hcase]
    exact ⟨_, rfl, .inl ⟨why, rfl⟩⟩

/-- The check refuses a value, or it ends in a fault of this kind. -/
def FailsAs (F : Fault → Prop) (r : Except Fault Unit) : Prop :=
  ∀ f, r = .error f → (∃ why, f = .badValue why) ∨ F f

section

variable {F : Fault → Prop}

theorem failsAs_ok : FailsAs F (.ok ()) := nofun

theorem failsAs_refuse (why : BadValue) : FailsAs F (.error (.badValue why)) := by
  rintro f ⟨⟩
  exact .inl ⟨why, rfl⟩

theorem failsAs_require (c : Bool) (why : BadValue) : FailsAs F (require c why) := by
  rcases require_cases c why with h | h
  · exact h ▸ failsAs_ok
  · exact h ▸ failsAs_refuse why

theorem FailsAs.then {r r' : Except Fault Unit} (hr : FailsAs F r) (hr' : FailsAs F r') :
    FailsAs F (do r; r') := by
  intro f hf
  cases r with
  | ok _ => exact hr' f hf
  | error e =>
    cases hf
    exact hr f rfl

/-- Where the numbers are numbers, only the weed makes the check end in more than a refusal. -/
theorem FailsAs.check {n m : Int} (hweed : FailsAs F s.checkWeed) (hworkers : s.maxWorkers = .int n)
    (hthreshold : s.minParallel = .int m) : FailsAs F s.check := by
  have hcase : FailsAs F s.checkCase := by
    rcases s.checkCase_cases with h | ⟨why, h⟩
    · exact h ▸ failsAs_ok
    · exact h ▸ failsAs_refuse why
  have hmarker : FailsAs F s.checkMarker := by
    unfold checkMarker
    split
    · exact failsAs_ok
    · exact failsAs_ok
    · exact failsAs_refuse _
  have hverbose : FailsAs F s.checkVerbose := by
    unfold checkVerbose
    split
    · exact failsAs_ok
    · exact failsAs_refuse _
  rw [Settings.check, hworkers, hthreshold]
  exact hcase.then <| hweed.then <| hmarker.then <| hverbose.then <|
    (failsAs_require _ _).then (failsAs_require _ _)

end

/-! ## Loading -/

/-- What reading the environment makes of settings, with this weed and this file for the log. -/
structure Read (s : Settings) (weed logFile : Value) (s' : Settings) : Prop where
  weed : s'.defaultWeed = weed
  logFile : s'.logFile = logFile
  workers : s'.maxWorkers = s.maxWorkers ∨ ∃ n : Int, s'.maxWorkers = .int n
  threshold : s'.minParallel = s.minParallel ∨ ∃ n : Int, s'.minParallel = .int n

/-- From settings with the property the change refuses a value, or ends with a check of settings that
have the other property. -/
def EndsWithCheck (P Q : Settings → Prop) (x : Change Unit) : Prop :=
  ∀ s, P s → (∃ why s', x s = .error (.badValue why) s') ∨
    ∃ s', Q s' ∧ x s = match s'.check with
      | .ok _ => .ok () s'
      | .error f => .error f s'

theorem endsWithCheck_check : EndsWithCheck P P (do
    match (← get).check with
    | .ok _ => pure ()
    | .error f => throw f) := by
  intro s hs
  refine .inr ⟨s, hs, ?_⟩
  rw [bind_of_ok (get_run s)]
  cases s.check <;> rfl

theorem Leads.endsWithCheck {f : α → Change Unit} (hx : Leads P Q x)
    (hf : ∀ a, EndsWithCheck Q R (f a)) : EndsWithCheck P R (x >>= f) := by
  intro s hs
  rcases hx s hs with ⟨a, s', hrun, hs'⟩ | ⟨why, s', hrun⟩
  · rw [bind_of_ok hrun]
    exact hf a s' hs'
  · exact .inl ⟨why, s', bind_of_error hrun⟩

/-- Loading refuses a value, or ends with a check of what the environment makes of the settings. -/
theorem load_cases (env : Environment) (s : Settings) :
    (∃ why s', load env s = .error (.badValue why) s') ∨
      ∃ s', s.Read (env.textOr "INFOTAG_WEED".toList s.defaultWeed)
          (env.textOr "INFOTAG_LOG_FILE".toList s.logFile) s' ∧
        load env s = match s'.check with
          | .ok _ => .ok () s'
          | .error f => .error f s' := by
  have hload : EndsWithCheck (s.Read s.defaultWeed s.logFile)
      (s.Read (env.textOr "INFOTAG_WEED".toList s.defaultWeed)
        (env.textOr "INFOTAG_LOG_FILE".toList s.logFile)) (load env) := by
    refine Leads.endsWithCheck (leads_whenSet fun t => ?_) fun _ => ?_
    · split
      · exact leads_modify fun _ h => ⟨h.weed, h.logFile, h.workers, h.threshold⟩
      · exact leads_refuse _
    refine Leads.endsWithCheck (leads_setText (P := fun v => s.Read v s.logFile)
      fun _ _ h => ⟨rfl, h.logFile, h.workers, h.threshold⟩) fun _ => ?_
    refine Leads.endsWithCheck (leads_whenSet fun t => leads_modify
      fun _ h => ⟨h.weed, h.logFile, h.workers, h.threshold⟩) fun _ => ?_
    refine Leads.endsWithCheck (leads_setNumber
      fun n _ h => ⟨h.weed, h.logFile, .inr ⟨n, rfl⟩, h.threshold⟩) fun _ => ?_
    refine Leads.endsWithCheck (leads_setNumber
      fun n _ h => ⟨h.weed, h.logFile, h.workers, .inr ⟨n, rfl⟩⟩) fun _ => ?_
    refine Leads.endsWithCheck (leads_setText (P := s.Read _)
      fun _ _ h => ⟨h.weed, rfl, h.workers, h.threshold⟩) fun _ => ?_
    split
    · exact Leads.endsWithCheck (leads_modify
        fun _ h => ⟨h.weed, h.logFile, h.workers, h.threshold⟩) fun _ => endsWithCheck_check
    · exact endsWithCheck_check
  exact hload s ⟨rfl, rfl, .inl rfl, .inl rfl⟩

/-- Settings that are loaded passed the check. -/
theorem read_of_load (h : load env s = .ok () s') :
    s.Read (env.textOr "INFOTAG_WEED".toList s.defaultWeed)
      (env.textOr "INFOTAG_LOG_FILE".toList s.logFile) s' ∧ s'.check = .ok () := by
  rcases load_cases env s with ⟨why, s₁, hload⟩ | ⟨s₁, hread, hload⟩
  · rw [hload] at h
    cases h
  · rw [hload] at h
    cases hcheck : s₁.check with
    | ok _ =>
      rw [hcheck] at h
      cases h
      exact ⟨hread, hcheck⟩
    | error e =>
      rw [hcheck] at h
      cases h

/-- Loading ends in a fault if the weed of the environment does not compile. -/
theorem load_of_weed (hw : env.get? "INFOTAG_WEED".toList = some w)
    (he : Weed.compile (.text w) = .error e) (s : Settings) :
    ∃ f s', load env s = .error f s' ∧ e.EndsIn f := by
  rcases load_cases env s with ⟨why, s', hload⟩ | ⟨s', hread, hload⟩
  · exact ⟨_, s', hload, .inl ⟨why, rfl⟩⟩
  · have hweed : s'.defaultWeed = .text w := by rw [hread.weed, Environment.textOr, hw]; rfl
    obtain ⟨f, hcheck, hf⟩ := check_of_weed hweed he
    rw [hcheck] at hload
    exact ⟨f, s', hload, hf⟩

end Settings

end NameTag
