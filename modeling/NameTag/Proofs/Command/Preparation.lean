import NameTag.Proofs.Command.Act

/-!
# What comes before a command

Before its command a run takes settings from the environment, opens the log and checks the options
(`prepare`). What is refused there or by the command ends the run in a misuse, so a run that ends
otherwise is prepared and its command comes to an end of its own (`runCommand_of_run`). A command other
than `fields` has a pattern (`exists_pattern`).
-/

namespace NameTag.Command

variable {c c₁ c' : Console} {e : Exit}

/-! ## Refusals -/

namespace Act

/-- What is refused ends the run in a misuse. -/
def Misuses (otherwise : BadValue → Act Exit) : Prop :=
  ∀ ⦃why c e c'⦄, otherwise why c = .ok e c' → e = .misuse

theorem complain_run (why : BadValue) (c : Console) :
    complain why c = .ok .misuse { c with transcript :=
      c.transcript ++ [.write .errors ("Error: ".toList ++ why.message ++ ['\n'])] } := rfl

theorem misuses_complain : Misuses complain := by
  intro why c e c' h
  rw [complain_run] at h
  cases h
  rfl

theorem misuses_refuseOptions (origin : Text) : Misuses (refuseOptions origin) := by
  intro why c e c' h
  obtain ⟨_, c₁, -, hcomplain⟩ := bind_eq_ok_iff.1 h
  exact misuses_complain hcomplain

variable {act : Act Unit} {next : Act Exit} {otherwise : BadValue → Act Exit}

theorem andThen_of_ok (h : act c = .ok () c₁) : act.andThen otherwise next c = next c₁ := by
  rw [andThen, h]

theorem andThen_of_badValue {why : BadValue} (h : act c = .error (.badValue why) c₁) :
    act.andThen otherwise next c = otherwise why c₁ := by
  rw [andThen, h]

theorem andThen_of_overflow (h : act c = .error .overflow c₁) :
    act.andThen otherwise next c = .error .overflow c₁ := by
  rw [andThen, h]

theorem Misuses.andThen (ho : Misuses otherwise) (he : e ≠ .misuse)
    (h : act.andThen otherwise next c = .ok e c') :
    ∃ c₁, act c = .ok () c₁ ∧ next c₁ = .ok e c' := by
  cases hact : act c with
  | ok _ c₁ =>
    rw [andThen_of_ok hact] at h
    exact ⟨c₁, rfl, h⟩
  | error f c₁ =>
    rw [Act.andThen, hact] at h
    cases f with
    | badValue why => exact absurd (ho h) he
    | _ => cases h

theorem orElse_of_ok {α : Type} {x : Act α} {a : α} {handle : BadValue → Act α}
    (h : x c = .ok a c') : x.orElse handle c = .ok a c' := by
  rw [orElse, h]

theorem orElse_of_badValue {α : Type} {x : Act α} {why : BadValue} {handle : BadValue → Act α}
    (h : x c = .error (.badValue why) c₁) : x.orElse handle c = handle why c₁ := by
  rw [orElse, h]

theorem Misuses.orElse {x : Act Exit} (ho : Misuses otherwise) (he : e ≠ .misuse)
    (h : x.orElse otherwise c = .ok e c') : x c = .ok e c' := by
  cases hx : x c with
  | ok e₁ c₁ =>
    rw [orElse_of_ok hx] at h
    exact h
  | error f c₁ =>
    rw [Act.orElse, hx] at h
    cases f with
    | badValue why => exact absurd (ho h) he
    | _ => cases h

end Act

open Act

/-! ## Preparation -/

/-- What a run does before its command. -/
def prepare (s : Surroundings) (i : Invocation) : Act Unit := do
  loadSettings s.environment
  openLog s i
  checkOptions i.given

variable {s : Surroundings} {i : Invocation} {texts : List Text}

theorem loadSettings_keeps {env : Settings.Environment} (h : loadSettings env c = .ok () c₁) :
    c₁.transcript = c.transcript ∧ c₁.session.pending = c.session.pending := by
  unfold loadSettings at h
  split at h
  · cases h
    exact ⟨rfl, rfl⟩
  · cases h

/-- The log that an invocation keeps under the settings, in the file if there is one. -/
def Invocation.log (i : Invocation) (settings : Settings) (file : Option Text) : Log :=
  ⟨i.verbose || settings.verbose.isTrue, if i.given.json then .errors else .output, file⟩

theorem openLog_run (s : Surroundings) (i : Invocation) (c : Console) :
    openLog s i c = match s.logFile? c.session.settings.logFile with
      | .ok file => .ok () { c with log := some (i.log c.session.settings file) }
      | .error f => .error f c := by
  rw [openLog, bind_of_ok (get_run c)]
  rcases s.logFile? c.session.settings.logFile with f | file <;> rfl

theorem openLog_keeps (h : openLog s i c = .ok () c₁) :
    c₁.transcript = c.transcript ∧ c₁.session = c.session := by
  rw [openLog_run] at h
  split at h
  · cases h
    exact ⟨rfl, rfl⟩
  · cases h

theorem checkOptions_run (g : Given) (c : Console) :
    checkOptions g c = match g.flaws with
      | .ok [] => .ok () c
      | .ok flaws => .error (.badValue (.options flaws)) c
      | .error f => .error f c := by
  unfold checkOptions
  rcases g.flaws with f | _ | ⟨flaw, flaws⟩ <;> rfl

theorem checkOptions_keeps {g : Given} (h : checkOptions g c = .ok () c₁) : c₁ = c := by
  rw [checkOptions_run] at h
  split at h <;> cases h
  rfl

/-- Preparation writes nothing and leaves the pending warnings alone. -/
theorem prepare_keeps (h : prepare s i c = .ok () c₁) :
    c₁.transcript = c.transcript ∧ c₁.session.pending = c.session.pending := by
  obtain ⟨_, c₂, hload, h⟩ := bind_eq_ok_iff.1 h
  obtain ⟨_, c₃, hlog, hcheck⟩ := bind_eq_ok_iff.1 h
  obtain ⟨ht₁, hp₁⟩ := loadSettings_keeps hload
  obtain ⟨ht₂, hs₂⟩ := openLog_keeps hlog
  obtain rfl := checkOptions_keeps hcheck
  exact ⟨ht₂.trans ht₁, by rw [hs₂, hp₁]⟩

theorem perform_of_prepare (h : prepare s i c = .ok () c₁) :
    perform s i c = (runCommand s i).orElse complain c₁ := by
  obtain ⟨_, c₂, hload, h⟩ := bind_eq_ok_iff.1 h
  obtain ⟨_, c₃, hlog, hcheck⟩ := bind_eq_ok_iff.1 h
  rw [perform, andThen_of_ok hload, bind_of_ok hlog, andThen_of_ok hcheck]

theorem runCommand_of_perform (h : perform s i c = .ok e c') (he : e ≠ .misuse) :
    ∃ c₁, prepare s i c = .ok () c₁ ∧ runCommand s i c₁ = .ok e c' := by
  obtain ⟨c₂, hload, h⟩ := misuses_complain.andThen he h
  obtain ⟨_, c₃, hlog, h⟩ := bind_eq_ok_iff.1 h
  obtain ⟨c₄, hcheck, h⟩ := (misuses_refuseOptions s.origin).andThen he h
  refine ⟨c₄, ?_, misuses_complain.orElse he h⟩
  rw [prepare, bind_of_ok hload, bind_of_ok hlog, hcheck]

theorem run_of_read (h : read texts = .ok i) : run s texts c = perform s i c := by
  rw [run, h]

/-- The invocation of a run that does not end in a misuse is prepared, and its command comes to the
same end. -/
theorem runCommand_of_run (hread : read texts = .ok i) (h : run s texts c = .ok e c')
    (he : e ≠ .misuse) : ∃ c₁, prepare s i c = .ok () c₁ ∧ runCommand s i c₁ = .ok e c' := by
  rw [run_of_read hread] at h
  exact runCommand_of_perform h he

/-! ## Patterns -/

theorem exists_pattern_of_readVerb {v : Verb} {g : Given} (h : readVerb v texts = .ok g)
    (hv : v ≠ .fields) : ∃ p, g.pattern = some p := by
  unfold readVerb at h
  simp only at h
  split at h
  · cases h
  · next words _ =>
    rcases hg : (sections words).2.foldlM (takeOption v)
        (({} : Given).withArguments v (sections words).1) with e | g'
    · rw [hg] at h
      cases h
    · rw [hg] at h
      replace h : (if g'.pattern.isNone = true ∧ (!(Level.verb v).required.isEmpty) = true then
        Except.error (Ending.complaint (.verb v) (.missing (Level.verb v).required))
        else .ok g') = .ok g := h
      split at h
      · cases h
      · next hsome =>
        cases h
        cases hp : g.pattern with
        | some p => exact ⟨p, rfl⟩
        | none =>
          refine absurd ⟨by rw [hp]; rfl, ?_⟩ hsome
          cases v with
          | fields => exact absurd rfl hv
          | parse => rfl
          | format => rfl

theorem exists_pattern_of_readProgram {verbose : Bool} {extra : List Text} {words : List Word}
    (h : readProgram verbose extra words = .ok i) (hv : i.verb ≠ .fields) :
    ∃ p, i.given.pattern = some p := by
  induction words generalizing verbose extra with
  | nil => cases h
  | cons w words ih =>
    cases w with
    | stop => cases words <;> cases h
    | unknown t => exact ih h
    | option o attached t =>
      rw [readProgram] at h
      rcases hs : takeSwitch {} .program o attached with e | g
      · rw [hs] at h
        cases h
      · rw [hs] at h
        exact ih h
    | argument t =>
      rw [readProgram] at h
      split at h
      · cases h
      · next v _ =>
        rcases hg : readVerb v (words.map Word.written) with e | g
        · rw [hg] at h
          cases h
        · rw [hg] at h
          simp only [bind, Except.bind] at h
          split at h
          · cases h
            exact exists_pattern_of_readVerb hg hv
          · cases h

/-- A command other than `fields` has a pattern. -/
theorem exists_pattern (h : read texts = .ok i) (hv : i.verb ≠ .fields) :
    ∃ p, i.given.pattern = some p := by
  unfold read at h
  split at h
  · cases h
  · exact exists_pattern_of_readProgram h hv

end NameTag.Command
