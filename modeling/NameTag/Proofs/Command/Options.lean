import NameTag.Proofs.AssignmentOrder
import NameTag.Proofs.Batch.Checked
import NameTag.Proofs.Command.Warnings
import NameTag.Proofs.Command.Weed

/-!
# What a run of `parse` refuses

Options with a flaw (`Given.flawed`) are refused before anything is read, and assignments that are
bad (`isBadAssignment`) while the base of all names is built. What is left makes sense for a batch
under settings that were checked (`Given.ready_parseOptions`).
-/

namespace NameTag.Command

open Act Session

variable {g : Given} {c : Console} {settings : Settings} {marker : Option Text}

/-! ## Options -/

/-- Whether the text is no weed. -/
def isBadWeed (w : Text) : Bool :=
  match Weed.compile (.text w) with
  | .ok _ => false
  | .error _ => true

theorem exists_of_isBadWeed {w : Text} (h : isBadWeed w = true) :
    ∃ e, Weed.compile (.text w) = .error e := by
  unfold isBadWeed at h
  split at h
  · cases h
  · next e he => exact ⟨e, he⟩

theorem exists_of_not_isBadWeed {w : Text} (h : isBadWeed w = false) :
    ∃ weed, Weed.compile (.text w) = .ok weed := by
  unfold isBadWeed at h
  split at h
  · next weed hweed => exact ⟨weed, hweed⟩
  · cases h

/-- Whether an option or the pattern is refused. -/
def Given.flawed (g : Given) : Bool :=
  g.caseMode.any (fun n => decide (n ∉ [0, 1, 2])) || g.weed.any isBadWeed ||
    g.threads.any (fun n => decide (n < 1)) || g.pattern.any (!Pattern.hasPlaceholder ·)

theorem isNone_ofValue?_int (n : Int) :
    (CaseMode.ofValue? (.int n)).isNone = decide (n ∉ [0, 1, 2]) := by
  have heq : ∀ k : Int, (Value.int n).equalsInt k = decide (n = k) := by
    intro k
    rw [Bool.eq_iff_iff]
    simp [Value.equalsInt, Value.number?]
  rw [CaseMode.ofValue?, heq, heq, heq]
  by_cases h0 : n = 0
  · simp [h0]
  · by_cases h1 : n = 1
    · simp [h1]
    · by_cases h2 : n = 2
      · simp [h2]
      · simp [h0, h1, h2]

/-- With a weed that compiles, or without one, the flaws are those of the other options. -/
theorem flaws_of_weed (h : g.weed.any isBadWeed = false) :
    g.flaws = .ok ((if g.caseMode.any (fun n => decide (n ∉ [0, 1, 2])) then [.caseMode] else []) ++
      (if g.threads.any (fun n => decide (n < 1)) then [.threads] else []) ++
      if g.pattern.any (!Pattern.hasPlaceholder ·) then [.pattern] else []) := by
  have hmode : (fun n : Int => (CaseMode.ofValue? (.int n)).isNone) =
      fun n => decide (n ∉ [0, 1, 2]) := funext isNone_ofValue?_int
  rw [Given.flaws, hmode]
  cases hw : g.weed with
  | none => simp; rfl
  | some w =>
    rw [hw, Option.any_some] at h
    obtain ⟨weed, hweed⟩ := exists_of_not_isBadWeed h
    simp [hweed]
    rfl

theorem checkOptions_of_not_flawed (h : g.flawed = false) (c : Console) :
    checkOptions g c = .ok () c := by
  simp only [Given.flawed, Bool.or_eq_false_iff] at h
  obtain ⟨⟨⟨hmode, hweed⟩, hthreads⟩, hpattern⟩ := h
  rw [checkOptions_run, flaws_of_weed hweed, hmode, hthreads, hpattern]
  rfl

/-- Options that are flawed are refused, unless compiling the weed overflows. -/
theorem checkOptions_of_flawed (h : g.flawed = true) (c : Console) :
    (∃ why, checkOptions g c = .error (.badValue why) c) ∨
      (∃ w ∈ g.weed, Weed.compile (.text w) = .error (.fault .overflow)) ∧
        checkOptions g c = .error .overflow c := by
  cases hweed : g.weed.any isBadWeed with
  | true =>
    obtain ⟨w, hw, hbad⟩ := (Option.any_eq_true _ _).1 hweed
    obtain ⟨e, he⟩ := exists_of_isBadWeed hbad
    obtain ⟨f, hcheck, hf, -⟩ := checkOptions_of_weed hw he c
    rcases refusal_or_overflow he hf with ⟨why, rfl⟩ | ⟨rfl, hover⟩
    · exact .inl ⟨why, hcheck⟩
    · exact .inr ⟨⟨w, hw, hover⟩, hcheck⟩
  | false =>
    rw [Given.flawed, hweed, Bool.or_false] at h
    rw [checkOptions_run, flaws_of_weed hweed]
    left
    cases hmode : g.caseMode.any fun n => decide (n ∉ [0, 1, 2]) with
    | true => exact ⟨_, rfl⟩
    | false =>
      cases hthreads : g.threads.any fun n => decide (n < 1) with
      | true => exact ⟨_, rfl⟩
      | false =>
        rw [hmode, hthreads, Bool.false_or, Bool.false_or] at h
        rw [h]
        exact ⟨_, rfl⟩

/-- Under checked settings, options without a flaw make sense for a batch. -/
theorem Given.ready_parseOptions (h : g.flawed = false) (hset : settings.Checked) {base : Tag}
    (hbase : base.HoldsTexts) (pattern : Text) : (g.parseOptions settings pattern base).Ready := by
  simp only [Given.flawed, Bool.or_eq_false_iff] at h
  obtain ⟨⟨⟨hmode, hweed⟩, -⟩, -⟩ := h
  refine ⟨?_, ?_, fun e he => hbase e (List.mem_of_mem_filter he)⟩
  · rw [Given.parseOptions]
    cases hg : g.caseMode with
    | none => exact hset.mode
    | some n =>
      rw [hg, Option.any_some, ← isNone_ofValue?_int, Option.isNone_eq_false_iff] at hmode
      exact .inr hmode
  · rw [Given.parseOptions]
    cases hg : g.weed with
    | none => exact hset.weed
    | some w =>
      rw [hg, Option.any_some] at hweed
      exact .inr (exists_of_not_isBadWeed hweed)

/-- Such options can be dispatched. -/
theorem exists_dispatch (h : g.flawed = false) (hset : settings.Checked) (total : Nat) :
    ∃ parallel, runsParallel settings total (orSetting .int g.threads .null) (.flag true) =
      .ok parallel := by
  simp only [Given.flawed, Bool.or_eq_false_iff] at h
  obtain ⟨⟨-, hthreads⟩, -⟩ := h
  refine exists_runsParallel hset ?_ _ _
  cases hg : g.threads with
  | none => exact .inl rfl
  | some n =>
    rw [hg, Option.any_some, decide_eq_false_iff_not, not_lt] at hthreads
    have hpos : (0 : Rat) < n := by exact_mod_cast hthreads
    exact .inr (congrArg Except.ok (decide_eq_true hpos))

/-! ## Assignments -/

/-- Whether the assignment is malformed, or its field does not accept its value. -/
def isBadAssignment (a : Text) : Bool :=
  match parseAssignment (.text a) with
  | .ok (f, value) => !f.accepts (Text.strip value)
  | .error _ => true

theorem isBadAssignment_eq_false_iff {a : Text} :
    isBadAssignment a = false ↔
      ∃ p, parseAssignment (.text a) = .ok p ∧ p.1.accepts (Text.strip p.2) = true := by
  rw [isBadAssignment]
  cases parseAssignment (.text a) with
  | error e => simp
  | ok p => simp

/-- What an assignment is refused for is a value. -/
theorem exists_badValue_of_parseAssignment {a : Text} {f : Fault}
    (h : parseAssignment (.text a) = .error f) : ∃ why, f = .badValue why := by
  unfold parseAssignment at h
  split at h
  · cases h
    exact ⟨_, rfl⟩
  · simp only at h
    split at h
    · cases h
      exact ⟨_, rfl⟩
    · split at h
      · cases h
        exact ⟨_, rfl⟩
      · split at h <;> cases h
        exact ⟨_, rfl⟩

theorem exists_badValue_of_assignAll {texts : List Text} {t : Tag} {s s' : Session} {f : Fault}
    (hmarker : s.settings.marker = .ofMarker marker) (ht : t.Textual)
    (h : (assignAll (.editable t) (texts.map .text)).run s = (.error f, s')) :
    ∃ why, f = .badValue why := by
  induction texts generalizing t s with
  | nil => cases h
  | cons a texts ih =>
    rw [List.map_cons, assignAll_cons] at h
    cases hp : parseAssignment (.text a) with
    | error e =>
      rw [hp] at h
      cases h
      exact exists_badValue_of_parseAssignment hp
    | ok p =>
      obtain ⟨report, s₁, hset, hsettings, -⟩ := setField_assign hmarker ht p
      rw [hp] at h
      simp only [hset] at h
      cases hproblem : report.problem? with
      | some problem =>
        rw [hproblem] at h
        cases h
        exact ⟨_, rfl⟩
      | none =>
        rw [hproblem] at h
        exact ih (hsettings ▸ hmarker) (ht.assign p) h

/-- A tag that is built from assignments holds texts, and is the same in every session with the
marker. -/
theorem buildTag_eq {texts : List Text} {base : Tag} {s s' : Session}
    (hmarker : s.settings.marker = .ofMarker marker)
    (h : (buildTag (.list (texts.map .text))).run s = (.ok base, s')) :
    base.HoldsTexts ∧ ∀ s₂ : Session, s₂.settings.marker = .ofMarker marker →
      ((buildTag (.list (texts.map .text))).run s₂).1 = .ok base := by
  have hbuilt := (buildTag_list_eq_ok_iff hmarker).1 ⟨s', h⟩
  obtain ⟨v, hv⟩ := Tag.exists_ofTexts_foldl marker (fun _ => []) (assigned (texts.map .text))
  have htag : base = .ofTexts v := by rw [hbuilt.2, Tag.empty_eq_ofTexts, hv]
  refine ⟨?_, fun s₂ hm => ?_⟩
  · rw [htag]
    intro e he
    obtain ⟨f, -, rfl⟩ := List.mem_map.1 he
    exact ⟨v f, rfl⟩
  · obtain ⟨s₃, hrun⟩ := (buildTag_list_eq_ok_iff hm).2 hbuilt
    rw [hrun]

/-- The tag is built if no assignment is bad; otherwise a value is refused. -/
theorem buildTag_cases (texts : List Text) {s : Session}
    (hmarker : s.settings.marker = .ofMarker marker) :
    (texts.any isBadAssignment = false ∧
      ∃ base s', (buildTag (.list (texts.map .text))).run s = (.ok base, s')) ∨
    texts.any isBadAssignment = true ∧
      ∃ why s', (buildTag (.list (texts.map .text))).run s = (.error (.badValue why), s') := by
  have hgood : texts.any isBadAssignment = false ↔ ∀ e ∈ texts.map Value.text,
      ∃ p, parseAssignment e = .ok p ∧ p.1.accepts (Text.strip p.2) = true := by
    simp only [List.any_eq_false, Bool.not_eq_true, isBadAssignment_eq_false_iff,
      List.forall_mem_map]
  rcases hrun : (buildTag (.list (texts.map .text))).run s with ⟨f | base, s'⟩
  · refine .inr ⟨?_, ?_⟩
    · rw [← Bool.not_eq_false, hgood]
      intro hall
      obtain ⟨s₁, hok⟩ := (buildTag_list_eq_ok_iff hmarker).2 ⟨hall, rfl⟩
      rw [hrun] at hok
      cases hok
    · rw [buildTag_run, assignments?_list] at hrun
      rcases hassign : (assignAll (.editable .empty) (texts.map .text)).run s with ⟨e | subject, s₁⟩
      · obtain ⟨why, rfl⟩ := exists_badValue_of_assignAll hmarker Tag.textual_empty hassign
        simp only [hassign] at hrun
        cases hrun
        exact ⟨why, _, rfl⟩
      · simp only [hassign] at hrun
        cases hrun
  · exact .inl ⟨hgood.2 ((buildTag_list_eq_ok_iff hmarker).1 ⟨s', hrun⟩).1, base, s', rfl⟩

theorem buildBase_of_badValue {why : BadValue} {session : Session} {texts : List Text}
    (h : (buildTag (.list (texts.map .text))).run c.session = (.error (.badValue why), session)) :
    ∃ c', buildBase texts c = .error (.badValue why) c' := by
  rw [buildBase, bind_of_ok (ofStep_run _ c), h]
  cases why with
  | assignmentRejected field problem =>
    obtain ⟨c', hrecord, -⟩ :=
      passes_recordProblem "store_field" problem { c with session := session }
    exact ⟨c', bind_of_ok hrecord⟩
  | _ => exact ⟨_, rfl⟩

end NameTag.Command
