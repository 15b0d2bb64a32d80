import NameTag.Proofs.Session
import NameTag.Proofs.StoreOrder

/-!
# The order of assignments

An assignment stores its text if the field accepts it. Assignments to different fields commute, so
the order in which values are assigned does not matter, neither to the tag nor to which of them
succeed (`Session.assignEach_perm`).
-/

namespace NameTag

namespace Tag

variable {marker : Option Text} {t u : Tag}

/-- The tag after an assignment: the text is stored if the field accepts it. -/
def assign (marker : Option Text) (t : Tag) (a : Field × Text) : Tag :=
  if a.1.accepts (Text.strip a.2) then t.put marker a.1 (Text.strip a.2) else t

theorem Textual.assign (ht : t.Textual) (a : Field × Text) : (t.assign marker a).Textual := by
  rw [Tag.assign]
  split
  · exact ht.put _ _
  · exact ht

theorem Agree.assign (h : t.Agree u) (a : Field × Text) :
    (t.assign marker a).Agree (u.assign marker a) := by
  rw [Tag.assign, Tag.assign]
  split
  · exact h.put _ _
  · exact h

theorem assign_comm (hm : Text.ProperMarker marker) (hfit : Text.FitsAlike marker 28 30)
    {a b : Field × Text} (hab : a.1 ≠ b.1) :
    ((t.assign marker a).assign marker b).Agree ((t.assign marker b).assign marker a) := by
  unfold assign
  by_cases ha : a.1.accepts (Text.strip a.2) = true
  · by_cases hb : b.1.accepts (Text.strip b.2) = true
    · rw [if_pos ha, if_pos hb, if_pos ha, if_pos hb]
      exact put_comm hm hfit hab ha hb
    · rw [if_pos ha, if_neg hb, if_neg hb, if_pos ha]
      exact .refl _
  · rw [if_neg ha, if_neg ha]
    exact .refl _

theorem Agree.foldl_assign (h : t.Agree u) (l : List (Field × Text)) :
    (l.foldl (Tag.assign marker) t).Agree (l.foldl (Tag.assign marker) u) := by
  induction l generalizing t u with
  | nil => exact h
  | cons a l ih => exact ih (h.assign a)

/-- Assignments to different fields in any order lead to tags that agree. -/
theorem foldl_assign_perm (hm : Text.ProperMarker marker) (hfit : Text.FitsAlike marker 28 30)
    {l l' : List (Field × Text)} (hperm : l.Perm l') (hd : (l.map (·.1)).Nodup) (t : Tag) :
    (l.foldl (assign marker) t).Agree (l'.foldl (assign marker) t) := by
  induction hperm generalizing t with
  | nil => exact .refl t
  | cons a _ ih =>
    rw [List.map_cons, List.nodup_cons] at hd
    exact ih hd.2 (t.assign marker a)
  | swap a b l =>
    have hne : b.1 ≠ a.1 := by
      simp only [List.map_cons, List.nodup_cons, List.mem_cons, not_or] at hd
      exact hd.1.1
    exact (assign_comm hm hfit hne).foldl_assign l
  | trans h₁ _ ih₁ ih₂ =>
    exact (ih₁ hd t).trans (ih₂ ((h₁.map _).nodup_iff.1 hd) t)

theorem exists_ofTexts_assign (marker : Option Text) (v : Field → Text) (a : Field × Text) :
    ∃ w, (ofTexts v).assign marker a = ofTexts w := by
  rw [assign, put]
  split
  · split
    · rw [shortened_ofTexts, setText_ofTexts]
      exact ⟨_, rfl⟩
    · rw [setText_ofTexts]
      exact ⟨_, rfl⟩
  · exact ⟨v, rfl⟩

theorem exists_ofTexts_foldl (marker : Option Text) (v : Field → Text) (l : List (Field × Text)) :
    ∃ w, l.foldl (assign marker) (ofTexts v) = ofTexts w := by
  induction l generalizing v with
  | nil => exact ⟨v, rfl⟩
  | cons a l ih =>
    obtain ⟨w, hw⟩ := exists_ofTexts_assign marker v a
    rw [List.foldl_cons, hw]
    exact ih w

end Tag

/-! ## Sessions -/

namespace Session

variable {marker : Option Text} {t : Tag} {s : Session}

/-- Whether a store succeeded. -/
def stored (result : Except Fault (Report Text)) : Bool :=
  match result with
  | .ok report => report.passed
  | .error _ => false

/-- Makes assignments one after the other, and gives for each whether it succeeded. -/
def assignEach (subject : Subject) :
    List (Field × Text) → Step (List ((Field × Text) × Bool) × Subject)
  | [] => pure ([], subject)
  | a :: rest => do
    let (result, after) ← setField subject (.text a.1.name) (.text a.2)
    let (others, last) ← assignEach after rest
    pure ((a, stored result) :: others, last)

/-- A store into a tag of texts gives a report, and the tag after the assignment. -/
theorem setField_assign (hmarker : s.settings.marker = .ofMarker marker) (ht : t.Textual)
    (a : Field × Text) :
    ∃ report s₁, setField (.editable t) (.text a.1.name) (.text a.2) s =
        ((.ok report, .editable (t.assign marker a)), s₁) ∧
      s₁.settings = s.settings ∧ report.passed = a.1.accepts (Text.strip a.2) := by
  rw [setField, perform_eq, hmarker, Edit.run, Edit.store_name, Edit.storeText_textual ht,
    Tag.assign]
  cases a.1.accepts (Text.strip a.2) <;> exact ⟨_, _, rfl, rfl, rfl⟩

theorem assignEach_eq (hmarker : s.settings.marker = .ofMarker marker) (ht : t.Textual)
    (l : List (Field × Text)) :
    (assignEach (.editable t) l s).1 =
      (l.map fun a => (a, a.1.accepts (Text.strip a.2)),
        .editable (l.foldl (Tag.assign marker) t)) := by
  induction l generalizing t s with
  | nil => rfl
  | cons a l ih =>
    obtain ⟨report, s₁, hset, hsettings, hr⟩ := setField_assign hmarker ht a
    have hstep : (assignEach (.editable t) (a :: l) s).1 =
        ((a, report.passed) :: (assignEach (.editable (t.assign marker a)) l s₁).1.1,
          (assignEach (.editable (t.assign marker a)) l s₁).1.2) := by
      show (match setField (.editable t) (.text a.1.name) (.text a.2) s with
        | ((result, after), s₁) => ((a, stored result) :: (assignEach after l s₁).1.1,
            (assignEach after l s₁).1.2)) = _
      rw [hset]
      rfl
    rw [hstep, hr, ih (hsettings ▸ hmarker) (ht.assign a)]
    rfl

end Session

namespace Command

open Session

variable {marker : Option Text} {t : Tag} {s s' : Session}

/-- The assignments that are well formed. -/
def assigned (exprs : List Value) : List (Field × Text) :=
  exprs.filterMap fun e => (parseAssignment e).toOption

/-- All assignments are made if they are well formed and each field accepts its text. -/
theorem assignAll_eq_ok_iff {exprs : List Value} {subject : Subject}
    (hmarker : s.settings.marker = .ofMarker marker) (ht : t.Textual) :
    (∃ s', (assignAll (.editable t) exprs).run s = (.ok subject, s')) ↔
      (∀ e ∈ exprs, ∃ a, parseAssignment e = .ok a ∧ a.1.accepts (Text.strip a.2) = true) ∧
        subject = .editable ((assigned exprs).foldl (Tag.assign marker) t) := by
  induction exprs generalizing t s with
  | nil =>
    constructor
    · rintro ⟨s', h⟩
      cases h
      exact ⟨by simp, rfl⟩
    · rintro ⟨-, rfl⟩
      exact ⟨s, rfl⟩
  | cons e exprs ih =>
    rw [List.forall_mem_cons]
    cases hp : parseAssignment e with
    | error fault =>
      constructor
      · rintro ⟨s', h⟩
        rw [assignAll_cons, hp] at h
        cases h
      · rintro ⟨⟨⟨a, ha, -⟩, -⟩, -⟩
        cases ha
    | ok a =>
      obtain ⟨report, s₁, hset, hsettings, hr⟩ := setField_assign hmarker ht a
      have ht₁ : (t.assign marker a).Textual := ht.assign a
      have hmarker₁ : s₁.settings.marker = .ofMarker marker := hsettings ▸ hmarker
      have hassigned : assigned (e :: exprs) = a :: assigned exprs := by
        simp [assigned, hp, Except.toOption]
      rw [hassigned, List.foldl_cons, and_assoc, ← ih hmarker₁ ht₁, assignAll_cons, hp]
      simp only [hset]
      cases hproblem : report.problem? with
      | none =>
        have hpassed : report.passed = true := Report.passed_iff.2 hproblem
        rw [hr] at hpassed
        exact ⟨fun h => ⟨⟨a, rfl, hpassed⟩, h⟩, fun h => h.2⟩
      | some p =>
        have hpassed : report.passed ≠ true := fun h => by
          rw [Report.passed_iff.1 h] at hproblem
          cases hproblem
        rw [hr] at hpassed
        constructor
        · rintro ⟨s', h⟩
          cases h
        · rintro ⟨⟨_, ha, hacc⟩, -⟩
          cases ha
          exact absurd hacc hpassed

theorem buildTag_list_eq_ok_iff {exprs : List Value}
    (hmarker : s.settings.marker = .ofMarker marker) :
    (∃ s', (buildTag (.list exprs)).run s = (.ok t, s')) ↔
      (∀ e ∈ exprs, ∃ a, parseAssignment e = .ok a ∧ a.1.accepts (Text.strip a.2) = true) ∧
        t = (assigned exprs).foldl (Tag.assign marker) .empty := by
  rw [buildTag_run, assignments?_list]
  constructor
  · rintro ⟨s', h⟩
    rcases hrun : (assignAll (.editable .empty) exprs).run s with ⟨result, s₁⟩
    simp only [hrun] at h
    cases result with
    | error e => cases h
    | ok subject =>
      obtain ⟨hacc, rfl⟩ := (assignAll_eq_ok_iff hmarker Tag.textual_empty).1 ⟨s₁, hrun⟩
      cases h
      exact ⟨hacc, rfl⟩
  · rintro ⟨hacc, rfl⟩
    obtain ⟨s', h⟩ := (assignAll_eq_ok_iff hmarker Tag.textual_empty).2 ⟨hacc, rfl⟩
    exact ⟨s', by simp only [h]; rfl⟩

end Command

namespace Session

/-- Assignments to different fields lead in every order to tags that hold the same values, and each
succeeds in one order if it succeeds in the other. So a tag that is built from assignments is the
same for every order. No marker may be one that is cut off a comment beside a track number only. -/
theorem assignEach_perm {marker : Option Text} {s : Session}
    (hs : s.settings.marker = .ofMarker marker)
    (hm : ∀ m ∈ marker, m ≠ [] ∧ Text.RightStripped m ∧ m.length ≠ 28 ∧ m.length ≠ 29) :
    (∀ (t : Tag) (l l' : List (Field × Text)), t.Textual → l.Perm l' → (l.map (·.1)).Nodup →
      ∃ t₁ t₂, (assignEach (.editable t) l s).1.2 = .editable t₁ ∧
        (assignEach (.editable t) l' s).1.2 = .editable t₂ ∧ t₁.Agree t₂ ∧
        (assignEach (.editable t) l s).1.1.Perm (assignEach (.editable t) l' s).1.1) ∧
    ∀ (exprs exprs' : List Value) (t : Tag) (s₁ : Session), exprs.Perm exprs' →
      ((Command.assigned exprs).map (·.1)).Nodup →
      (Command.buildTag (.list exprs)).run s = (.ok t, s₁) →
      ∃ s₂, (Command.buildTag (.list exprs')).run s = (.ok t, s₂) := by
  have hproper : Text.ProperMarker marker := fun m h => ⟨(hm m h).1, (hm m h).2.1⟩
  have hfit := Text.fitsAlike_comment fun m h => (hm m h).2.2
  constructor
  · intro t l l' ht hperm hd
    rw [assignEach_eq hs ht, assignEach_eq hs ht]
    exact ⟨_, _, rfl, rfl, Tag.foldl_assign_perm hproper hfit hperm hd t, hperm.map _⟩
  · intro exprs exprs' t s₁ hperm hd hbuild
    obtain ⟨hacc, rfl⟩ := (Command.buildTag_list_eq_ok_iff hs).1 ⟨s₁, hbuild⟩
    refine (Command.buildTag_list_eq_ok_iff hs).2 ⟨fun e he => hacc e (hperm.mem_iff.2 he), ?_⟩
    have hagree := Tag.foldl_assign_perm hproper hfit
      (hperm.filterMap fun e => (Command.parseAssignment e).toOption) hd (.ofTexts fun _ => [])
    obtain ⟨v, hv⟩ := Tag.exists_ofTexts_foldl marker (fun _ => []) (Command.assigned exprs)
    obtain ⟨w, hw⟩ := Tag.exists_ofTexts_foldl marker (fun _ => []) (Command.assigned exprs')
    rw [← Command.assigned, ← Command.assigned, hv, hw] at hagree
    rw [Tag.empty_eq_ofTexts, hv, hw, hagree.eq_of_ofTexts]

/-- A long comment and a track number, with a marker. -/
theorem assignEach_perm_comment_number :
    let s : Session := { settings := { marker := .text "..".toList } }
    let comment := (Field.comment, List.replicate 40 'c')
    let number := (Field.trackNumber, "7".toList)
    ∃ t₁ t₂, (assignEach (.editable .empty) [comment, number] s).1.2 = .editable t₁ ∧
      (assignEach (.editable .empty) [number, comment] s).1.2 = .editable t₂ ∧ t₁.Agree t₂ ∧
      (assignEach (.editable .empty) [comment, number] s).1.1.Perm
        (assignEach (.editable .empty) [number, comment] s).1.1 := by
  intro s comment number
  have hs : s.settings.marker = .ofMarker (some "..".toList) := rfl
  refine (assignEach_perm hs ?_).1 .empty [comment, number] [number, comment]
    Tag.textual_empty (.swap _ _ _) (by simp [comment, number])
  rintro m hm
  cases hm
  refine ⟨by decide, ?_, by decide, by decide⟩
  intro c hc
  cases hc
  decide

end Session

end NameTag
