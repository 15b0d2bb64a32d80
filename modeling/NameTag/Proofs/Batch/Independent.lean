import NameTag.Proofs.Batch.Dispatch
import NameTag.Proofs.Extract.Faultless
import NameTag.Proofs.Extract.Leftmost
import Mathlib.Data.Rat.Cast.Order

/-!
# Batches of independent items

A batch of names gives for each name what the name gives alone, whatever the dispatch
(`Session.parseBatch_independent`). This needs that no item ends in a fault: the base holds texts and
compiling the weed gives a weed or a problem.
-/

namespace NameTag

open Pattern

/-! ## Counts -/

namespace Summary

variable {α : Type} (passed unchanged : α → Bool)

/-- Two batches as one. -/
def append (a b : Summary α) : Summary α where
  processed := a.processed + b.processed
  successful := a.successful + b.successful
  failed := a.failed + b.failed
  unchanged := a.unchanged + b.unchanged
  results := a.results ++ b.results

theorem successful_add_failed (results : List α) :
    (ofResults passed unchanged results).successful + (ofResults passed unchanged results).failed =
      results.length :=
  Nat.add_sub_cancel' List.countP_le_length

theorem ofResults_append (as bs : List α) :
    ofResults passed unchanged (as ++ bs) =
      (ofResults passed unchanged as).append (ofResults passed unchanged bs) := by
  have ha : as.countP passed ≤ as.length := List.countP_le_length
  have hb : bs.countP passed ≤ bs.length := List.countP_le_length
  simp only [ofResults, append, List.countP_append, List.length_append, Summary.mk.injEq,
    and_true, true_and]
  omega

/-- The summary of a batch of names. -/
def ofItems (items : List ParsedItem) : Summary ParsedItem :=
  .ofResults (·.passed) (·.changed == 0) items

/-- If the items that pass have all changed as many fields, all of them are unchanged or none. -/
theorem unchanged_ofItems {items : List ParsedItem} {n : Nat}
    (h : ∀ a ∈ items, a.passed = true → a.changed = n) :
    (ofItems items).unchanged = if n = 0 then (ofItems items).successful else 0 := by
  show items.countP (fun a => a.passed && (a.changed == 0)) = _
  split
  · next hn =>
    refine List.countP_congr fun a ha => ?_
    rw [Bool.and_eq_true, and_iff_left_iff_imp]
    intro hpassed
    rw [h a ha hpassed, hn]
    rfl
  · next hn =>
    rw [List.countP_eq_zero]
    intro a ha hand
    rw [Bool.and_eq_true, beq_iff_eq] at hand
    exact hn ((h a ha hand.1).symm.trans hand.2)

end Summary

/-! ## Items -/

/-- A faultless edit of a tag with the property gives a report. -/
theorem Edit.Faultless.exists_report {α : Type} {P : Tag → Prop} {x : Edit α}
    (hx : x.Faultless P) {t : Tag} (ht : P t) : ∃ r, (x.run (.editable t)).1.report = .ok r := by
  rw [Edit.run]
  cases hrun : x ⟨.editable t, []⟩ with
  | ok a d => exact ⟨_, rfl⟩
  | error e d =>
    obtain ⟨p, rfl⟩ := hx.problem ⟨t, rfl, ht⟩ hrun
    exact ⟨_, rfl⟩

/-- The subject is a tag that holds texts, or it counts as false. -/
def Subject.IsBase : Subject → Prop
  | .editable t | .readOnly t => t.HoldsTexts
  | .other v => v.isTrue = false

theorem Subject.IsBase.exists_baseTag {base : Subject} (h : base.IsBase) :
    ∃ t, base.baseTag = .ok t ∧ t.HoldsTexts := by
  cases base with
  | editable t => exact ⟨_, rfl, Tag.holdsTexts_empty.update h⟩
  | readOnly t => exact ⟨_, rfl, Tag.holdsTexts_empty.update h⟩
  | other v =>
    have hv : v.isTrue = false := h
    exact ⟨.empty, by simp [Subject.baseTag, hv], Tag.holdsTexts_empty⟩

theorem ParseOptions.exists_source (o : ParseOptions) (name : Text) :
    ∃ source, o.source (.text name) = .ok source := by
  rw [ParseOptions.source]
  split
  · exact ⟨_, rfl⟩
  · exact ⟨_, rfl⟩

/-- The threshold for a parallel run and the number of workers are whole numbers, and there are
workers. -/
structure Settings.Dispatches (s : Settings) (least workers : Nat) : Prop where
  minParallel : s.minParallel = .int least
  maxWorkers : s.maxWorkers = .int workers
  workers_pos : 0 < workers

namespace Session

variable {marker : Option Text} {o : ParseOptions} {p : Text}

/-- Whatever the session, an item that is a text gives the same and records its report. If it passes
it has changed a field for every placeholder that is not dropped. -/
theorem exists_gives (marker : Option Text) (hp : o.pattern = .text p)
    (hweed : ∀ f, Weed.compile o.weed ≠ .error (.fault f)) (hbase : o.base.IsBase) (name : Text) :
    ∃ a : ParsedItem, Gives (.ofMarker marker) (parseItem o) ParsedItem.report (.text name) a ∧
      (a.passed = true → a.changed = storedCount (tokens (normalize (Text.strip p)))) := by
  obtain ⟨source, hsource⟩ := o.exists_source name
  obtain ⟨t, ht, htexts⟩ := hbase.exists_baseTag
  obtain ⟨report, hreport⟩ :=
    (Edit.faultless_extract marker hweed source o.pattern o.mode).exists_report htexts
  refine ⟨_, fun s hs => parseItem_of_report hsource ht hreport hs, fun hpassed => ?_⟩
  obtain ⟨_ | n, ws⟩ := report
  · cases hpassed
  · have hrun := Edit.run_eq_ok_iff.1 (Prod.ext (Outcome.eq_of_report hreport) rfl)
    rw [hp] at hrun
    exact Edit.extract_count hrun

/-! ## Dispatch -/

/-- The number of workers that counts is a positive number. -/
theorem exists_workers {settings : Settings} {least workers : Nat}
    (h : settings.Dispatches least workers) {maxWorkers : Value}
    (hm : maxWorkers = .null ∨ ∃ n : Nat, maxWorkers = .int n) :
    ∃ n : Nat, 0 < n ∧
      (if maxWorkers.isTrue then maxWorkers else settings.maxWorkers) = .int n := by
  rcases hm with rfl | ⟨n, rfl⟩
  · exact ⟨workers, h.workers_pos, h.maxWorkers⟩
  · by_cases hn : n = 0
    · subst hn
      exact ⟨workers, h.workers_pos, h.maxWorkers⟩
    · exact ⟨n, Nat.pos_of_ne_zero hn, by simp [Value.isTrue, hn]⟩

theorem runsParallel_eq {settings : Settings} {least workers : Nat}
    (h : settings.Dispatches least workers) {maxWorkers : Value}
    (hm : maxWorkers = .null ∨ ∃ n : Nat, maxWorkers = .int n) (useParallel : Value) (total : Nat) :
    runsParallel settings total maxWorkers useParallel =
      .ok (decide (useParallel.isTrue = true ∧ least ≤ total ∧ maxWorkers.equalsInt 1 = false)) := by
  have hleast : settings.minParallel.number? = some (least : Rat) := by
    rw [h.minParallel]
    rfl
  obtain ⟨n, hn, hworkers⟩ := exists_workers h hm
  have hpos : Settings.isPositive (.int n) = .ok true := by
    simp [Settings.isPositive, Value.number?, hn]
  unfold runsParallel
  rw [hleast, hworkers]
  by_cases hu : useParallel.isTrue = true
  · by_cases hl : least ≤ total
    · cases hone : maxWorkers.equalsInt 1
      · simp [hu, hl, Nat.not_lt.2 hl, hpos]
        rfl
      · simp [hu]
        rfl
    · simp [hu, hl, Nat.not_le.1 hl]
      rfl
  · simp [hu]
    rfl

/-- Each name gives the same item alone and in any batch, in parallel or in sequence, whatever the
threshold and the workers are; all items start from the same base. A batch in sequence records the
items' warnings in order, one in parallel nothing. The counts add up, over two batches in one too.
Nothing passes unchanged unless every placeholder of the pattern is dropped, and then whatever passes
does. -/
theorem parseBatch_independent (marker : Option Text) (hp : o.pattern = .text p)
    (hweed : ∀ f, Weed.compile o.weed ≠ .error (.fault f)) (hbase : o.base.IsBase) :
    ∃ item : Text → ParsedItem,
      (∀ name (s : Session), s.settings.marker = .ofMarker marker →
        (parseItem o (.text name)).run s = (.ok (item name), s.note (item name).report)) ∧
      ∀ names : List Text,
        let summary := Summary.ofItems (names.map item)
        (∀ (s : Session) least workers maxWorkers useParallel,
          s.settings.marker = .ofMarker marker → s.settings.Dispatches least workers →
          (maxWorkers = .null ∨ ∃ n : Nat, maxWorkers = .int n) →
          (parseBatch o (.list (names.map .text)) maxWorkers useParallel).run s =
            (.ok summary,
              if useParallel.isTrue = true ∧ least ≤ names.length ∧ maxWorkers.equalsInt 1 = false
              then s
              else { s with
                pending := s.pending ++ names.flatMap fun name => (item name).report.warnings
                lastProblem := (names.filterMap fun name =>
                  (item name).report.problem?).getLast?.or s.lastProblem })) ∧
        summary.processed = names.length ∧
        summary.successful + summary.failed = names.length ∧
        summary.unchanged =
          (if ∀ name ∈ placeholders (tokens (normalize (Text.strip p))), name = Field.ignored
          then summary.successful else 0) ∧
        ∀ more : List Text,
          Summary.ofItems ((names ++ more).map item) =
            summary.append (Summary.ofItems (more.map item)) := by
  choose item hgives hchanged using exists_gives marker hp hweed hbase
  refine ⟨item, hgives, fun names => ⟨?_, ?_, ?_, ?_, fun more => ?_⟩⟩
  · intro s least workers maxWorkers useParallel hs hd hm
    have hitems : List.Forall₂ (Gives (.ofMarker marker) (parseItem o) ParsedItem.report)
        (names.map .text) (names.map item) := by
      rw [List.forall₂_map_left_iff, List.forall₂_map_right_iff, List.forall₂_same]
      exact fun name _ => hgives name
    have hpar := runsParallel_eq hd hm useParallel (names.map Value.text).length
    rw [parseBatch_run rfl, runItems_run_of_gives hitems hs hpar, List.length_map, noteAll_eq,
      List.map_map, List.flatMap_map, List.filterMap_map]
    simp only [decide_eq_true_eq]
    rfl
  · exact List.length_map _
  · exact (Summary.successful_add_failed _ _ _).trans (List.length_map _)
  · rw [Summary.unchanged_ofItems (List.forall_mem_map.2 fun name _ => hchanged name)]
    have hcount : storedCount (tokens (normalize (Text.strip p))) = 0 ↔
        ∀ name ∈ placeholders (tokens (normalize (Text.strip p))), name = Field.ignored := by
      simp [storedCount, List.countP_eq_zero]
    simp only [hcount]
  · rw [List.map_append]
    exact Summary.ofResults_append _ _ _ _

/-- Two names, with a threshold of two. -/
theorem parseBatch_two_names :
    let base := Tag.mk [("ARTIST".toList, .text "Iron Maiden".toList)]
    let o : ParseOptions := { pattern := .text "((TITLE))".toList, base := .readOnly base }
    let names := Value.list (["Aces High".toList, "Powerslave".toList].map .text)
    let s : Session := { settings := { minParallel := .int 2 } }
    ∃ summary : Summary ParsedItem, summary.processed = 2 ∧ summary.unchanged = 0 ∧
      (parseBatch o names .null (.flag true)).run s = (.ok summary, s) ∧
      ((parseBatch o names .null (.flag false)).run s).1 = .ok summary := by
  intro base o names s
  have hweed : ∀ f, Weed.compile .null ≠ .error (.fault f) := by
    intro f h
    cases h
  have hbase : o.base.IsBase := by
    intro e he
    rw [List.mem_singleton.1 he]
    exact ⟨_, rfl⟩
  have hd : s.settings.Dispatches 2 8 := ⟨rfl, rfl, by decide⟩
  have hfield : ¬ ∀ name ∈ placeholders (tokens (normalize (Text.strip "((TITLE))".toList))),
      name = Field.ignored := by
    decide +kernel
  obtain ⟨item, -, hbatch⟩ := parseBatch_independent none (o := o) rfl hweed hbase
  obtain ⟨hrun, hprocessed, -, hunchanged, -⟩ := hbatch ["Aces High".toList, "Powerslave".toList]
  refine ⟨_, hprocessed, hunchanged.trans (if_neg hfield), ?_, ?_⟩
  · rw [hrun s 2 8 .null (.flag true) rfl hd (.inl rfl), if_pos ⟨rfl, by decide, rfl⟩]
  · rw [hrun s 2 8 .null (.flag false) rfl hd (.inl rfl)]

end Session

end NameTag
