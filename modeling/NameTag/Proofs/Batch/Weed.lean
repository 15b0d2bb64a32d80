import NameTag.Proofs.Batch.Independent

/-!
# Batches with any weed

A batch of names gives a result for every name, unless compiling the weed ends in a fault and some name
can be read along the pattern (`ParseOptions.Escapes`). Then this fault ends the batch.
-/

namespace NameTag

namespace ParseOptions

/-- The pattern is a text, the mode is known or none, the weed is this text or none, and the base holds
texts. -/
structure Proper (o : ParseOptions) (p w : Text) : Prop where
  pattern : o.pattern = .text p
  mode : o.mode = .null ∨ (CaseMode.ofValue? o.mode).isSome = true
  weed : o.weed = .null ∨ o.weed = .text w
  base : o.base.IsBase

/-- The text that is read of a name. -/
def sourceText (o : ParseOptions) (name : Text) : Text :=
  if o.stripExtension.isTrue then Text.stem name else name

theorem source_text (o : ParseOptions) (name : Text) :
    o.source (.text name) = .ok (.text (o.sourceText name)) := by
  unfold source sourceText
  split <;> rfl

/-- Compiling the weed ends in the fault, and one of the names can be read along the pattern. -/
structure Escapes (o : ParseOptions) (p : Text) (names : List Text) (f : Fault) : Prop where
  weed : Weed.compile o.weed = .error (.fault f)
  readable : ∃ name ∈ names, Edit.Readable (o.sourceText name) p

end ParseOptions


namespace Session

variable {o : ParseOptions} {p w name : Text} {names : List Text} {f : Fault}

/-- In any session with the marker the item gives a result for the name. -/
def GivesItem (marker : Option Text) (o : ParseOptions) (name : Text) : Prop :=
  ∃ a : ParsedItem, a.name = .text name ∧
    Gives (.ofMarker marker) (parseItem o) ParsedItem.report (.text name) a

/-- An item whose extraction gives a report on every tag of texts gives a result. -/
theorem givesItem_of_report {marker : Option Text} (hbase : o.base.IsBase)
    (h : ∀ t : Tag, t.HoldsTexts → ∃ report, ((Edit.extract (.ofMarker marker)
      (.text (o.sourceText name)) o.pattern o.mode o.weed).run (.editable t)).1.report =
        .ok report) :
    GivesItem marker o name := by
  obtain ⟨t, ht, htexts⟩ := hbase.exists_baseTag
  obtain ⟨report, hreport⟩ := h t htexts
  exact ⟨_, rfl, fun s hs => parseItem_of_report (o.source_text name) ht hreport hs⟩

theorem givesItem_of_weed (marker : Option Text) (ho : o.Proper p w)
    (hw : ∀ f, Weed.compile o.weed ≠ .error (.fault f)) : GivesItem marker o name :=
  givesItem_of_report ho.base fun _ ht =>
    (Edit.faultless_extract marker hw _ o.pattern o.mode).exists_report ht

theorem givesItem_of_not_readable (marker : Option Text) (ho : o.Proper p w)
    (hr : ¬ Edit.Readable (o.sourceText name) p) : GivesItem marker o name := by
  refine givesItem_of_report ho.base fun t _ => ?_
  obtain ⟨problem, hproblem⟩ :=
    Edit.extract_of_not_readable (.ofMarker marker) o.mode o.weed hr ⟨.editable t, []⟩
  rw [ho.pattern, Edit.run, hproblem]
  exact ⟨⟨.error problem, []⟩, rfl⟩

/-- What can be read ends in the fault of the weed. -/
theorem faults_of_readable (marker : Option Text) (ho : o.Proper p w)
    (hf : Weed.compile o.weed = .error (.fault f)) (hr : Edit.Readable (o.sourceText name) p) :
    Faults (.ofMarker marker) (parseItem o) f (.text name) := by
  have hw : o.weed = .text w := by
    rcases ho.weed with hnull | hw
    · rw [hnull] at hf
      cases hf
    · exact hw
  obtain ⟨t, ht, -⟩ := ho.base.exists_baseTag
  rw [hw] at hf
  have hextract : ∀ marker, Edit.extract marker (.text (o.sourceText name)) (.text p) o.mode
      (.text w) ⟨.editable t, []⟩ = .error (.fault f) ⟨.editable t, []⟩ := fun marker =>
    Edit.extract_of_weed_error hr ho.mode hf
  intro s hs
  rw [parseItem_run, o.source_text, ht]
  simp only [parse, perform_run]
  rw [ho.pattern, hw, Edit.run, hextract]
  rfl

/-- A batch whose names all give results gives a summary with one result for each name, in order. -/
theorem exists_summary {marker : Option Text} {s : Session} {least workers : Nat}
    {maxWorkers : Value} (h : ∀ name ∈ names, GivesItem marker o name)
    (hs : s.settings.marker = .ofMarker marker) (hd : s.settings.Dispatches least workers)
    (hm : maxWorkers = .null ∨ ∃ n : Nat, maxWorkers = .int n) (useParallel : Value) :
    ∃ summary, ((parseBatch o (.list (names.map .text)) maxWorkers useParallel).run s).1 =
        .ok summary ∧
      summary.results.map ParsedItem.name = names.map .text := by
  have hitems : ∃ items : List ParsedItem, items.map ParsedItem.name = names.map .text ∧
      List.Forall₂ (Gives (.ofMarker marker) (parseItem o) ParsedItem.report)
        (names.map .text) items := by
    induction names with
    | nil => exact ⟨[], rfl, .nil⟩
    | cons name names ih =>
      obtain ⟨⟨a, ha, hgives⟩, hnames⟩ := List.forall_mem_cons.1 h
      obtain ⟨items, hitems, hall⟩ := ih hnames
      exact ⟨a :: items, by rw [List.map_cons, List.map_cons, ha, hitems], .cons hgives hall⟩
  obtain ⟨items, hnames, hgives⟩ := hitems
  refine ⟨Summary.ofItems items, ?_, hnames⟩
  rw [parseBatch_run rfl, runItems_run_of_gives hgives hs (runsParallel_eq hd hm useParallel _)]
  rfl

/-- A fault of the weed ends a batch in which a name can be read; otherwise every name has a result. -/
theorem parseBatch_of_proper {marker : Option Text} {s : Session} {least workers : Nat}
    {maxWorkers : Value} (ho : o.Proper p w) (hs : s.settings.marker = .ofMarker marker)
    (hd : s.settings.Dispatches least workers)
    (hm : maxWorkers = .null ∨ ∃ n : Nat, maxWorkers = .int n) (useParallel : Value) :
    let result := ((parseBatch o (.list (names.map .text)) maxWorkers useParallel).run s).1
    (∀ f, o.Escapes p names f → result = .error f) ∧
      ((∀ f, ¬ o.Escapes p names f) → ∃ summary, result = .ok summary ∧
        summary.results.map ParsedItem.name = names.map .text) := by
  refine ⟨fun f hf => ?_, fun hnone => exists_summary (fun name hmem => ?_) hs hd hm useParallel⟩
  · have hitems : ∀ item ∈ names.map Value.text,
        Faults (.ofMarker marker) (parseItem o) f item ∨
          ∃ a, Gives (.ofMarker marker) (parseItem o) ParsedItem.report item a := by
      refine List.forall_mem_map.2 fun name _ => ?_
      by_cases hr : Edit.Readable (o.sourceText name) p
      · exact .inl (faults_of_readable marker ho hf.weed hr)
      · obtain ⟨a, -, ha⟩ := givesItem_of_not_readable marker ho hr
        exact .inr ⟨a, ha⟩
    obtain ⟨name, hmem, hr⟩ := hf.readable
    have hsome : ∃ item ∈ names.map Value.text, Faults (.ofMarker marker) (parseItem o) f item :=
      ⟨_, List.mem_map_of_mem hmem, faults_of_readable marker ho hf.weed hr⟩
    rw [parseBatch_run rfl]
    rw [runItems_of_faults hitems hsome hs (runsParallel_eq hd hm useParallel _)]
    rfl
  · by_cases hr : Edit.Readable (o.sourceText name) p
    · exact givesItem_of_weed marker ho fun f hf => hnone f ⟨hf, name, hmem, hr⟩
    · exact givesItem_of_not_readable marker ho hr

end Session

end NameTag
