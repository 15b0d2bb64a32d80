import NameTag.Command.Run
import NameTag.Proofs.Value.Json
import Mathlib.Data.List.Basic

/-!
# What a report holds

An item of a value stands in the JSON text of the value, one level deeper, and so does an entry under
its name. So a report of a batch holds the warnings of every item (`Given.tells_report`), each on a line
of its own or all as an entry of the item's record.
-/

namespace NameTag

/-! ## Parts of a text -/

namespace Text

variable {sep part : Text} {parts : List Text}

theorem isInfix_flatMap {α : Type} {a : α} {as : List α} (h : a ∈ as) (f : α → Text) :
    f a <:+: as.flatMap f :=
  List.infix_of_mem_flatten (List.mem_map_of_mem h)

theorem isInfix_join (h : part ∈ parts) : part <:+: join sep parts := by
  unfold join
  induction parts with
  | nil => cases h
  | cons a parts ih =>
    cases parts with
    | nil =>
      rw [List.mem_singleton.1 h]
      simp
    | cons b parts =>
      rw [List.intercalate_cons_cons]
      rcases List.mem_cons.1 h with rfl | h
      · rw [List.append_assoc]
        exact (List.prefix_append _ _).isInfix
      · exact (ih h).trans (List.suffix_append _ _).isInfix

theorem isInfix_jsonBlock {opening closing : Char} {depth : Nat} (h : part ∈ parts) :
    part <:+: jsonBlock opening closing depth parts := by
  have hne : parts.isEmpty = false := by
    cases parts with
    | nil => cases h
    | cons a parts => rfl
  have hpart : newLine (depth + 1) ++ part <:+:
      join [','] (parts.map (newLine (depth + 1) ++ ·)) :=
    isInfix_join (List.mem_map.2 ⟨part, h, rfl⟩)
  rw [jsonBlock, hne, if_neg Bool.false_ne_true]
  have hjoined : join [','] (parts.map (newLine (depth + 1) ++ ·)) <:+:
      opening :: join [','] (parts.map (newLine (depth + 1) ++ ·)) ++ newLine depth ++ [closing] := by
    rw [List.append_assoc]
    exact ⟨[opening], newLine depth ++ [closing], by simp⟩
  exact ((List.suffix_append _ _).isInfix.trans hpart).trans hjoined

end Text

namespace Value

theorem isInfix_list {item : Value} {items : List Value} (h : item ∈ items) (depth : Nat) :
    item.jsonAt (depth + 1) <:+: (Value.list items).jsonAt depth := by
  rw [jsonAt, jsonItems_eq_map]
  exact Text.isInfix_jsonBlock (List.mem_map_of_mem h)

theorem isInfix_record {key : Text} {value : Value} {entries : List (Text × Value)}
    (h : (key, value) ∈ entries) (depth : Nat) :
    jsonEntry (depth + 1) key value <:+: (Value.record entries).jsonAt depth := by
  rw [jsonAt, jsonEntries_eq_map]
  exact Text.isInfix_jsonBlock (List.mem_map.2 ⟨_, h, rfl⟩)

theorem isInfix_ofEntries {key : String} {value : Value} {entries : List (String × Value)}
    (h : (key, value) ∈ entries) (depth : Nat) :
    jsonEntry (depth + 1) key.toList value <:+: (Value.ofEntries entries).jsonAt depth :=
  isInfix_record (List.mem_map.2 ⟨_, h, rfl⟩) depth

end Value

namespace Command

/-! ## Reports -/

/-- The report of a batch, as text or as JSON. -/
def Given.report (g : Given) (summary : Summary ParsedItem) : Text :=
  if g.json then (summary.toValue ParsedItem.toValue).json ++ ['\n']
  else batchReport summary g.showEmpty

/-- The line of a warning. -/
def warningLine (w : Warning) : Text :=
  "WARNING: ".toList ++ w.message ++ ['\n']

/-- The text holds the warnings of an item: all of them as the entry of a record, or each on a line. -/
def Given.Tells (g : Given) (report : Text) (ws : List Warning) : Prop :=
  if g.json then
    Value.jsonEntry 3 "warnings".toList (.list (ws.map fun w => .text w.message)) <:+: report
  else ∀ w ∈ ws, "  ".toList ++ warningLine w <:+: report

theorem isInfix_itemReport {item : ParsedItem} {w : Warning} (h : w ∈ item.report.warnings)
    (showEmpty : Bool) : "  ".toList ++ warningLine w <:+: itemReport item showEmpty := by
  have hline : "  ".toList ++ warningLine w <:+:
      item.report.warnings.flatMap fun w => "  WARNING: ".toList ++ w.message ++ ['\n'] :=
    Text.isInfix_flatMap h fun w => "  WARNING: ".toList ++ w.message ++ ['\n']
  exact hline.trans (List.suffix_append _ _).isInfix

theorem itemReport_isInfix {summary : Summary ParsedItem} {item : ParsedItem}
    (h : item ∈ summary.results) (showEmpty : Bool) :
    itemReport item showEmpty <:+: batchReport summary showEmpty := by
  have hitem : itemReport item showEmpty <:+: summary.results.flatMap (itemReport · showEmpty) :=
    Text.isInfix_flatMap h (itemReport · showEmpty)
  unfold batchReport
  simp only [List.append_assoc]
  exact hitem.trans (List.prefix_append _ _).isInfix

theorem warnings_isInfix_json {summary : Summary ParsedItem} {item : ParsedItem}
    (h : item ∈ summary.results) :
    Value.jsonEntry 3 "warnings".toList (.list (item.report.warnings.map fun w => .text w.message))
      <:+: (summary.toValue ParsedItem.toValue).json := by
  have hwarnings : Value.jsonEntry 3 "warnings".toList
      (.list (item.report.warnings.map fun w => .text w.message)) <:+: item.toValue.jsonAt 2 :=
    Value.isInfix_ofEntries (by simp [Report.problemEntries]) 2
  have hitem : item.toValue.jsonAt 2 <:+:
      (Value.list (summary.results.map ParsedItem.toValue)).jsonAt 1 :=
    Value.isInfix_list (List.mem_map_of_mem h) 1
  have hresults : Value.jsonEntry 1 "results".toList
      (.list (summary.results.map ParsedItem.toValue)) <:+:
        (summary.toValue ParsedItem.toValue).json :=
    Value.isInfix_ofEntries (by simp) 0
  exact ((hwarnings.trans hitem).trans (List.suffix_append _ _).isInfix).trans hresults

/-- The report of a batch holds the warnings of every item. -/
theorem Given.tells_report (g : Given) {summary : Summary ParsedItem} {item : ParsedItem}
    (h : item ∈ summary.results) : g.Tells (g.report summary) item.report.warnings := by
  unfold Given.Tells Given.report
  by_cases hj : g.json = true
  · rw [if_pos hj, if_pos hj]
    exact (warnings_isInfix_json h).trans (List.prefix_append _ _).isInfix
  · rw [if_neg hj, if_neg hj]
    intro w hw
    exact (isInfix_itemReport hw g.showEmpty).trans (itemReport_isInfix h g.showEmpty)

end Command

end NameTag
