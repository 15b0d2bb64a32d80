import NameTag.Batch

/-!
# Results as values

The result of an item and the summary of a batch as records, in the order in which they are printed.
-/

namespace NameTag

/-- Entries under names. -/
def Value.ofEntries (entries : List (String × Value)) : Value :=
  .record (entries.map fun e => (e.1.toList, e.2))

def Value.ofOption {α : Type} (f : α → Value) (o : Option α) : Value :=
  (o.map f).getD .null

def Value.ofNat (n : Nat) : Value :=
  .int n

def Subject.toValue : Subject → Value
  | .editable tag | .readOnly tag => .record tag.entries
  | .other v => v

/-- The message of a report's problem, the name of its kind, and its warnings. -/
def Report.problemEntries {α : Type} (r : Report α) : List (String × Value) :=
  [("error", .ofOption (fun p => .text p.message) r.problem?),
    ("error_kind", .ofOption (fun p => .text p.kind.name) r.problem?),
    ("warnings", .list (r.warnings.map fun w => .text w.message))]

def ParsedItem.toValue (item : ParsedItem) : Value :=
  .ofEntries ([("name", item.name), ("source", item.source), ("passed", .flag item.passed),
    ("changed", .ofNat item.changed),
    ("tag", if item.passed then .record item.tag.entries else .null)]
    ++ item.report.problemEntries)

def RenderedItem.toValue (item : RenderedItem) : Value :=
  .ofEntries ([("tag", item.subject.toValue), ("passed", .flag item.report.passed),
    ("string", .ofOption .text item.report.value?)] ++ item.report.problemEntries)

def Summary.toValue {α : Type} (item : α → Value) (s : Summary α) : Value :=
  .ofEntries [("processed", .ofNat s.processed), ("successful", .ofNat s.successful),
    ("failed", .ofNat s.failed), ("unchanged", .ofNat s.unchanged),
    ("results", .list (s.results.map item))]

end NameTag
