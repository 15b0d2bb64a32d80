import NameTag.Session
import NameTag.Text.FileName

/-!
# Batches

A batch parses many names, or renders many tags, with one pattern. Each item has its own report, so a
problem with one never stops the others; a fault does. A large batch may run in parallel: then every
item has a session of its own, and nothing is recorded in the caller's.
-/

namespace NameTag

/-! ## Items -/

structure ParsedItem where
  name : Value
  source : Value
  report : Report Nat
  tag : Tag

structure RenderedItem where
  subject : Subject
  report : Report Text

namespace ParsedItem

def passed (item : ParsedItem) : Bool :=
  item.report.passed

/-- The number of fields that were set. -/
def changed (item : ParsedItem) : Nat :=
  item.report.value?.getD 0

end ParsedItem

/-- How names are parsed. -/
structure ParseOptions where
  pattern : Value
  mode : Value := .null
  weed : Value := .null
  base : Subject := .other .null
  stripExtension : Value := .flag false

/-- A step of a session that a fault may end. -/
abbrev Session.Task := ExceptT Fault Session.Step

/-- The parts of a value that can be gone through: characters, items or names. -/
def Value.parts? : Value → Option (List Value)
  | .text t => some (t.map fun c => .text [c])
  | .list items => some items
  | .record entries => some (entries.map fun e => .text e.1)
  | _ => none

/-- The entry that a pair of values stands for. A list or record cannot be a name; a name that is no
text names no field and is left out. -/
def Value.pair? (index : Nat) (pair : Value) : Except Fault (Option (Text × Value)) :=
  match pair.parts? with
  | some [key, value] =>
    match key with
    | .text name => .ok (some (name, value))
    | .list _ | .record _ => .error .wrongType
    | _ => .ok none
  | some parts => .error (.badValue (.pairLength index parts.length))
  | none => .error .wrongType

/-- The entries that a list of pairs stands for. -/
def Value.pairs (index : Nat) : List Value → Except Fault (List (Text × Value))
  | [] => .ok []
  | pair :: rest => do
    let entry ← pair.pair? index
    let entries ← Value.pairs (index + 1) rest
    pure (entry.toList ++ entries)

/-- The tag that every name starts from: the empty one, with the entries of the base. -/
def Subject.baseTag (base : Subject) : Except Fault Tag :=
  match base with
  | .editable tag | .readOnly tag => .ok (Tag.empty.update tag.entries)
  | .other v =>
    if !v.isTrue then .ok .empty
    else
      match v.parts? with
      | some parts => (Value.pairs 0 parts).map Tag.empty.update
      | none => .error .wrongType

namespace Session

/-- Parses one name into a new tag. -/
def parseItem (o : ParseOptions) (name : Value) : Task ParsedItem := do
  let source ← if o.stripExtension.isTrue then
      match name with
      | .text t => pure (.text (Text.stem t))
      | _ => throw .wrongType
    else pure name
  let tag ← o.base.baseTag
  let (result, after) ← parse (.editable tag) source o.pattern o.mode o.weed
  let report ← result
  pure ⟨name, source, report, after.tag?.getD tag⟩

/-- Renders one tag. -/
def renderItem (pattern mode : Value) (s : Subject) : Task RenderedItem := do
  let report ← ExceptT.mk (render s pattern mode)
  pure ⟨s, report⟩

/-! ## Dispatch -/

/-- Whether a batch of this size runs in parallel. The number of workers must be positive then;
`max_workers` counts unless it is nothing or zero, and one worker means no parallel run. -/
def runsParallel (s : Settings) (total : Nat) (maxWorkers useParallel : Value) :
    Except Fault Bool := do
  if !useParallel.isTrue then return false
  match s.minParallel.number? with
  | none => throw .wrongType
  | some least =>
    if (total : Rat) < least || maxWorkers.equalsInt 1 then return false
    match if maxWorkers.isTrue then maxWorkers else s.maxWorkers with
    | .null => return true
    | workers =>
      if ← Settings.isPositive workers then return true
      else throw (.badValue .noWorkers)

variable {ι α : Type}

/-- Runs one task after the other. -/
def inSequence (task : ι → Task α) : List ι → Task (List α)
  | [] => pure []
  | item :: rest => do
    let first ← task item
    let others ← inSequence task rest
    pure (first :: others)

/-- Runs each task in a session of its own, with the same settings. -/
def inParallel (task : ι → Task α) : List ι → Task (List α)
  | [] => pure []
  | item :: rest => do
    let session : Session := { settings := (← get).settings }
    let first ← ((task item).run.run session).1
    let others ← inParallel task rest
    pure (first :: others)

/-- Runs a task on every item; the results keep the order of the items. -/
def runItems (task : ι → Task α) (items : List ι) (maxWorkers useParallel : Value) :
    Task (List α) := do
  if items.isEmpty then return []
  if ← runsParallel (← get).settings items.length maxWorkers useParallel then inParallel task items
  else inSequence task items

end Session

/-! ## Batches and their summaries -/

/-- The counts of a batch and the results of its items. -/
structure Summary (α : Type) where
  processed : Nat
  successful : Nat
  failed : Nat
  unchanged : Nat
  results : List α

/-- Counts the items that passed, and those that passed without a change. -/
def Summary.ofResults {α : Type} (passed unchanged : α → Bool) (results : List α) : Summary α :=
  let successful := results.countP passed
  { processed := results.length
    successful := successful
    failed := results.length - successful
    unchanged := results.countP fun r => passed r && unchanged r
    results := results }

namespace Session

/-- Parses every name. The names are the parts of a value. -/
def parseBatch (o : ParseOptions) (names maxWorkers useParallel : Value) :
    Task (Summary ParsedItem) := do
  match names.parts? with
  | none => throw .wrongType
  | some names =>
    let results ← runItems (parseItem o) names maxWorkers useParallel
    pure (.ofResults (·.passed) (·.changed == 0) results)

/-- Renders every tag. -/
def renderBatch (pattern mode : Value) (tags : List Subject) (maxWorkers useParallel : Value) :
    Task (Summary RenderedItem) := do
  let results ← runItems (renderItem pattern mode) tags maxWorkers useParallel
  pure (.ofResults (·.report.passed) (fun _ => false) results)

end Session

end NameTag
