import NameTag.Command.Assignment
import NameTag.Command.Invocation
import NameTag.Command.Transcript
import NameTag.Summary
import NameTag.Value.Json
import NameTag.Value.Lookup

/-!
# Running a command

A run reads its command line, takes settings from the environment, checks the options and carries out
the command. It ends with an exit, or with a fault that no message is written for. The session goes on
after the run: settings and pending warnings stay.
-/

namespace NameTag.Command

inductive Exit
  | success
  | failure
  | misuse
  | noInput
  | interrupted
  deriving DecidableEq, Repr

def Exit.code : Exit → Nat
  | success => 0
  | failure => 1
  | misuse => 2
  | noInput => 3
  | interrupted => 130

/-- What a run finds around it. -/
structure Surroundings where
  environment : Settings.Environment := []
  /-- The text to read; nothing if reading is interrupted. -/
  input : Option Text := some []
  /-- Which files can be opened for the log. -/
  opens : Text → Bool := fun _ => true
  /-- The origin of the records that the run itself logs. -/
  origin : Text := "infotag.cli".toList

/-- How records are kept: whether those for debugging are, on which stream, and in which file. -/
structure Log where
  verbose : Bool
  stream : Stream
  file : Option Text

/-- The state of a run. -/
structure Console where
  session : Session
  log : Option Log := none
  transcript : Transcript := []

/-- A part of a run. What was written before a fault stays written. -/
abbrev Act := EStateM Fault Console

namespace Act

def emit (e : Event) : Act Unit :=
  modify fun c => { c with transcript := c.transcript ++ [e] }

def write (s : Stream) (t : Text) : Act Unit :=
  emit (.write s t)

/-- Writes a text with a line break after it. -/
def writeLine (s : Stream) (t : Text) : Act Unit :=
  write s (t ++ ['\n'])

def writeLines (s : Stream) (texts : List Text) : Act Unit :=
  texts.forM (writeLine s)

/-- Logs a record, unless it is left out or there is no log. -/
def record (severity : Severity) (origin message : Text) : Act Unit := do
  match (← get).log with
  | none => pure ()
  | some log =>
    if severity = .debug ∧ !log.verbose then pure ()
    else emit (.record log.stream ⟨origin, severity, message⟩)

def debug (origin message : Text) : Act Unit :=
  record .debug origin message

/-- Runs a step of the session. -/
def ofStep {α : Type} (step : Session.Step α) : Act α := fun c =>
  let (a, session) := step.run c.session
  .ok a { c with session := session }

/-- Runs a task of the session. -/
def ofTask {α : Type} (task : Session.Task α) : Act α := do
  match ← ofStep task.run with
  | .ok a => pure a
  | .error f => throw f

/-- Goes on in another way where a value is refused. Other faults stay. -/
def orElse {α : Type} (act : Act α) (otherwise : BadValue → Act α) : Act α := fun c =>
  match act c with
  | .error (.badValue why) c => otherwise why c
  | r => r

/-- Does something before the rest of the run, or goes another way where a value is refused. -/
def andThen (act : Act Unit) (otherwise : BadValue → Act Exit) (next : Act Exit) : Act Exit := fun c =>
  match act c with
  | .ok _ c => next c
  | .error (.badValue why) c => otherwise why c
  | .error f c => .error f c

/-- Says why a value is refused, and ends the run. -/
def complain (why : BadValue) : Act Exit := do
  writeLine .errors ("Error: ".toList ++ why.message)
  pure .misuse

/-- The console that a part of a run leaves. -/
def console {α : Type} (r : EStateM.Result Fault Console α) : Console :=
  match r with
  | .ok _ c | .error _ c => c

end Act

/-! ## Records of operations -/

def batchOrigin : Text :=
  "infotag.batch".toList

def operationOrigin : Text :=
  "infotag.operations".toList

def sessionOrigin : Text :=
  "infotag.processor".toList

/-- The record of an operation that reported a problem. -/
def recordProblem (operation : String) (p : Problem) : Act Unit :=
  Act.debug sessionOrigin
    (operation.toList ++ " failed (".toList ++ p.kind.name ++ "): ".toList ++ p.message)

/-- The record of a name that was parsed. -/
def recordItem (item : ParsedItem) : Act Unit :=
  match item.report.result with
  | .ok count =>
    Act.debug operationOrigin
      ("Extracted ".toList ++ Text.ofNat count ++ " field(s) from '".toList
        ++ Text.strip item.source.shown ++ "'".toList)
  | .error p => recordProblem "extract_fields" p

/-- The record of how a batch runs. -/
def recordDispatch (total : Nat) (maxWorkers : Value) : Act Unit := do
  let s := (← get).session.settings
  let items := " for ".toList ++ Text.ofNat total ++ " items".toList
  match Session.runsParallel s total maxWorkers (.flag true) with
  | .ok true =>
    let workers := if maxWorkers.isTrue then maxWorkers else s.maxWorkers
    Act.debug batchOrigin
      ("Using parallel processing with ".toList ++ workers.shown ++ " workers".toList ++ items)
  | .ok false => Act.debug batchOrigin ("Using sequential processing".toList ++ items)
  | .error f => throw f

/-! ## Commands -/

/-- A field with the most characters that it may hold. -/
def fieldLine (f : Field) : Text :=
  let limit := match f.maxLength with
    | some n => Text.ofNat n
    | none => "unbounded".toList
  f.name ++ ": ".toList ++ limit

/-- Lists the fields. -/
def runFields : Act Exit := do
  Act.writeLines .output (Field.all.map fieldLine)
  pure .success

/-- The lines of a text. A line ends in a line feed, a carriage return or both. -/
def lines : Text → List Text
  | [] => []
  | '\r' :: '\n' :: rest | '\r' :: rest | '\n' :: rest => [] :: lines rest
  | c :: rest =>
    match lines rest with
    | [] => [[c]]
    | line :: others => (c :: line) :: others

/-- The lines that hold more than blanks. -/
def namesIn (input : Text) : List Text :=
  (lines input).filter fun line => !(Text.strip line).isEmpty

/-- The tag of the assignments; a rejected one is recorded. -/
def buildBase (assignments : List Text) : Act Tag := do
  match ← Act.ofStep (buildTag (.list (assignments.map .text))).run with
  | .ok tag => pure tag
  | .error f =>
    match f with
    | .badValue (.assignmentRejected _ p) => recordProblem "store_field" p
    | _ => pure ()
    throw f

/-- The value of an option, or of the setting in its place. -/
def orSetting {α : Type} (f : α → Value) (option : Option α) (setting : Value) : Value :=
  (option.map f).getD setting

/-- The result for one name. -/
def itemReport (item : ParsedItem) (showEmpty : Bool) : Text :=
  let body := match item.report.result with
    | .ok count =>
      "  Tag: ".toList ++ item.tag.summary showEmpty ++ "\n  Fields written: ".toList
        ++ Text.ofNat count ++ ['\n']
    | .error p => "  ERROR (".toList ++ p.kind.name ++ "): ".toList ++ p.message ++ ['\n']
  "\nName: ".toList ++ item.name.shown ++ '\n' :: body
    ++ item.report.warnings.flatMap fun w => "  WARNING: ".toList ++ w.message ++ ['\n']

/-- The results for all names, and the counts. -/
def batchReport (s : Summary ParsedItem) (showEmpty : Bool) : Text :=
  s.results.flatMap (itemReport · showEmpty)
    ++ "\n--- SUMMARY ---\nTotal names processed: ".toList ++ Text.ofNat s.processed
    ++ "\nSuccessful: ".toList ++ Text.ofNat s.successful
    ++ "\nFailed: ".toList ++ Text.ofNat s.failed ++ ['\n']

/-- Parses names and writes the report. The records of the names are logged after the batch, in the
order of the names; workers in parallel log theirs as they run. -/
def parseNames (origin : Text) (g : Given) (pattern : Text) (names : List Text) : Act Exit := do
  let base ← buildBase g.assignments
  Act.debug origin
    ("Pattern fields: ".toList ++ Text.listing ((Pattern.fields pattern).map Field.name))
  let settings := (← get).session.settings
  let maxWorkers := orSetting .int g.threads .null
  recordDispatch names.length maxWorkers
  let options : ParseOptions :=
    { pattern := .text pattern
      mode := orSetting .int g.caseMode settings.defaultCase
      weed := orSetting .text g.weed settings.defaultWeed
      base := .editable ⟨base.entries.filter (·.2.isTrue)⟩
      stripExtension := .flag g.stripExtension }
  let summary ← Act.ofTask
    (Session.parseBatch options (.list (names.map .text)) maxWorkers (.flag true))
  summary.results.forM recordItem
  if g.json then Act.writeLine .output (summary.toValue ParsedItem.toValue).json
  else Act.write .output (batchReport summary g.showEmpty)
  pure (if summary.failed = 0 then .success else .failure)

/-- Parses the names of the command line, or those on the input where it has none. -/
def runParse (s : Surroundings) (g : Given) (pattern : Text) : Act Exit := do
  let names := if g.names.isEmpty then s.input.map namesIn else some g.names
  match names with
  | none => pure .interrupted
  | some [] =>
    Act.writeLine .errors "No names given.".toList
    pure .noInput
  | some names => parseNames s.origin g pattern names

/-- Writes the name that the assigned values give along the pattern. -/
def runFormat (g : Given) (pattern : Text) : Act Exit := do
  let tag ← buildBase g.assignments
  let mode := orSetting .int g.caseMode (← get).session.settings.defaultCase
  let report ← Act.ofTask (ExceptT.mk (Session.render (.editable tag) (.text pattern) mode))
  match report.problem? with
  | some p => recordProblem "substitute_fields" p
  | none => pure ()
  let warnings ← Act.ofStep Session.flushWarnings
  Act.writeLines .errors (warnings.map fun w => "WARNING: ".toList ++ w.message)
  match report.result with
  | .ok name =>
    Act.writeLine .output name
    pure .success
  | .error p =>
    Act.writeLine .errors ("Error: ".toList ++ p.message)
    pure .failure

def runCommand (s : Surroundings) (i : Invocation) : Act Exit :=
  match i.verb, i.given.pattern with
  | .parse, some pattern => runParse s i.given pattern
  | .format, some pattern => runFormat i.given pattern
  | _, _ => runFields

/-! ## Runs -/

/-- What is wrong with the options, in this order. -/
def Given.flaws (g : Given) : Except Fault (List OptionFlaw) := do
  let weed ← match g.weed.map fun t => Weed.compile (.text t) with
    | some (.error (.problem p)) => pure [OptionFlaw.weed p]
    | some (.error (.fault f)) => throw f
    | _ => pure []
  pure ((if g.caseMode.any fun n => (CaseMode.ofValue? (.int n)).isNone then [.caseMode] else [])
    ++ weed
    ++ (if g.threads.any (· < 1) then [.threads] else [])
    ++ if g.pattern.any (!Pattern.hasPlaceholder ·) then [.pattern] else [])

def checkOptions (g : Given) : Act Unit := do
  match g.flaws with
  | .ok [] => pure ()
  | .ok flaws => throw (.badValue (.options flaws))
  | .error f => throw f

/-- Takes settings from the environment; what was set before a refusal stays set. -/
def loadSettings (env : Settings.Environment) : Act Unit := fun c =>
  match Settings.load env c.session.settings with
  | .ok _ s => .ok () { c with session := { c.session with settings := s } }
  | .error f s => .error f { c with session := { c.session with settings := s } }

/-- The file that a setting names for the log, if it can be opened. -/
def Surroundings.logFile? (s : Surroundings) : Value → Except Fault (Option Text)
  | .text t =>
    if t.isEmpty then .ok none else if s.opens t then .ok (some t) else .error .unusableFile
  | v => if v.isTrue then .error .wrongType else .ok none

/-- The log as the settings and the options want it. Where standard output is to be read by a program,
records go to the other stream. -/
def openLog (s : Surroundings) (i : Invocation) : Act Unit := do
  let settings := (← get).session.settings
  let file ← match s.logFile? settings.logFile with
    | .ok file => pure file
    | .error f => throw f
  let stream := if i.given.json then Stream.errors else .output
  modify fun c => { c with log := some ⟨i.verbose || settings.verbose.isTrue, stream, file⟩ }

/-- Refuses the options, which is logged too. -/
def refuseOptions (origin : Text) (why : BadValue) : Act Exit := do
  Act.record .error origin ("Argument validation failed: ".toList ++ why.message)
  Act.complain why

/-- Carries out an invocation. -/
def perform (s : Surroundings) (i : Invocation) : Act Exit :=
  (loadSettings s.environment).andThen Act.complain do
    openLog s i
    (checkOptions i.given).andThen (refuseOptions s.origin)
      ((runCommand s i).orElse Act.complain)

/-- Runs the program on a command line. -/
def run (s : Surroundings) (texts : List Text) : Act Exit :=
  match read texts with
  | .ok i => perform s i
  | .error (.help l) => do
    Act.write .output l.help
    pure .success
  | .error (.complaint l c) => do
    Act.write .errors (c.report l)
    pure .misuse

/-! ## Processes -/

/-- Where an interruption comes: when so many events, and so many characters of the next one, are
written. -/
structure Interruption where
  events : Nat
  characters : Nat := 0

/-- What a run has written when it is interrupted; nothing if it ended before. -/
def Interruption.cut? (n : Interruption) (t : Transcript) : Option Transcript :=
  if n.events ≤ t.length then some (t.upTo n.events n.characters) else none

/-- What is left of a run: how it ended, what it wrote, and the file that its records belong in. -/
structure Process where
  exit : Exit
  written : Transcript
  logFile : Option Text

/-- A run on a session of its own, with an interruption if there is one. A fault ends it in a
failure. -/
def execute (interruption : Option Interruption) (s : Surroundings) (texts : List Text)
    (session : Session) : Process :=
  let r := run s texts { session := session }
  let c := Act.console r
  let logFile := c.log.bind (·.file)
  match interruption.bind (·.cut? c.transcript), r with
  | some written, _ => ⟨.interrupted, written, logFile⟩
  | none, .ok exit _ => ⟨exit, c.transcript, logFile⟩
  | none, .error .. => ⟨.failure, c.transcript, logFile⟩

end NameTag.Command
