import NameTag.Weed
import NameTag.Value.Trim

/-!
# Settings

The settings hold what operations fall back on. They may be set to values of any type without a check;
`Settings.check` says whether they make sense. The environment sets them by text, one after the
other, and what is set before a refusal stays set.
-/

namespace NameTag

structure Settings where
  defaultCase : Value := .null
  defaultWeed : Value := .null
  marker : Value := .null
  verbose : Value := .flag false
  logFile : Value := .null
  maxWorkers : Value := .int 8
  minParallel : Value := .int 50
  deriving Repr

namespace Settings

/-- Whether a value that must be a number is positive. -/
def isPositive (v : Value) : Except Fault Bool :=
  match v.number? with
  | some n => .ok (decide (0 < n))
  | none => .error .wrongType

def require (condition : Bool) (otherwise : BadValue) : Except Fault Unit :=
  if condition then .ok () else .error (.badValue otherwise)

def checkCase (s : Settings) : Except Fault Unit :=
  match s.defaultCase with
  | .null => .ok ()
  | v => require (CaseMode.ofValue? v).isSome (.caseSetting v)

def checkWeed (s : Settings) : Except Fault Unit :=
  match s.defaultWeed with
  | .null => .ok ()
  | v =>
    match Weed.compile v with
    | .ok _ => .ok ()
    | .error (.problem p) => .error (.badValue (.weedSetting p))
    | .error (.fault f) => .error f

def checkMarker (s : Settings) : Except Fault Unit :=
  match s.marker with
  | .null | .text _ => .ok ()
  | _ => .error (.badValue .markerSetting)

def checkVerbose (s : Settings) : Except Fault Unit :=
  match s.verbose with
  | .flag _ => .ok ()
  | _ => .error (.badValue .verboseSetting)

/-- Refuses settings that make no sense, the first one in this order. -/
def check (s : Settings) : Except Fault Unit := do
  s.checkCase
  s.checkWeed
  s.checkMarker
  s.checkVerbose
  require (← isPositive s.maxWorkers) .workersSetting
  require (← isPositive s.minParallel) .thresholdSetting

/-! ## The environment -/

/-- Texts under the names of variables. -/
abbrev Environment := List (Text × Text)

/-- The text of a variable that is set and not empty. -/
def Environment.get? (env : Environment) (name : Text) : Option Text :=
  (env.lookup name).filter (!·.isEmpty)

/-- The variables that settings are read from. -/
def variableNames : List Text :=
  ["INFOTAG_CASE".toList, "INFOTAG_WEED".toList, "INFOTAG_TRUNC_MARKER".toList,
    "INFOTAG_MAX_WORKERS".toList, "INFOTAG_MIN_PARALLEL".toList, "INFOTAG_LOG_FILE".toList,
    "INFOTAG_VERBOSE".toList]

/-- A change of the settings that may be refused half way. -/
abbrev Change := EStateM Fault Settings

def whenSet (env : Environment) (name : Text) (act : Text → Change Unit) : Change Unit :=
  match env.get? name with
  | some t => act t
  | none => pure ()

def readNumber (t : Text) : Change Value :=
  match Text.readInteger t with
  | .ok n => pure (.int n)
  | .error e => throw (.badValue (.integer e))

/-- The texts that switch the log on. -/
def trueTexts : List Text :=
  ["1".toList, "true".toList, "yes".toList]

def load (env : Environment) : Change Unit := do
  whenSet env "INFOTAG_CASE".toList fun t =>
    match Text.readInteger t with
    | .ok n => modify fun s => { s with defaultCase := .int n }
    | .error _ => throw (.badValue .caseVariable)
  whenSet env "INFOTAG_WEED".toList fun t => modify fun s => { s with defaultWeed := .text t }
  whenSet env "INFOTAG_TRUNC_MARKER".toList fun t => modify fun s => { s with marker := .text t }
  whenSet env "INFOTAG_MAX_WORKERS".toList fun t => do
    let n ← readNumber t
    modify fun s => { s with maxWorkers := n }
  whenSet env "INFOTAG_MIN_PARALLEL".toList fun t => do
    let n ← readNumber t
    modify fun s => { s with minParallel := n }
  whenSet env "INFOTAG_LOG_FILE".toList fun t => modify fun s => { s with logFile := .text t }
  match env.lookup "INFOTAG_VERBOSE".toList with
  | some t =>
    let on := trueTexts.contains (Text.lower (Text.strip t))
    modify fun s => { s with verbose := .flag on }
  | none => pure ()
  match (← get).check with
  | .ok _ => pure ()
  | .error e => throw e

end Settings

end NameTag
