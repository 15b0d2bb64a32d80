import NameTag.Problem
import NameTag.Number.Integer

/-!
# Faults

A fault ends an operation without a report: an argument of a type that the operation cannot work
with, a setting or an option with a value that is refused, or a file that cannot be used.
-/

namespace NameTag

/-- A value of a command-line option, or a pattern, that is refused. -/
inductive OptionFlaw
  | caseMode
  | weed (problem : Problem)
  | threads
  | pattern
  deriving Repr

def OptionFlaw.message : OptionFlaw → Text
  | caseMode => "--case must be one of 0, 1, 2".toList
  | weed problem => problem.message
  | threads => "--threads must be at least 1".toList
  | pattern => "pattern must contain at least one ((NAME)) placeholder".toList

/-- A value that is refused, and why. -/
inductive BadValue
  | integer (error : IntegerError)
  | caseVariable
  | caseSetting (value : Value)
  | weedSetting (problem : Problem)
  | markerSetting
  | verboseSetting
  | workersSetting
  | thresholdSetting
  | noWorkers
  | pairLength (index length : Nat)
  | characterSetFlags
  | assignmentForm
  | assignmentFieldEmpty
  | assignmentField (name : Text)
  | assignmentRejected (field : Text) (problem : Problem)
  | options (flaws : List OptionFlaw)
  deriving Repr

def BadValue.message : BadValue → Text
  | integer error => error.message
  | caseVariable => "INFOTAG_CASE must be one of (0, 1, 2)".toList
  | caseSetting value => "Invalid DEFAULT_CASE: ".toList ++ value.shown
  | weedSetting problem => "Invalid DEFAULT_WEED: ".toList ++ problem.message
  | markerSetting => "TRUNC_MARKER must be a string".toList
  | verboseSetting => "DEFAULT_VERBOSE must be a boolean".toList
  | workersSetting => "MAX_WORKERS must be positive".toList
  | thresholdSetting => "MIN_ITEMS_FOR_PARALLEL must be positive".toList
  | noWorkers => "max_workers must be greater than 0".toList
  | pairLength index length =>
    "dictionary update sequence element #".toList ++ Text.ofNat index ++ " has length ".toList
      ++ Text.ofNat length ++ "; 2 is required".toList
  | characterSetFlags => "ASCII and UNICODE flags are incompatible".toList
  | assignmentForm => "assignment must be FIELD=VALUE".toList
  | assignmentFieldEmpty => "assignment field cannot be empty".toList
  | assignmentField name =>
    "invalid field: ".toList ++ name ++ ". Must be one of: ".toList
      ++ Text.join ", ".toList (Field.all.map (·.name))
  | assignmentRejected field problem => field ++ ": ".toList ++ problem.message
  | options flaws => Text.join "; ".toList (flaws.map OptionFlaw.message)

inductive Fault
  /-- A value of a type that cannot be used here. -/
  | wrongType
  /-- A value whose type lacks an operation that texts have. -/
  | missingOperation
  | unknownKey
  /-- A number of repetitions that is too large. -/
  | overflow
  /-- A file that cannot be opened for writing. -/
  | unusableFile
  | badValue (why : BadValue)
  deriving Repr

/-- Why an operation fails: a problem is reported, a fault escapes. -/
inductive Failure
  | problem (p : Problem)
  | fault (f : Fault)
  deriving Repr

instance : Coe Problem Failure := ⟨.problem⟩

instance : Coe Fault Failure := ⟨.fault⟩

end NameTag
