import NameTag.Field
import NameTag.Value.Written
import NameTag.Weed.Error

/-!
# Problems and warnings

A problem is why an operation reports failure: it has a kind and a message. A warning says what the
caller might not expect of an operation, successful or not.
-/

namespace NameTag

inductive Problem
  | tagNotEditable
  | tagNotReadable
  | noFieldOrValue
  | emptySource
  | patternNotText
  | noFrames
  | yearMalformed
  | trackNumberMalformed
  | trackNumberUnrenderable (value : Text)
  | noPlaceholder
  | adjacentPlaceholders (name : Text)
  | unknownPlaceholder (name : Text)
  | nothingLeft (name : Text)
  | separatorNotFound (separator : Text)
  | separatorReused (name remainder separator : Text)
  | missingValues (fields : List Field)
  | unknownCaseMode
  | badWeed (expr : Value) (why : Text)
  deriving Repr

namespace Problem

inductive Kind
  | invalidArgument
  | validation
  | pattern
  | mismatch
  | ambiguity
  | missingValue
  | configuration
  deriving DecidableEq, Repr

def Kind.name : Kind → Text
  | invalidArgument => "InvalidArgument".toList
  | validation => "ValidationError".toList
  | pattern => "PatternError".toList
  | mismatch => "MatchError".toList
  | ambiguity => "AmbiguityError".toList
  | missingValue => "MissingValueError".toList
  | configuration => "ConfigError".toList

def kind : Problem → Kind
  | tagNotEditable | tagNotReadable | noFieldOrValue | emptySource | patternNotText | noFrames =>
    .invalidArgument
  | yearMalformed | trackNumberMalformed | trackNumberUnrenderable _ => .validation
  | noPlaceholder | adjacentPlaceholders _ | unknownPlaceholder _ | nothingLeft _ => .pattern
  | separatorNotFound _ => .mismatch
  | separatorReused .. => .ambiguity
  | missingValues _ => .missingValue
  | unknownCaseMode | badWeed .. => .configuration

/-- A placeholder as it is written in a pattern. -/
def placeholder (name : Text) : Text :=
  "((".toList ++ name ++ "))".toList

def message : Problem → Text
  | tagNotEditable => "tag argument must be a mutable mapping".toList
  | tagNotReadable => "tag argument must be a mapping".toList
  | noFieldOrValue => "valid field and some value must be given".toList
  | emptySource => "str argument must contain a non-empty string".toList
  | patternNotText => "pattern argument must be a string".toList
  | noFrames => "tags argument must provide getall(), e.g. mutagen.id3.ID3".toList
  | yearMalformed => "field YEAR must be a 4-digit number".toList
  | trackNumberMalformed => "field TRACKNUM must be a number between 1 and 255".toList
  | trackNumberUnrenderable value =>
    "field TRACKNUM must be a number below 1000, got '".toList ++ value ++ "'".toList
  | noPlaceholder => "pattern argument must contain at least one placeholder".toList
  | adjacentPlaceholders name =>
    "two placeholders must be separated by at least one character; problem occurred at '".toList
      ++ placeholder name ++ "'".toList
  | unknownPlaceholder name => "unknown placeholder: '".toList ++ placeholder name ++ "'".toList
  | nothingLeft name => "no characters found at position of placeholder ".toList ++ name
  | separatorNotFound separator => "separator not found: '".toList ++ separator ++ "'".toList
  | separatorReused name remainder separator =>
    "guessing that this string does not match pattern because '".toList ++ name
      ++ "' would be '".toList ++ remainder ++ "' but this contains '".toList ++ separator
      ++ "' which was used as separator before".toList
  | missingValues fields =>
    "found empty tag field(s) required by your pattern: ".toList
      ++ Text.join ", ".toList (fields.map (·.name))
  | unknownCaseMode => "case argument must be one out of (0, 1, 2)".toList
  | badWeed expr why =>
    "weed argument seems to be no valid regular expression: ".toList ++ expr.written
      ++ " (".toList ++ why ++ ")".toList

end Problem

inductive Warning
  | truncated (field : Field) (stored : Text)
  | commentShrunk (stored : Text)
  | maxLengthReached (field : Field) (value : Text)
  | unknownCaseMode (mode : Value)
  | frameSkipped (frameId value : Text) (problem : Problem)
  deriving Repr

def Warning.message : Warning → Text
  | truncated field stored =>
    "set_field: value of ".toList ++ field.name ++ " must be truncated to '".toList ++ stored
      ++ "'".toList
  | commentShrunk stored =>
    "set_field: value of COMMENT must be truncated to '".toList ++ stored
      ++ "' due to addition of TRACKNUM field".toList
  | maxLengthReached field value =>
    "render_from_record: value of ".toList ++ field.name
      ++ " has maximum length, you should check if it is truncated: '".toList ++ value ++ "'".toList
  | unknownCaseMode mode =>
    "convert_case: ignoring unknown conversion mode '".toList ++ mode.shown ++ "'".toList
  | frameSkipped frameId value problem =>
    "read_frames: skipping ".toList ++ frameId ++ " value '".toList ++ value ++ "': ".toList
      ++ problem.message

end NameTag
