import NameTag.Command.Option
import NameTag.Text.Quoted

/-!
# Usage, help and complaints

The usage of a level says what may be written there. It stands before every complaint about the
command line, and at the head of the level's help.
-/

namespace NameTag.Command

namespace Level

/-- The usage, without a line break at its end. -/
def usage : Level → Text
  | program =>
    "usage: infotag [-h] [--verbose] \x7bfields,parse,format\x7d ...".toList
  | verb .fields =>
    "usage: infotag fields [-h]".toList
  | verb .parse =>
    "usage: infotag parse [-h] [--case CASE] [--weed WEED] [--set FIELD=VALUE]
                     [--strip-extension] [--show-empty] [--threads THREADS]
                     [--json]
                     pattern [names ...]".toList
  | verb .format =>
    "usage: infotag format [-h] [--set FIELD=VALUE] [--case CASE] pattern".toList

/-- What the arguments, the commands and the options of the level mean. -/
def meanings : Level → Text
  | program =>
    "infotag - filename <-> ID3v1 tag converter

positional arguments:
  \x7bfields,parse,format\x7d
    fields              List the tag fields and their maximum lengths
    parse               Extract tags from names (arguments or stdin lines)
    format              Build a string from tag values

options:
  -h, --help            show this help message and exit
  --verbose             Enable verbose logging (overrides INFOTAG_VERBOSE env
                        var)".toList
  | verb .fields =>
    "options:
  -h, --help  show this help message and exit".toList
  | verb .parse =>
    "positional arguments:
  pattern            Pattern, e.g. '[((TRACKNUM))] ((ARTIST)) - ((TITLE))'
  names              Names to parse (default: read stdin)

options:
  -h, --help         show this help message and exit
  --case CASE        Case mode: 0 lower, 1 First, 2 Each Word
  --weed WEED        Regex whose matches are replaced by a space
  --set FIELD=VALUE  Value every tag starts from (repeatable)
  --strip-extension  Drop directory and extension from each name first
  --show-empty       Show empty fields too
  --threads THREADS  Number of threads for parallel processing (default: auto)
  --json             Print a JSON report instead of text".toList
  | verb .format =>
    "positional arguments:
  pattern            Pattern, e.g. '((TRACKNUM))_((ARTIST))-((TITLE))'

options:
  -h, --help         show this help message and exit
  --set FIELD=VALUE  Tag value (repeatable)
  --case CASE        Case mode: 0 lower, 1 First, 2 Each Word".toList

def help (l : Level) : Text :=
  l.usage ++ "\n\n".toList ++ l.meanings ++ ['\n']

end Level

/-- What is wrong with a command line. -/
inductive Complaint
  | missing (arguments : List Text)
  | unrecognized (words : List Text)
  | ambiguous (word : Text) (candidates : List Text)
  | needsValue (o : Opt)
  | needsNoValue (o : Opt) (value : Text)
  | notWhole (o : Opt) (value : Text)
  | unknownCommand (word : Text)
  deriving DecidableEq, Repr

namespace Complaint

def aboutOption (o : Opt) (what : Text) : Text :=
  "argument ".toList ++ o.shown ++ ": ".toList ++ what

def message : Complaint → Text
  | missing arguments =>
    "the following arguments are required: ".toList ++ Text.join ", ".toList arguments
  | unrecognized words => "unrecognized arguments: ".toList ++ Text.join [' '] words
  | ambiguous word candidates =>
    "ambiguous option: ".toList ++ word ++ " could match ".toList
      ++ Text.join ", ".toList candidates
  | needsValue o => aboutOption o "expected one argument".toList
  | needsNoValue o value =>
    aboutOption o ("ignored explicit argument ".toList ++ Text.quoted value)
  | notWhole o value => aboutOption o ("invalid int value: ".toList ++ Text.quoted value)
  | unknownCommand word =>
    "argument command: invalid choice: ".toList ++ Text.quoted word ++ " (choose from ".toList
      ++ Text.join ", ".toList (Verb.all.map fun v => Text.quoted v.name) ++ [')']

/-- The complaint under the usage of its level. -/
def report (l : Level) (c : Complaint) : Text :=
  l.usage ++ '\n' :: l.path ++ ": error: ".toList ++ c.message ++ ['\n']

end Complaint

end NameTag.Command
