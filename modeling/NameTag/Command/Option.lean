import NameTag.Text.Basic

/-!
# Commands and their options

The program has three commands. Options stand on a level: that of the program, before the command, or
that of a command. An option has one or two spellings and either takes a value or does not.
-/

namespace NameTag.Command

inductive Verb
  | fields
  | parse
  | format
  deriving DecidableEq, Repr

namespace Verb

def all : List Verb :=
  [fields, parse, format]

def name : Verb → Text
  | fields => "fields".toList
  | parse => "parse".toList
  | format => "format".toList

def ofName? (t : Text) : Option Verb :=
  all.find? (·.name == t)

end Verb

inductive Opt
  | help
  | verbose
  | caseMode
  | weed
  | assign
  | stripExtension
  | showEmpty
  | threads
  | json
  deriving DecidableEq, Repr

namespace Opt

def spellings : Opt → List Text
  | help => ["-h".toList, "--help".toList]
  | verbose => ["--verbose".toList]
  | caseMode => ["--case".toList]
  | weed => ["--weed".toList]
  | assign => ["--set".toList]
  | stripExtension => ["--strip-extension".toList]
  | showEmpty => ["--show-empty".toList]
  | threads => ["--threads".toList]
  | json => ["--json".toList]

def takesValue : Opt → Bool
  | caseMode | weed | assign | threads => true
  | _ => false

/-- All spellings of the option, as a message names it. -/
def shown (o : Opt) : Text :=
  Text.join ['/'] o.spellings

end Opt

inductive Level
  | program
  | verb (v : Verb)
  deriving DecidableEq, Repr

namespace Level

/-- What is written to get to the level. -/
def path : Level → Text
  | program => "infotag".toList
  | verb v => "infotag ".toList ++ v.name

/-- The options of the level, in the order in which help lists them. -/
def options : Level → List Opt
  | program => [.help, .verbose]
  | verb .fields => [.help]
  | verb .parse =>
    [.help, .caseMode, .weed, .assign, .stripExtension, .showEmpty, .threads, .json]
  | verb .format => [.help, .assign, .caseMode]

def spellings (l : Level) : List (Text × Opt) :=
  l.options.flatMap fun o => o.spellings.map (·, o)

/-- The names of the arguments that must be given. -/
def required : Level → List Text
  | program => ["command".toList]
  | verb .fields => []
  | verb .parse => ["pattern".toList, "names".toList]
  | verb .format => ["pattern".toList]

end Level

end NameTag.Command
