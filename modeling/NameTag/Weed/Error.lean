import NameTag.Text.Quoted

/-!
# Flaws of a weed expression

Each flaw has a text, and most have a position in the expression. An expression of several lines
also gets the line and the column of the position.
-/

namespace NameTag.Weed

inductive Flaw
  | notText
  | unhashable (type : Text)
  | openGroup
  | unbalanced
  | openComment
  | openSet
  | nothingToRepeat
  | multipleRepeat
  | badRange (first last : Text)
  | repeatBounds
  | endsInEscape
  | badEscape (escape : Text)
  | incompleteEscape (escape : Text)
  | octalTooLarge (escape : Text)
  | missingBrace
  | missing (what : Text)
  | unterminatedName (terminator : Char)
  | unknownCharacter (name : Text)
  | unexpectedEnd
  | unknownExtension (opening : Text)
  | badGroupName (name : Text)
  | unknownGroupName (name : Text)
  | groupNameTaken (name : Text) (index earlier : Nat)
  | badGroupNumber
  | noSuchGroup (index : Nat)
  | groupStillOpen
  | groupInSameLookBehind
  | thirdBranch
  | lateFlags
  | bytesFlag
  | classFlagsClash
  | unknownFlag
  | globalFlagScoped
  | globalFlagOff
  | classFlagOff
  | flagOnAndOff
  | lookBehindWidth
  | lookBehindTooFar
  | templateRepeat (operator : Text)
  deriving DecidableEq, Repr

namespace Flaw

def message : Flaw → Text
  | notText => "first argument must be string or compiled pattern".toList
  | unhashable type => "unhashable type: '".toList ++ type ++ "'".toList
  | openGroup => "missing ), unterminated subpattern".toList
  | unbalanced => "unbalanced parenthesis".toList
  | openComment => "missing ), unterminated comment".toList
  | openSet => "unterminated character set".toList
  | nothingToRepeat => "nothing to repeat".toList
  | multipleRepeat => "multiple repeat".toList
  | badRange first last => "bad character range ".toList ++ first ++ '-' :: last
  | repeatBounds => "min repeat greater than max repeat".toList
  | endsInEscape => "bad escape (end of pattern)".toList
  | badEscape escape => "bad escape ".toList ++ escape
  | incompleteEscape escape => "incomplete escape ".toList ++ escape
  | octalTooLarge escape =>
    "octal escape value ".toList ++ escape ++ " outside of range 0-0o377".toList
  | missingBrace => "missing \x7b".toList
  | missing what => "missing ".toList ++ what
  | unterminatedName terminator => "missing ".toList ++ terminator :: ", unterminated name".toList
  | unknownCharacter name => "undefined character name ".toList ++ Text.quoted name
  | unexpectedEnd => "unexpected end of pattern".toList
  | unknownExtension opening => "unknown extension ".toList ++ opening
  | badGroupName name => "bad character in group name ".toList ++ Text.quoted name
  | unknownGroupName name => "unknown group name ".toList ++ Text.quoted name
  | groupNameTaken name index earlier =>
    "redefinition of group name ".toList ++ Text.quoted name ++ " as group ".toList
      ++ Text.ofNat index ++ "; was group ".toList ++ Text.ofNat earlier
  | badGroupNumber => "bad group number".toList
  | noSuchGroup index => "invalid group reference ".toList ++ Text.ofNat index
  | groupStillOpen => "cannot refer to an open group".toList
  | groupInSameLookBehind =>
    "cannot refer to group defined in the same lookbehind subpattern".toList
  | thirdBranch => "conditional backref with more than two branches".toList
  | lateFlags => "global flags not at the start of the expression".toList
  | bytesFlag => "bad inline flags: cannot use 'L' flag with a str pattern".toList
  | classFlagsClash => "bad inline flags: flags 'a', 'u' and 'L' are incompatible".toList
  | unknownFlag => "unknown flag".toList
  | globalFlagScoped => "bad inline flags: cannot turn on global flag".toList
  | globalFlagOff => "bad inline flags: cannot turn off global flag".toList
  | classFlagOff => "bad inline flags: cannot turn off flags 'a', 'u' and 'L'".toList
  | flagOnAndOff => "bad inline flags: flag turned on and off".toList
  | lookBehindWidth => "look-behind requires fixed-width pattern".toList
  | lookBehindTooFar => "looks too much behind".toList
  | templateRepeat operator => "internal: unsupported template operator ".toList ++ operator

end Flaw

/-- A flaw and, where it has one, its position in the expression. -/
structure Error where
  flaw : Flaw
  position : Option Nat
  deriving DecidableEq, Repr

namespace Error

/-- Lines and columns count from one. -/
def place (expr : Text) (position : Nat) : Text :=
  let before := expr.take position
  let line := before.count '\n' + 1
  let column := (before.reverse.takeWhile (· != '\n')).length + 1
  " at position ".toList ++ Text.ofNat position
    ++ if expr.contains '\n' then
        " (line ".toList ++ Text.ofNat line ++ ", column ".toList ++ Text.ofNat column ++ [')']
      else []

def message (e : Error) (expr : Text) : Text :=
  e.flaw.message ++ (e.position.map (place expr)).getD []

end Error

end NameTag.Weed
