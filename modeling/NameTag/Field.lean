import NameTag.Text.Basic

/-!
# The fields of a tag

Seven fields with their names, the most characters each may hold, and the frames that carry them in
a newer tag. A track number takes two characters from the comment.
-/

namespace NameTag

inductive Field
  | title
  | artist
  | album
  | year
  | comment
  | trackNumber
  | genre
  deriving DecidableEq, Repr

namespace Field

/-- The fields in the order in which they are shown. -/
def all : List Field :=
  [title, artist, album, year, comment, trackNumber, genre]

theorem mem_all (f : Field) : f ∈ all := by
  cases f <;> decide

def name : Field → Text
  | title => "TITLE".toList
  | artist => "ARTIST".toList
  | album => "ALBUM".toList
  | year => "YEAR".toList
  | comment => "COMMENT".toList
  | trackNumber => "TRACKNUM".toList
  | genre => "GENRE".toList

theorem name_injective {f g : Field} (h : f.name = g.name) : f = g := by
  revert h
  cases f <;> cases g <;> decide

def ofName? (t : Text) : Option Field :=
  all.find? (·.name == t)

theorem ofName?_name (f : Field) : ofName? f.name = some f := by
  cases f <;> decide

/-- The most characters a field may hold; `none` is no limit. -/
def maxLength : Field → Option Nat
  | title | artist | album | comment => some 30
  | year => some 4
  | trackNumber | genre => none

/-- The characters of the comment that a track number takes. -/
def trackNumberReserve : Nat := 2

/-- The frame that carries the field. -/
def frameId : Field → Text
  | title => "TIT2".toList
  | artist => "TPE1".toList
  | album => "TALB".toList
  | year => "TDRC".toList
  | comment => "COMM".toList
  | trackNumber => "TRCK".toList
  | genre => "TCON".toList

/-- The placeholder whose text is dropped. -/
def ignored : Text :=
  "IGNORE".toList

end Field

end NameTag
