import NameTag.Value.Basic
import NameTag.Text.Quoted

/-!
# Values as text

`Value.written` is the text of a value inside a list, a record or a message, where texts are quoted;
`Value.shown` differs only in that a text stands for itself.
-/

namespace NameTag.Value

mutual

def written : Value → Text
  | .null => "None".toList
  | .flag true => "True".toList
  | .flag false => "False".toList
  | .int n => Text.ofInt n
  | .real x => x.toText
  | .text t => Text.quoted t
  | .list items => '[' :: writtenItems items ++ [']']
  | .record entries => '\x7b' :: writtenEntries entries ++ ['\x7d']

def writtenItems : List Value → Text
  | [] => []
  | [item] => written item
  | item :: next :: rest => written item ++ ", ".toList ++ writtenItems (next :: rest)

def writtenEntries : List (Text × Value) → Text
  | [] => []
  | [(key, value)] => Text.quoted key ++ ": ".toList ++ written value
  | (key, value) :: next :: rest =>
    Text.quoted key ++ ": ".toList ++ written value ++ ", ".toList ++ writtenEntries (next :: rest)

end

def shown : Value → Text
  | .text t => t
  | v => v.written

end NameTag.Value
