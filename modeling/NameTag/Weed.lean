import NameTag.Weed.Parser
import NameTag.Weed.Match

/-!
# Weeds

A weed is an expression whose matches are blanked in captured text. Compiling one refuses a value that
is no text and an expression with a flaw. Groups may be nested to any depth here; a compiler on a stack
of 1000 calls gives up at 496 nested groups.
-/

namespace NameTag

structure Weed where
  expr : Weed.Expr

namespace Weed

/-- The text with a space in place of every match. -/
def blank (w : Weed) (t : Text) : Text :=
  w.expr.replace [' '] t

/-- Why a value that is no text is no expression. -/
def typeFlaw : Value → Flaw
  | .list _ => .unhashable "list".toList
  | .record _ => .unhashable "dict".toList
  | _ => .notText

def compile (v : Value) : Except Failure Weed :=
  match v with
  | .text t =>
    match Expr.read t with
    | .ok e => .ok ⟨e⟩
    | .error (.flawed e) => .error (.problem (.badWeed v (e.message t)))
    | .error (.fault f) => .error (.fault f)
  | v => .error (.problem (.badWeed v (typeFlaw v).message))

end Weed

end NameTag
