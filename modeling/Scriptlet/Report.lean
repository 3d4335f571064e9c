import Scriptlet.Evaluation
import Scriptlet.SyntaxError

/-!
# Reports: an error as its reader sees it, with the places in the script that it is about
-/

namespace Scriptlet

structure Snippet where
  label : String
  span : Span
deriving DecidableEq

structure Report where
  message : Option String
  snippets : List Snippet
deriving DecidableEq

def SyntaxError.report (e : SyntaxError) : Report := ⟨some "syntax error", [⟨e.message, e.span⟩]⟩

def RuntimeError.Kind.label : RuntimeError.Kind → String
  | .unknownFunction _ => "no native function with this name"
  | .unknownVariable _ => "not assigned before this point"

def RuntimeError.report (e : RuntimeError) : Report := ⟨some e.message, [⟨e.kind.label, e.span⟩]⟩

end Scriptlet
