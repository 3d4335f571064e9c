import Scriptlet.Number.Shortest
import Scriptlet.Script

/-!
# Printer: scripts as text

One statement a line, four spaces deep; every operation stands in parentheses of its own, so that
the text needs no rule of precedence.
-/

namespace Scriptlet

def Expr.text : Expr → String
  | .number v _ => v.text
  | .var x _ => x.name
  | .binary op l r _ =>
    "(" ++ l.text ++ " " ++ String.singleton op.symbol ++ " " ++ r.text ++ ")"

def Statement.text : Statement → String
  | .assign x e => "var " ++ x.name ++ " = " ++ e.text ++ ";"
  | .call f args => f.name ++ "(" ++ String.intercalate ", " (args.map Expr.text) ++ ");"

def Script.text (s : Script) : String :=
  "function " ++ s.name.name ++ "() \x7b\n"
    ++ String.join (s.body.map fun st => "    " ++ st.text ++ "\n") ++ "\x7d"

end Scriptlet
