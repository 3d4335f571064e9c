import Scriptlet.Text.Extender
import Scriptlet.Text.Printable

/-!
# Quoted texts: a text on one line, between quotes, with every character visible

A backslash stands before the quote in use, before itself, and before `0`, `t`, `r`, `n` for NUL,
tab, carriage return and line feed.  Characters that do not show by themselves are written by their
code point, in lower-case hexadecimal between braces.
-/

namespace Scriptlet.Text

/-- the halfwidth voicing marks: extenders by their property, but letters with their own shape -/
def isVoicingMark (c : Char) : Bool := c = '\uff9e' || c = '\uff9f'

/-- the Hangul fillers: letters without any shape -/
def isFiller (c : Char) : Bool :=
  c = '\u115f' || c = '\u1160' || c = '\u3164' || c = '\uffa0'

/-- Whether a reader sees the character where it stands, with nothing before it to attach to. -/
def isVisible (c : Char) : Bool :=
  isPrintable c && !isFiller c && (!isExtender c || isVoicingMark c)

def codePointEscape (c : Char) : List Char :=
  ['\\', 'u', '\x7b'] ++ Nat.toDigits 16 c.toNat ++ ['\x7d']

def escape (quote c : Char) : List Char :=
  if c = '\x00' then ['\\', '0']
  else if c = '\t' then ['\\', 't']
  else if c = '\r' then ['\\', 'r']
  else if c = '\n' then ['\\', 'n']
  else if c = '\\' || c = quote then ['\\', c]
  else if isVisible c then [c]
  else codePointEscape c

def quoted (s : String) : String :=
  String.ofList ('"' :: s.toList.flatMap (escape '"') ++ ['"'])

def quotedChar (c : Char) : String :=
  String.ofList ('\x27' :: escape '\x27' c ++ ['\x27'])

theorem quoted_eq (s : String) :
    quoted s = String.ofList ('"' :: s.toList.flatMap (escape '"') ++ ['"']) := rfl

end Scriptlet.Text
