/-!
# Spans: stretches of a text, from a byte offset up to another
-/

namespace Scriptlet

structure Span where
  start : Nat
  stop : Nat
deriving DecidableEq, Inhabited

namespace Span

def empty (offset : Nat) : Span := ⟨offset, offset⟩

/-- the least span that covers both -/
def union (a b : Span) : Span := ⟨min a.start b.start, max a.stop b.stop⟩

/-- A span that stops before it starts has length zero. -/
def length (s : Span) : Nat := s.stop - s.start

def isEmpty (s : Span) : Bool := s.length == 0

end Span

end Scriptlet
