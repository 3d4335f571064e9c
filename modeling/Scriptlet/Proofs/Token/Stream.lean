import Scriptlet.Proofs.Token.Coverage

/-!
# Stream: the tokens of a text and, after them, the end of the input

* `stream_eq`             the lexer gives the tokens of a text, and then the end of the input;
* `slice?_of_mem_stream`  every token covers a part of the text, between characters;
* `slice?_of_mem`         for a token that is no string, this part is what it says.
-/

namespace Scriptlet.Token

open Text

/-- what the lexer gives for a text, up to the first time that it gives the end of the input -/
def stream (text : String) : List Token := firstOf ((ofText text).length + 1) (.start text.toList)

theorem stream_eq (text : String) : stream text = ofText text ++ [endAt text.utf8ByteSize] := by
  have hfirst := (covers_ofText text).firstOf_eq 1
  rw [Nat.zero_add, byteLength_toList] at hfirst
  exact hfirst

theorem mem_stream_iff {text : String} {t : Token} :
    t ∈ stream text ↔ t ∈ ofText text ∨ t = endAt text.utf8ByteSize := by
  rw [stream_eq, List.mem_append, List.mem_singleton]

theorem slice?_of_mem_stream {text : String} {t : Token} (ht : t ∈ stream text) :
    ∃ xs, slice? t.span text.toList = some xs := by
  obtain ht | rfl := mem_stream_iff.mp ht
  · obtain ⟨a, l, b, hcs, -, hspan⟩ := (covers_ofText text).lexeme_of_mem ht
    rw [Nat.zero_add] at hspan
    exact ⟨l, slice?_eq_some_iff.mpr ⟨a, b, hcs, hspan⟩⟩
  · refine ⟨[], slice?_eq_some_iff.mpr ⟨text.toList, [], ?_, ?_⟩⟩
    · rw [List.append_nil, List.append_nil]
    · rw [byteLength_toList]
      rfl

theorem slice?_of_mem {text : String} {t : Token} (ht : t ∈ ofText text)
    (hkind : t.kind ≠ .string) : slice? t.span text.toList = some t.text.toList := by
  obtain ⟨a, l, b, hcs, hlex, hspan⟩ := (covers_ofText text).lexeme_of_mem ht
  rw [Nat.zero_add] at hspan
  have hstands := standsIn_of_lexeme hlex hspan
  rw [← hcs, StandsIn, if_neg hkind] at hstands
  exact hstands

end Scriptlet.Token
