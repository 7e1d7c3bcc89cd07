/-
**Percent-encoded texts.**

* `percentDecode` — the bytes that a text with escapes of the form `%XX` stands for;
* `percentDecoded?` — the text of those bytes, if they are UTF-8.
-/

import Syllabus.Text.Hex

namespace Syllabus.Text

/-- The byte that two hexadecimal digits stand for. -/
def hexByte? (high low : UInt8) : Option UInt8 := do
  let high ← hexValue? (Char.ofNat high.toNat)
  let low ← hexValue? (Char.ofNat low.toNat)
  return (16 * high + low).toUInt8

/-- Replaces each escape by its byte. A percent sign that starts no escape stays as it is. -/
def percentDecode : List UInt8 → List UInt8
  | percent :: high :: low :: rest =>
    if percent = 0x25 then
      match hexByte? high low with
      | some byte => byte :: percentDecode rest
      | none => percent :: percentDecode (high :: low :: rest)
    else percent :: percentDecode (high :: low :: rest)
  | rest => rest

/-- The text that a text with escapes stands for, if its bytes are UTF-8. -/
def percentDecoded? (text : String) : Option String :=
  String.fromUTF8? ⟨(percentDecode text.toUTF8.toList).toArray⟩

end Syllabus.Text
