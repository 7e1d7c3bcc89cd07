/-
**Addresses without their credentials.**

* `redacted?` — an address as it may be logged: what stands between the first `://` and the last `@`
  after it is replaced by stars. For this the address is cut where the two were found;
* `isSome_redacted?` — it is never cut inside a character, so `redacted` gives every address.
-/

import Syllabus.Text.Offset

namespace Syllabus.Mongo

/-- An address as it may be logged, unless it cannot be cut. -/
def redacted? (uri : String) : Option String :=
  match Text.firstOffset? "://" uri, Text.lastOffset? "@" uri with
  | some schemeEnd, some sign =>
    if schemeEnd < sign then do
      let (scheme, _) ← Text.cut? uri schemeEnd
      let (_, host) ← Text.cut? uri sign
      return scheme ++ "://***" ++ host
    else some uri
  | _, _ => some uri

/-- Every address can be cut where the marks were found. -/
theorem isSome_redacted? (uri : String) : (redacted? uri).isSome := by
  rw [redacted?]
  split
  case h_1 schemeEnd sign first last =>
    split
    case isTrue =>
      obtain ⟨_, before⟩ := Option.isSome_iff_exists.mp
        (Text.isSome_cut?_iff.mpr (Text.isValid_of_firstOffset? (by decide) first))
      obtain ⟨_, after⟩ := Option.isSome_iff_exists.mp
        (Text.isSome_cut?_iff.mpr (Text.isValid_of_lastOffset? (by decide) last))
      rw [before, after]
      rfl
    case isFalse => rfl
  case h_2 => rfl

/-- An address as it may be logged. -/
def redacted (uri : String) : String :=
  (redacted? uri).get (isSome_redacted? uri)

end Syllabus.Mongo
