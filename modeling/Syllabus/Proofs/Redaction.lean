/-
**What is logged of an address.**

The credentials of an address stand between the mark `://` that ends its scheme and the mark `@` before its
host. They may hold both marks, and any other characters, so the first of the one and the last of the other
count. Neither mark can overlap itself, which makes the first one and the last one the right ones.

* `Text.Unbordered` — patterns that cannot overlap themselves; `Text.Unbordered.apart` — two places of such a
  pattern are apart;
* `Text.firstOffset?_eq_some_iff_append`, `Text.lastOffset?_eq_some_iff_append` — the first place of such a
  pattern is behind a text without it, the last one before a text without it;
* `Mongo.redacted?_of_credentials`, `Mongo.redacted?_of_open` — an address with credentials, and one
  without;
* **`credentials_stay_hidden`** — nothing of the credentials is logged.
-/

import Mathlib.Data.List.Infix
import Syllabus.Mongo.Client

namespace Syllabus

namespace Text

/-! ### Parts of texts -/

variable {pattern text : String} {offset : Nat}

/-- Of two ways to cut a text in two, one cuts further to the right. -/
theorem append_eq_append_cases {first second third fourth : String}
    (same : first ++ second = third ++ fourth) :
    (∃ between, third = first ++ between ∧ second = between ++ fourth) ∨
      (∃ between, first = third ++ between ∧ fourth = between ++ second) := by
  have lists := congrArg String.toList same
  rw [String.toList_append, String.toList_append] at lists
  rcases List.append_eq_append_iff.mp lists with ⟨between, left, right⟩ | ⟨between, left, right⟩
  · exact .inl ⟨.ofList between, String.toList_inj.mp (by simp [left]),
      String.toList_inj.mp (by simp [right])⟩
  · exact .inr ⟨.ofList between, String.toList_inj.mp (by simp [left]),
      String.toList_inj.mp (by simp [right])⟩

theorem infix_toList_iff : pattern.toList <:+: text.toList ↔
    ∃ before after, text = before ++ pattern ++ after := by
  constructor
  · rintro ⟨before, after, split⟩
    exact ⟨.ofList before, .ofList after, String.toList_inj.mp (by simp [← split])⟩
  · rintro ⟨before, after, rfl⟩
    exact ⟨before.toList, after.toList, by simp⟩

/-! ### Patterns that cannot overlap themselves -/

/-- Nothing between the empty text and the whole pattern is both its beginning and its end. -/
def Unbordered (pattern : String) : Prop :=
  ∀ border ∈ pattern.toList.inits, border <:+ pattern.toList → border = [] ∨ border = pattern.toList

instance : DecidablePred Unbordered := fun pattern =>
  inferInstanceAs (Decidable (∀ border ∈ pattern.toList.inits, _ → _))

/-- A pattern that stands at the beginning of a text and again later stands there apart. -/
theorem Unbordered.shift_eq {shift rest after : String} (unbordered : Unbordered pattern)
    (same : pattern ++ rest = shift ++ (pattern ++ after)) :
    shift = "" ∨ ∃ between, shift = pattern ++ between := by
  rcases append_eq_append_cases same with ⟨between, longer, -⟩ | ⟨border, split, tail⟩
  · exact .inr ⟨between, longer⟩
  · -- What the two have in common is the end of the one and the beginning of the other.
    have ends : border.toList <:+ pattern.toList := ⟨shift.toList, by simp [split]⟩
    have begins : border.toList <+: pattern.toList := by
      refine List.prefix_of_prefix_length_le ⟨rest.toList, ?_⟩ (List.prefix_append _ after.toList)
        ends.length_le
      rw [← String.toList_append, ← String.toList_append, tail]
    rcases unbordered _ ((List.mem_inits ..).mpr begins) ends with none | all
    · obtain rfl : border = "" := by simpa using none
      exact .inr ⟨"", by simp [split]⟩
    · obtain rfl : border = pattern := String.toList_inj.mp all
      exact .inl (by simpa using congrArg String.toList split)

/-- **Two places of a pattern are one, or apart**: it stands again before the one, or behind it. -/
theorem Unbordered.apart {before after front back : String} (unbordered : Unbordered pattern)
    (same : before ++ pattern ++ after = front ++ pattern ++ back) :
    before = front ∨ (∃ between, before = front ++ pattern ++ between) ∨
      ∃ between, after = between ++ pattern ++ back := by
  rw [String.append_assoc, String.append_assoc] at same
  rcases append_eq_append_cases same with ⟨shift, rfl, tail⟩ | ⟨shift, rfl, tail⟩
  · rcases unbordered.shift_eq tail with rfl | ⟨between, rfl⟩
    · exact .inl String.append_empty.symm
    · rw [String.append_assoc] at tail
      refine .inr (.inr ⟨between, ?_⟩)
      rw [(String.append_right_inj _).mp tail, String.append_assoc]
  · rcases unbordered.shift_eq tail with rfl | ⟨between, rfl⟩
    · exact .inl String.append_empty
    · exact .inr (.inl ⟨between, (String.append_assoc ..).symm⟩)

variable (something : pattern ≠ "") (unbordered : Unbordered pattern)

include something unbordered

/-- **The first place of a pattern** is behind a text without it. -/
theorem firstOffset?_eq_some_iff_append :
    firstOffset? pattern text = some offset ↔ ∃ before after, text = before ++ pattern ++ after ∧
      ¬ pattern.toList <:+: before.toList ∧ before.utf8ByteSize = offset := by
  have positive := mt String.utf8ByteSize_eq_zero_iff.mp something
  simp only [firstOffset?_eq_some_iff something, standsAt_iff something]
  constructor
  · rintro ⟨⟨before, after, rfl, rfl⟩, least⟩
    refine ⟨before, after, rfl, fun inside => ?_, rfl⟩
    obtain ⟨front, between, rfl⟩ := infix_toList_iff.mp inside
    have early := least _ ⟨front, between ++ pattern ++ after, by simp [String.append_assoc], rfl⟩
    simp only [String.utf8ByteSize_append] at early
    omega
  · rintro ⟨before, after, rfl, absent, rfl⟩
    refine ⟨⟨before, after, rfl, rfl⟩, ?_⟩
    rintro _ ⟨front, back, same, rfl⟩
    have sizes := congrArg String.utf8ByteSize same
    rcases unbordered.apart same with rfl | ⟨between, split⟩ | ⟨between, rfl⟩
    · exact Nat.le_refl _
    · exact absurd (infix_toList_iff.mpr ⟨front, between, split⟩) absent
    · simp only [String.utf8ByteSize_append] at sizes
      omega

/-- **The last place of a pattern** is before a text without it. -/
theorem lastOffset?_eq_some_iff_append :
    lastOffset? pattern text = some offset ↔ ∃ before after, text = before ++ pattern ++ after ∧
      ¬ pattern.toList <:+: after.toList ∧ before.utf8ByteSize = offset := by
  have positive := mt String.utf8ByteSize_eq_zero_iff.mp something
  simp only [lastOffset?_eq_some_iff something, standsAt_iff something]
  constructor
  · rintro ⟨⟨before, after, rfl, rfl⟩, greatest⟩
    refine ⟨before, after, rfl, fun inside => ?_, rfl⟩
    obtain ⟨between, back, rfl⟩ := infix_toList_iff.mp inside
    have late := greatest _ ⟨before ++ pattern ++ between, back, by simp [String.append_assoc], rfl⟩
    simp only [String.utf8ByteSize_append] at late
    omega
  · rintro ⟨before, after, rfl, absent, rfl⟩
    refine ⟨⟨before, after, rfl, rfl⟩, ?_⟩
    rintro _ ⟨front, back, same, rfl⟩
    have sizes := congrArg String.utf8ByteSize same
    rcases unbordered.apart same with rfl | ⟨between, rfl⟩ | ⟨between, split⟩
    · exact Nat.le_refl _
    · simp only [String.utf8ByteSize_append] at sizes ⊢
      omega
    · exact absurd (infix_toList_iff.mpr ⟨between, back, split⟩) absent

end Text

/-! ### Addresses -/

namespace Mongo

theorem infix_sign_iff {text : String} : "@".toList <:+: text.toList ↔ '@' ∈ text.toList :=
  List.singleton_infix_iff '@' text.toList

/-- **Credentials are replaced by stars**, whatever they hold. -/
theorem redacted?_of_credentials {before after : String} (credentials : String)
    (bare : ¬ "://".toList <:+: before.toList) (plain : '@' ∉ after.toList) :
    redacted? (before ++ "://" ++ credentials ++ "@" ++ after) =
      some (before ++ "://***@" ++ after) := by
  obtain ⟨uri, is⟩ : ∃ uri, uri = before ++ "://" ++ credentials ++ "@" ++ after := ⟨_, rfl⟩
  have atScheme : uri = before ++ ("://" ++ credentials ++ "@" ++ after) := by
    simp only [is, String.append_assoc]
  have atSign : uri = before ++ "://" ++ credentials ++ ("@" ++ after) := by
    simp only [is, String.append_assoc]
  -- The two marks are found, in this order.
  have first : Text.firstOffset? "://" uri = some before.utf8ByteSize :=
    (Text.firstOffset?_eq_some_iff_append (by decide) (by decide)).mpr
      ⟨before, credentials ++ "@" ++ after, by simp only [is, String.append_assoc], bare, rfl⟩
  have last : Text.lastOffset? "@" uri = some (before ++ "://" ++ credentials).utf8ByteSize :=
    (Text.lastOffset?_eq_some_iff_append (by decide) (by decide)).mpr
      ⟨before ++ "://" ++ credentials, after, is, mt infix_sign_iff.mp plain, rfl⟩
  have behind : before.utf8ByteSize < (before ++ "://" ++ credentials).utf8ByteSize := by
    have size : "://".utf8ByteSize = 3 := by decide
    simp only [String.utf8ByteSize_append]
    omega
  -- The address is cut at both.
  have scheme : Text.cut? uri before.utf8ByteSize =
      some (before, "://" ++ credentials ++ "@" ++ after) := by
    rw [atScheme, Text.cut?_append]
  have host : Text.cut? uri (before ++ "://" ++ credentials).utf8ByteSize =
      some (before ++ "://" ++ credentials, "@" ++ after) := by
    rw [atSign, Text.cut?_append]
  rw [← is]
  calc redacted? uri
      = some (before ++ "://***" ++ ("@" ++ after)) := by
        rw [redacted?, first, last]
        simp only [if_pos behind, scheme, host]
        rfl
    _ = some (before ++ ("://***" ++ "@") ++ after) := by simp only [String.append_assoc]
    _ = some (before ++ "://***@" ++ after) := rfl

/-- **An address without a sign behind its scheme is logged as it is.** -/
theorem redacted?_of_open {uri : String}
    (plain : ∀ before after, uri = before ++ "://" ++ after → ¬ "://".toList <:+: before.toList →
      '@' ∉ after.toList) : redacted? uri = some uri := by
  rw [redacted?]
  split
  case h_1 schemeEnd sign first last =>
    refine if_neg fun behind => ?_
    obtain ⟨before, after, rfl, bare, rfl⟩ :=
      (Text.firstOffset?_eq_some_iff_append (by decide) (by decide)).mp first
    obtain ⟨front, back, same, -, rfl⟩ :=
      (Text.lastOffset?_eq_some_iff_append (by decide) (by decide)).mp last
    rw [String.append_assoc, String.append_assoc] at same
    rcases Text.append_eq_append_cases same with ⟨between, rfl, tail⟩ | ⟨between, rfl, -⟩
    · have member : '@' ∈ ("://" ++ after).toList := by simp [tail]
      rw [String.toList_append, List.mem_append] at member
      exact plain before after rfl bare (member.resolve_left (by decide))
    · rw [String.utf8ByteSize_append] at behind
      omega
  case h_2 => rfl

theorem redacted?_eq_some (uri : String) : redacted? uri = some (redacted uri) :=
  (Option.some_get _).symm

/-- What is logged is the address that the settings name, as it may be logged. -/
theorem logged_eq {settings : DatabaseSettings} {uri : String} (named : settings.uri = some uri) :
    logged settings = redacted? uri := by
  rw [logged, named, redacted?_eq_some]
  rfl

end Mongo

open Mongo

/-- **Nothing of the credentials is logged.** In an address, they stand between the first `://` and the
last `@`, and may hold any characters, these marks too. They are replaced by stars, so that addresses which
differ in them alone are logged alike, whatever else the settings say. An address without an `@` behind its
first `://` is logged as it is. The marks are always found between two characters; so cutting an address
there is never refused, and every address is logged in some way. -/
theorem credentials_stay_hidden :
    (∀ before credentials after : String, ¬ "://".toList <:+: before.toList → '@' ∉ after.toList →
      redacted? (before ++ "://" ++ credentials ++ "@" ++ after) =
        some (before ++ "://***@" ++ after)) ∧
    (∀ (settings others : DatabaseSettings) (before first second after : String),
      ¬ "://".toList <:+: before.toList → '@' ∉ after.toList →
      settings.uri = some (before ++ "://" ++ first ++ "@" ++ after) →
      others.uri = some (before ++ "://" ++ second ++ "@" ++ after) →
      logged settings = some (before ++ "://***@" ++ after) ∧ logged others = logged settings) ∧
    (∀ uri : String,
      (∀ before after, uri = before ++ "://" ++ after → ¬ "://".toList <:+: before.toList →
        '@' ∉ after.toList) →
      redacted? uri = some uri) ∧
    (∀ uri : String,
      (∀ offset, Text.firstOffset? "://" uri = some offset → String.Pos.Raw.IsValid uri ⟨offset⟩) ∧
      (∀ offset, Text.lastOffset? "@" uri = some offset → String.Pos.Raw.IsValid uri ⟨offset⟩) ∧
      ∃ line, redacted? uri = some line ∧
        ∀ settings : DatabaseSettings, settings.uri = some uri → logged settings = some line) := by
  refine ⟨fun _ credentials _ bare plain => redacted?_of_credentials credentials bare plain, ?_,
    fun _ plain => redacted?_of_open plain, fun uri => ⟨fun _ => ?_, fun _ => ?_, ?_⟩⟩
  · intro settings others before first second after bare plain named named'
    have hidden := redacted?_of_credentials first bare plain
    have hidden' := redacted?_of_credentials second bare plain
    rw [logged_eq named, logged_eq named', hidden, hidden']
    exact ⟨rfl, rfl⟩
  · exact Text.isValid_of_firstOffset? (by decide)
  · exact Text.isValid_of_lastOffset? (by decide)
  · refine ⟨redacted uri, redacted?_eq_some uri, fun settings named => ?_⟩
    rw [logged_eq named, redacted?_eq_some]

/-- A password that holds both marks, and characters of several bytes, is not logged. An address without
credentials is logged as it is. -/
theorem credentials_stay_hidden_of_marks :
    (¬ "://".toList <:+: "mongodb".toList ∧ '@' ∉ "localhost:27017/?authSource=admin".toList ∧
      redacted? "mongodb://üser:p@ss://wörd@localhost:27017/?authSource=admin" =
        some "mongodb://***@localhost:27017/?authSource=admin") ∧
    redacted? "mongodb://localhost:27017" = some "mongodb://localhost:27017" := by
  obtain ⟨hides, -, keeps, -⟩ := credentials_stay_hidden
  have bare : ¬ "://".toList <:+: "mongodb".toList := by decide
  have plain : '@' ∉ "localhost:27017/?authSource=admin".toList := by decide
  refine ⟨⟨bare, plain, hides "mongodb" "üser:p@ss://wörd" "localhost:27017/?authSource=admin" bare
    plain⟩, keeps _ fun before after split _ member => ?_⟩
  have none : '@' ∉ "mongodb://localhost:27017".toList := by decide
  rw [split, String.toList_append] at none
  exact none (List.mem_append_right _ member)

end Syllabus
