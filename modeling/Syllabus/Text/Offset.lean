/-
**Offsets in bytes.**

A text is searched byte by byte, and cut only between two characters.

* `firstOffset?`, `lastOffset?` — where a pattern stands in a text;
* `cut?` — the parts of a text before and after an offset;
* `StandsAt.isValid`, `standsAt_iff` — a pattern that stands in the bytes of a text stands in its
  characters;
* `firstOffset?_eq_some_iff`, `lastOffset?_eq_some_iff` — what a search finds;
* `isValid_of_firstOffset?`, `isValid_of_lastOffset?`, `isSome_cut?_iff` — a text can be cut there;
* `cut?_append` — the parts of a text that is cut.

Patterns are texts with something in them: an empty one stands in the middle of characters, too.
-/

namespace Syllabus.Text

/-- The bytes of the text from the offset on begin with those of the pattern. -/
def StandsAt (pattern text : String) (offset : Nat) : Prop :=
  text.toByteArray.extract offset (offset + pattern.utf8ByteSize) = pattern.toByteArray

instance (pattern text : String) : DecidablePred (StandsAt pattern text) := fun offset =>
  inferInstanceAs (Decidable (text.toByteArray.extract offset _ = pattern.toByteArray))

/-- The offsets at which a pattern stands in a text, from left to right. -/
def offsets (pattern text : String) : List Nat :=
  (List.range text.utf8ByteSize).filter (StandsAt pattern text)

/-- The offset at which a pattern stands in a text first. -/
def firstOffset? (pattern text : String) : Option Nat :=
  (offsets pattern text).head?

/-- The offset at which a pattern stands in a text last. -/
def lastOffset? (pattern text : String) : Option Nat :=
  (offsets pattern text).getLast?

/-- The parts of a text before and after an offset. Inside a character and behind the end, a cut is
refused. -/
def cut? (text : String) (offset : Nat) : Option (String × String) :=
  (text.pos? ⟨offset⟩).map fun position =>
    ((text.sliceTo position).copy, (text.sliceFrom position).copy)

variable {pattern text : String} {offset : Nat}

/-! ### Bytes and characters -/

theorem StandsAt.add_le (something : pattern ≠ "") (stands : StandsAt pattern text offset) :
    offset + pattern.utf8ByteSize ≤ text.utf8ByteSize := by
  have positive := mt String.utf8ByteSize_eq_zero_iff.mp something
  have sizes := congrArg ByteArray.size stands
  simp only [ByteArray.size_extract, String.size_toByteArray] at sizes
  omega

theorem extract_append (before rest : String) (size : Nat) :
    (before ++ rest).toByteArray.extract before.utf8ByteSize (before.utf8ByteSize + size) =
      rest.toByteArray.extract 0 size := by
  rw [String.toByteArray_append, ← before.size_toByteArray]
  exact ByteArray.extract_append_size_add (i := 0)

/-- **A pattern begins and ends between two characters**, since its bytes are those of a text, too. -/
theorem StandsAt.isValid (something : pattern ≠ "") (stands : StandsAt pattern text offset) :
    String.Pos.Raw.IsValid text ⟨offset⟩ ∧
      String.Pos.Raw.IsValid text ⟨offset + pattern.utf8ByteSize⟩ := by
  have inside := stands.add_le something
  have whole : (text.toByteArray.extract offset (offset + pattern.utf8ByteSize)).IsValidUTF8 := by
    rw [stands]
    exact pattern.isValidUTF8
  refine ((String.Pos.Raw.isValidUTF8_extract_iff ⟨offset⟩ ⟨offset + pattern.utf8ByteSize⟩
    ?_ ?_).mp whole).resolve_left ?_
  · simp [String.Pos.Raw.le_iff]
  · simpa [String.Pos.Raw.le_iff] using inside
  · simpa using something

/-- **A pattern that stands in the bytes of a text stands in its characters.** -/
theorem standsAt_iff (something : pattern ≠ "") :
    StandsAt pattern text offset ↔
      ∃ before after, text = before ++ pattern ++ after ∧ before.utf8ByteSize = offset := by
  constructor
  · intro stands
    have positive := mt String.utf8ByteSize_eq_zero_iff.mp something
    obtain ⟨begins, ends⟩ := stands.isValid something
    obtain ⟨before, rest, rfl, here⟩ := String.Pos.Raw.isValid_iff_exists_append.mp begins
    obtain rfl : offset = before.utf8ByteSize := congrArg String.Pos.Raw.byteIdx here
    rw [StandsAt, extract_append] at stands
    rcases String.Pos.Raw.isValid_append.mp ends with early | ⟨-, late⟩
    · have small : before.utf8ByteSize + pattern.utf8ByteSize ≤ before.utf8ByteSize :=
        early.le_utf8ByteSize
      omega
    · obtain ⟨middle, after, rfl, there⟩ := String.Pos.Raw.isValid_iff_exists_append.mp late
      have size : pattern.utf8ByteSize = middle.utf8ByteSize := by
        simpa [String.Pos.Raw.ext_iff] using there
      rw [size, String.toByteArray_append, ByteArray.extract_append_eq_left (by simp),
        String.toByteArray_inj] at stands
      exact ⟨before, after, by rw [stands, String.append_assoc], rfl⟩
  · rintro ⟨before, after, rfl, rfl⟩
    rw [StandsAt, String.append_assoc, extract_append, String.toByteArray_append]
    exact ByteArray.extract_append_eq_left (by simp)

/-! ### The first place and the last -/

/-- The head of a list in order is the member that all others come after. -/
theorem head?_eq_some_iff_of_pairwise {α : Type} {Before : α → α → Prop} {list : List α} {first : α}
    (asymmetric : ∀ a b, Before a b → ¬ Before b a) (sorted : list.Pairwise Before) :
    list.head? = some first ↔ first ∈ list ∧ ∀ other ∈ list, other = first ∨ Before first other := by
  cases list with
  | nil => simp
  | cons head rest =>
    obtain ⟨ahead, -⟩ := List.pairwise_cons.mp sorted
    constructor
    · rintro ⟨⟩
      exact ⟨List.mem_cons_self, fun other member => (List.mem_cons.mp member).imp_right (ahead other)⟩
    · rintro ⟨member, before⟩
      rcases before head List.mem_cons_self with rfl | later
      · rfl
      · rcases List.mem_cons.mp member with rfl | member
        · rfl
        · exact absurd (ahead first member) (asymmetric first head later)

theorem mem_offsets_iff (something : pattern ≠ "") :
    offset ∈ offsets pattern text ↔ StandsAt pattern text offset := by
  rw [offsets, List.mem_filter, List.mem_range, decide_eq_true_iff, and_iff_right_iff_imp]
  intro stands
  have inside := stands.add_le something
  have positive := mt String.utf8ByteSize_eq_zero_iff.mp something
  omega

theorem pairwise_offsets (pattern text : String) : (offsets pattern text).Pairwise (· < ·) :=
  List.pairwise_lt_range.filter _

/-- **The first place of a pattern**: it stands there, and nowhere before. -/
theorem firstOffset?_eq_some_iff (something : pattern ≠ "") :
    firstOffset? pattern text = some offset ↔
      StandsAt pattern text offset ∧ ∀ other, StandsAt pattern text other → offset ≤ other := by
  rw [firstOffset?, head?_eq_some_iff_of_pairwise (fun _ _ => Nat.lt_asymm) (pairwise_offsets ..)]
  simp only [mem_offsets_iff something, Nat.le_iff_lt_or_eq, eq_comm, or_comm]

/-- **The last place of a pattern**: it stands there, and nowhere behind. -/
theorem lastOffset?_eq_some_iff (something : pattern ≠ "") :
    lastOffset? pattern text = some offset ↔
      StandsAt pattern text offset ∧ ∀ other, StandsAt pattern text other → other ≤ offset := by
  rw [lastOffset?, List.getLast?_eq_head?_reverse, head?_eq_some_iff_of_pairwise
    (fun _ _ => Nat.lt_asymm) (List.pairwise_reverse.mpr (pairwise_offsets ..))]
  simp only [List.mem_reverse, mem_offsets_iff something, Nat.le_iff_lt_or_eq, or_comm]

theorem isValid_of_firstOffset? (something : pattern ≠ "")
    (found : firstOffset? pattern text = some offset) : String.Pos.Raw.IsValid text ⟨offset⟩ :=
  (StandsAt.isValid something ((firstOffset?_eq_some_iff something).mp found).1).1

theorem isValid_of_lastOffset? (something : pattern ≠ "")
    (found : lastOffset? pattern text = some offset) : String.Pos.Raw.IsValid text ⟨offset⟩ :=
  (StandsAt.isValid something ((lastOffset?_eq_some_iff something).mp found).1).1

/-! ### Cutting -/

/-- **A text is cut between two characters, and nowhere else.** -/
theorem isSome_cut?_iff : (cut? text offset).isSome ↔ String.Pos.Raw.IsValid text ⟨offset⟩ := by
  simp [cut?, String.pos?, String.Slice.pos?]

/-- The second letter has two bytes. -/
example : cut? "né" 1 = some ("n", "é") ∧ cut? "né" 2 = none := by decide

/-- A text that is cut where two texts meet falls into these two. -/
theorem cut?_append (before after : String) :
    cut? (before ++ after) before.utf8ByteSize = some (before, after) := by
  have valid : before.rawEndPos.IsValid (before ++ after) :=
    String.Pos.Raw.isValid_rawEndPos.append_right after
  have found : (before ++ after).pos? ⟨before.utf8ByteSize⟩ =
      some ((before ++ after).pos before.rawEndPos valid) :=
    congrArg (Option.map String.Pos.ofToSlice)
      (dif_pos (String.Pos.Raw.isValidForSlice_eq_true_iff.mpr valid.toSlice))
  have splits : ((before ++ after).pos before.rawEndPos valid).Splits before after :=
    String.Pos.splits_append_rawEndPos
  rw [cut?, found, Option.map_some, splits.copy_sliceTo_eq, splits.copy_sliceFrom_eq]

end Syllabus.Text
