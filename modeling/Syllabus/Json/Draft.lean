/-
**Drafts: what a decoder is handed.**

A text may stop being JSON at any point, and a decoder that reads on from the left has to know what
it met first: a value of the wrong kind or the point where the text goes wrong. A draft keeps both.

* `Draft` — a value as far as it can be read;
* `Draft.intact` — the value was read to its end;
* `Draft.json?` — the value of a draft read to its end;
* `Json.draft` — the draft of a value; `Json.json?_draft` — it stands for the value.
-/

import Syllabus.Json.Basic

namespace Syllabus

/-- What follows the last part of a list or an object. -/
inductive Ending where
  /-- The closing bracket: the parts before it are all, and a decoder has to account for each. -/
  | closed
  /-- The text goes wrong. -/
  | broken
  /-- Nothing; a decoder may pass over parts it has no use for. -/
  | lenient
  deriving DecidableEq

/-- A value as far as it can be read. -/
inductive Draft where
  | null
  | bool (value : Bool)
  | integer (value : Int)
  | decimal (value : Binary64)
  | string (value : String)
  /-- Bytes, as a stored value may have them; a text is read from them if they are UTF-8. -/
  | bytes (value : List UInt8)
  /-- A string with half of a surrogate pair. It stands for no text, but it can be ignored. -/
  | unpaired
  /-- A number beyond the range of doubles. It stands for no value, but it can be ignored. -/
  | outOfRange
  /-- The text goes wrong here. -/
  | broken
  | array (items : List Draft) (ending : Ending)
  /-- An object's members in order. There is no key where half of a surrogate pair stands in it. -/
  | object (members : List (Option String × Draft)) (ending : Ending)

namespace Draft

mutual

/-- The value was read to its end. -/
def intact : Draft → Bool
  | .broken => false
  | .array items ending => ending != .broken && itemsIntact items
  | .object members ending => ending != .broken && membersIntact members
  | _ => true

/-- All items were read to their end. -/
def itemsIntact : List Draft → Bool
  | [] => true
  | item :: items => item.intact && itemsIntact items

/-- All members were read to their end. -/
def membersIntact : List (Option String × Draft) → Bool
  | [] => true
  | (_, value) :: members => value.intact && membersIntact members

end

mutual

/-- The value of a draft that was read to its end and stands for one. -/
def json? : Draft → Option Json
  | .null => some .null
  | .bool value => some (.bool value)
  | .integer value => some (.integer value)
  | .decimal value => some (.decimal value)
  | .string value => some (.string value)
  | .bytes _ => none
  | .unpaired => none
  | .outOfRange => none
  | .broken => none
  | .array items ending => if ending = .broken then none else (itemsJson? items).map .array
  | .object members ending => if ending = .broken then none else (membersJson? members).map .object

/-- The values of all items. -/
def itemsJson? : List Draft → Option (List Json)
  | [] => some []
  | item :: items => (json? item).bind fun value => (itemsJson? items).map (value :: ·)

/-- The values of all members. -/
def membersJson? : List (Option String × Draft) → Option (List (String × Json))
  | [] => some []
  | (key, value) :: members =>
    key.bind fun key =>
      (json? value).bind fun value => (membersJson? members).map ((key, value) :: ·)

end

end Draft

namespace Json

mutual

/-- The draft that the text of a value has. -/
def draft : Json → Draft
  | .null => .null
  | .bool value => .bool value
  | .integer value => .integer value
  | .decimal value => .decimal value
  | .string value => .string value
  | .array items => .array (itemsDraft items) .closed
  | .object members => .object (membersDraft members) .closed

/-- The drafts of all items. -/
def itemsDraft : List Json → List Draft
  | [] => []
  | item :: items => item.draft :: itemsDraft items

/-- The drafts of all members. -/
def membersDraft : List (String × Json) → List (Option String × Draft)
  | [] => []
  | (key, value) :: members => (some key, value.draft) :: membersDraft members

end

mutual

/-- The draft of a value stands for the value. -/
@[simp]
theorem json?_draft : (value : Json) → value.draft.json? = some value
  | .null | .bool _ | .integer _ | .decimal _ | .string _ => rfl
  | .array items => by simp [draft, Draft.json?, itemsJson?_itemsDraft items]
  | .object members => by simp [draft, Draft.json?, membersJson?_membersDraft members]

/-- The drafts of items stand for the items. -/
theorem itemsJson?_itemsDraft : (items : List Json) →
    Draft.itemsJson? (itemsDraft items) = some items
  | [] => rfl
  | item :: items => by
    simp [itemsDraft, Draft.itemsJson?, json?_draft item, itemsJson?_itemsDraft items]

/-- The drafts of members stand for the members. -/
theorem membersJson?_membersDraft : (members : List (String × Json)) →
    Draft.membersJson? (membersDraft members) = some members
  | [] => rfl
  | (key, value) :: members => by
    simp [membersDraft, Draft.membersJson?, json?_draft value, membersJson?_membersDraft members]

end

end Json

end Syllabus
