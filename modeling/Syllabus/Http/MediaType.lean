/-
**Media types.**

* `MediaType` — type, subtype and the suffix after the subtype's last plus sign;
* `MediaType.read?` — the media type of a header, if its parameters are well-formed;
* `MediaType.isJson` — `application/json` and `application/…+json`, in any case.
-/

import Syllabus.Http.Message

namespace Syllabus.Http

/-- A media type without its parameters. -/
structure MediaType where
  type : String
  subtype : String
  suffix : Option String

namespace MediaType

/-- A character of a token: a letter, a digit or one of these marks. -/
def isTokenChar (c : Char) : Bool :=
  c.isAlphanum || "!#$%&'*+-.^_`|~".toList.contains c

/-- A character that may stand in quotes. -/
def isQuotedChar (c : Char) : Bool :=
  0x1F < c.toNat && c.toNat != 0x7F

/-! ### Parameters -/

/-- How far the parameters after a semicolon have been read. -/
inductive Progress where
  /-- Before a name. -/
  | start
  | name
  /-- After the equals sign. -/
  | valueStart
  | value
  /-- After an opening quote. -/
  | quoteStart
  | quote
  /-- After a closing quote. -/
  | quoteEnd
  deriving DecidableEq

namespace Progress

/-- The progress after one more character, if it may stand there. A quoted value has one character
at least, even if that is a quote. -/
def step (c : Char) : Progress → Option Progress
  | .start => if c = ' ' then some .start else if isTokenChar c then some .name else none
  | .name => if isTokenChar c then some .name else if c = '=' then some .valueStart else none
  | .valueStart =>
    if c = '"' then some .quoteStart else if isTokenChar c then some .value else none
  | .value => if isTokenChar c then some .value else if c = ';' then some .start else none
  | .quoteStart => if isQuotedChar c then some .quote else none
  | .quote => if c = '"' then some .quoteEnd else if isQuotedChar c then some .quote else none
  | .quoteEnd => if c = ';' then some .start else if c = ' ' then some .quoteEnd else none

/-- The parameters may end here. -/
def isFinal : Progress → Bool
  | .start | .valueStart | .value | .quoteEnd => true
  | .name | .quoteStart | .quote => false

/-- Reads the rest of the parameters and tells whether they are well-formed. -/
def finishes (progress : Progress) : List Char → Bool
  | [] => progress.isFinal
  | c :: rest => match progress.step c with
    | some next => next.finishes rest
    | none => false

end Progress

/-! ### The type -/

/-- A subtype, split at its last plus sign. The first character is no such sign. -/
def splitSuffix (subtype : List Char) : String × Option String :=
  let reversed := subtype.reverse
  let suffix := reversed.takeWhile (· != '+')
  match reversed.dropWhile (· != '+') with
  | _ :: before =>
    if before.isEmpty then (String.ofList subtype, none)
    else (String.ofList before.reverse, some (String.ofList suffix.reverse))
  | [] => (String.ofList subtype, none)

/-- The media type of a header: tokens around a slash, then parameters after semicolons. -/
def read? (header : String) : Option MediaType :=
  let text := header.toList
  let type := text.takeWhile isTokenChar
  match text.dropWhile isTokenChar with
  | '/' :: rest =>
    let subtype := rest.takeWhile isTokenChar
    let wellFormed := match rest.dropWhile isTokenChar with
      | [] => true
      | ';' :: parameters => !subtype.isEmpty && Progress.start.finishes parameters
      | _ => false
    if !type.isEmpty && isHeaderText header && wellFormed then
      let (subtype, suffix) := splitSuffix subtype
      some ⟨String.ofList type, subtype, suffix⟩
    else none
  | _ => none

/-- Bodies of the media type are JSON. -/
def isJson (mediaType : MediaType) : Bool :=
  let lower (text : String) := text.map Char.toLower
  lower mediaType.type == "application" &&
    (lower mediaType.subtype == "json" || (mediaType.suffix.map lower) == some "json")

end MediaType

end Syllabus.Http
