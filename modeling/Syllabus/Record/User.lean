/-
**Users.**

* `Role` — what a user may do; `Bio`, `Enrollment` — parts of a user;
* `User` — a user, whose e-mail address and phone number no other user may have.
-/

import Syllabus.Record.Basic

namespace Syllabus

/-! ### Roles -/

/-- What a user may do. -/
inductive Role where
  | admin
  | moderator
  | student
  deriving DecidableEq

namespace Role

/-- The word for a role. -/
def text : Role → String
  | .admin => "admin"
  | .moderator => "moderator"
  | .student => "student"

/-- The role a word stands for. -/
def ofText? : String → Option Role
  | "admin" => some .admin
  | "moderator" => some .moderator
  | "student" => some .student
  | _ => none

/-- A role is its word, or an object with the word as its one key and null as its value. The value
is passed over where the object ends leniently. Any other kind of value is malformed, and so is an
object without a key. -/
def decode : Draft → Except Fault Role
  | .string word => match ofText? word with
    | some role => .ok role
    | none => .error .mismatch
  | .object ((some word, value) :: members) ending =>
    match ofText? word, ending, members, value with
    | none, _, _, _ => .error .mismatch
    | some role, .lenient, [], _ => .ok role
    | some role, .closed, [], .null => .ok role
    | some _, _, _, .null => .error .malformed
    | some _, _, _, value => .error value.fault
  | _ => .error .malformed

instance : Codec Role where
  json role := .string role.text
  decode := decode

instance : Merge Role := .replacing

end Role

/-! ### Parts of a user -/

/-- A course that a user takes part in. -/
structure Enrollment where
  courseId : String
  title : String
  deriving DecidableEq

instance : Fielded Enrollment where
  blank := ⟨"", ""⟩
  fields := [
    .optional "courseId" Enrollment.courseId
      fun value enrollment => { enrollment with courseId := value },
    .optional "title" Enrollment.title fun value enrollment => { enrollment with title := value }]

/-- How a user can be reached. -/
structure Bio where
  address : String
  phone : String
  postalCode : UInt32
  deriving DecidableEq

namespace Bio

instance : Fielded Bio where
  blank := ⟨"", "", 0⟩
  fields := [
    .optional "address" address fun value bio => { bio with address := value },
    .optional "phone" phone fun value bio => { bio with phone := value },
    .optional "postalCode" postalCode fun value bio => { bio with postalCode := value }]

/-- An update sets every field. -/
instance : Merge Bio where
  merge existing update := {
    address := merge existing.address update.address
    phone := merge existing.phone update.phone
    postalCode := merge existing.postalCode update.postalCode }

end Bio

/-! ### Users -/

/-- A user. -/
structure User where
  userName : String
  email : String
  phone : String
  role : Option Role
  certificates : List String
  enrolledCourses : List Enrollment
  participatedExams : List Enrollment
  bio : Option Bio
  deriving DecidableEq

namespace User

/-- A user with nothing set. -/
def blank : User where
  userName := ""
  email := ""
  phone := ""
  role := none
  certificates := []
  enrolledCourses := []
  participatedExams := []
  bio := none

/-- The template that addresses a user. -/
def withId (userName : String) : User :=
  { blank with userName := userName }

/-- The fields, in order. -/
def fields : List (Field User) := [
  .optional "userName" userName fun value user => { user with userName := value },
  .optional "email" email fun value user => { user with email := value },
  .optional "phone" phone fun value user => { user with phone := value },
  .optional "role" role fun value user => { user with role := value },
  .optional "certificates" certificates fun value user => { user with certificates := value },
  .optional "enrolledCourses" enrolledCourses
    fun value user => { user with enrolledCourses := value },
  .optional "participatedExams" participatedExams
    fun value user => { user with participatedExams := value },
  .optional "bio" bio fun value user => { user with bio := value }]

/-- An update sets everything but the name. -/
def update (existing update : User) : User :=
  { existing with
    email := merge existing.email update.email
    phone := merge existing.phone update.phone
    role := merge existing.role update.role
    certificates := merge existing.certificates update.certificates
    enrolledCourses := merge existing.enrolledCourses update.enrolledCourses
    participatedExams := merge existing.participatedExams update.participatedExams
    bio := merge existing.bio update.bio }

instance : Record User where
  blank := blank
  fields := fields
  merge := update
  kind := .user
  idField := "userName"
  id := userName
  course? _ := none
  uniqueFields user := [("email", user.email), ("phone", user.phone)]

end User

end Syllabus
