import GuildRegistry.Json.Value

/-! The records of the guild registry: applications to join, their history of decisions,

admins and their profiles, and cups won in a chat.
-/

set_option autoImplicit false

namespace GuildRegistry

/-- Where an application stands. -/
inductive Status where
  | pending
  | approved
  | denied
  | withdrawn
  deriving DecidableEq, Repr, Inhabited

namespace Status

def all : List Status := [.pending, .approved, .denied, .withdrawn]

def text : Status → String
  | .pending => "pending"
  | .approved => "approved"
  | .denied => "denied"
  | .withdrawn => "withdrawn"

def ofText? (s : String) : Option Status := all.find? (·.text == s)

/-- The statuses that close a review. -/
def isDecision : Status → Bool
  | .approved | .denied => true
  | _ => false

end Status

/-- One answered question of an application. -/
structure Response where
  questionId : String
  question : String
  answer : String
  deriving DecidableEq, Repr, Inhabited

/-- An application to join, waiting for review. -/
structure Application where
  userId : Binary64
  fullName : String
  username : Option String
  answer : String
  responses : List Response
  createdAt : String
  languageCode : Option String
  deriving DecidableEq, Repr, Inhabited

/-- The latest state of a user's application. -/
structure HistoryEntry where
  status : Status
  updatedAt : String
  note : Option String
  languageCode : Option String
  deriving DecidableEq, Repr, Inhabited

/-- A cup awarded in a chat. -/
structure Cup where
  title : String
  description : String
  podium : List String
  createdAt : String
  deriving DecidableEq, Repr, Inhabited

/-- What is known of an admin besides the identifier. -/
structure AdminProfile where
  username : Option String
  fullName : Option String
  deriving DecidableEq, Repr, Inhabited

def AdminProfile.blank : AdminProfile := ⟨none, none⟩

namespace Response

def toJson (r : Response) : Json :=
  .obj [("question_id", .str r.questionId), ("question", .str r.question), ("answer", .str r.answer)]

end Response

namespace Application

def toJson (a : Application) : Json :=
  .obj [("user_id", .num a.userId), ("full_name", .str a.fullName),
    ("username", Json.ofOption a.username), ("answer", .str a.answer),
    ("responses", .arr (a.responses.map Response.toJson)), ("created_at", .str a.createdAt),
    ("language_code", Json.ofOption a.languageCode)]

end Application

namespace HistoryEntry

/-- The fields of an entry, for embedding in a larger object. -/
def fields (e : HistoryEntry) : List (String × Json) :=
  [("status", .str e.status.text), ("updated_at", .str e.updatedAt),
    ("note", Json.ofOption e.note), ("language_code", Json.ofOption e.languageCode)]

def toJson (e : HistoryEntry) : Json := .obj e.fields

end HistoryEntry

namespace Cup

def toJson (c : Cup) : Json :=
  .obj [("title", .str c.title), ("description", .str c.description),
    ("podium", .arr (c.podium.map Json.str)), ("created_at", .str c.createdAt)]

end Cup

namespace AdminProfile

def toJson (p : AdminProfile) : Json :=
  .obj [("username", Json.ofOption p.username), ("full_name", Json.ofOption p.fullName)]

end AdminProfile

end GuildRegistry
