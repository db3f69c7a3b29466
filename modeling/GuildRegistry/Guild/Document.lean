import GuildRegistry.Guild.Records
import GuildRegistry.Schema.Check
import GuildRegistry.Timestamp

/-! The stored document of the registry and its shape.

The document lists the admins and keeps, under text keys holding decimal integers, admin profiles,
pending applications, the latest history entry of each applicant, the XP table of each chat and the
cups of each chat.
-/

set_option autoImplicit false

namespace GuildRegistry

/-- The stored document: maps keyed by decimal text, in property order. -/
structure Document where
  admins : List Binary64
  adminProfiles : List (String × AdminProfile)
  applications : List (String × Application)
  history : List (String × HistoryEntry)
  xp : List (String × List (String × Binary64))
  cups : List (String × List Cup)
  deriving Repr, Inhabited

namespace Document

def empty : Document := ⟨[], [], [], [], [], []⟩

def toJson (d : Document) : Json :=
  .obj [("admins", .arr (d.admins.map Json.num)),
    ("admin_profiles", .obj (d.adminProfiles.map fun (k, p) => (k, p.toJson))),
    ("applications", .obj (d.applications.map fun (k, a) => (k, a.toJson))),
    ("application_history", .obj (d.history.map fun (k, e) => (k, e.toJson))),
    ("xp", .obj (d.xp.map fun (k, t) => (k, .obj (t.map fun (u, s) => (u, .num s))))),
    ("cups", .obj (d.cups.map fun (k, cs) => (k, .arr (cs.map Cup.toJson))))]

end Document

namespace DocumentShape

open Schema

/-- A key of decimal digits with an optional minus sign. -/
def isIntegerKey (k : String) : Bool :=
  match k.toList with
  | '-' :: ds => !ds.isEmpty && ds.all Char.isDigit
  | ds => !ds.isEmpty && ds.all Char.isDigit

def integerKey : Check String := textMatching isIntegerKey

/-- A text or nothing; the empty text counts as nothing. -/
def optionalText : Check (Option String) := fun path v =>
  (nullish text path v).map fun o => o.bind fun s => if s.isEmpty then none else some s

/-- A timestamp text, brought to canonical form when recognised. -/
def timestamp : Check String := fun path v => (text path v).map Timestamp.normalize

def profile : Check AdminProfile := object fun path ms =>
  ((field optionalText path ms "username").both (field optionalText path ms "full_name")).map
    fun (u, f) => ⟨u, f⟩

def response : Check Response := object fun path ms =>
  ((field text path ms "question_id").both ((field text path ms "question").both
    (field text path ms "answer"))).map fun (i, q, a) => ⟨i, q, a⟩

def application : Check Application := object fun path ms =>
  ((field integer path ms "user_id").both
    ((field text path ms "full_name").both
    ((field optionalText path ms "username").both
    ((field (withDefault (.str "") text) path ms "answer").both
    ((field (withDefault (.arr []) (array response)) path ms "responses").both
    ((field timestamp path ms "created_at").both
    (field optionalText path ms "language_code"))))))).map
    fun (u, n, un, a, r, c, l) => ⟨u, n, un, a, r, c, l⟩

def status : Check Status := fun path v =>
  (oneOf (Status.all.map Status.text) path v).map fun s => (Status.ofText? s).getD .pending

def historyEntry : Check HistoryEntry := object fun path ms =>
  ((field status path ms "status").both
    ((field timestamp path ms "updated_at").both
    ((field optionalText path ms "note").both
    (field optionalText path ms "language_code")))).map fun (s, u, n, l) => ⟨s, u, n, l⟩

def cup : Check Cup := object fun path ms =>
  ((field text path ms "title").both
    ((field (withDefault (.str "") text) path ms "description").both
    ((field (withDefault (.arr []) (array text)) path ms "podium").both
    (field timestamp path ms "created_at")))).map fun (t, d, p, c) => ⟨t, d, p, c⟩

/-- A table keyed by integer texts. -/
def table {α : Type} (value : Check α) : Check (List (String × α)) :=
  withDefault (.obj []) (record integerKey value)

def document : Check Document := object fun path ms =>
  ((field (withDefault (.arr []) (array integer)) path ms "admins").both
    ((field (table profile) path ms "admin_profiles").both
    ((field (table application) path ms "applications").both
    ((field (table historyEntry) path ms "application_history").both
    ((field (table (record integerKey integer)) path ms "xp").both
    (field (table (array cup)) path ms "cups")))))).map
    fun (a, p, ap, h, x, c) => ⟨a, p, ap, h, x, c⟩

end DocumentShape

/-- Reads a document from JSON, or lists every issue with its shape. -/
def Document.check (j : Json) : Except (List Schema.Issue) Document :=
  (DocumentShape.document [] (some j)).toExcept

/-- Whether reading a document from JSON raises a type error, on a number it cannot convert;
it then gives neither a document nor its issues. -/
def Document.raises (j : Json) : Bool := (DocumentShape.document [] (some j)).raised

end GuildRegistry
