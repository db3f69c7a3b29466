import GuildRegistry.Http.Server
import GuildRegistry.Store.Session

/-! HTTP sessions: requests to the server, with store actions between them.

Requests are sent the way a test client sends them. Its method must be one the client knows, in
upper or lower case, and is sent in upper case. Header names are sent in lower case; of two names
that differ only in case, the later value is sent. Its URL is resolved against `http://localhost/`
(see `locate?`); the empty URL has no value at all.
-/

set_option autoImplicit false

namespace GuildRegistry.Http

/-- One step of an HTTP session. -/
inductive HttpStep where
  | request (r : Request)
  | store (a : Action)
  deriving Repr, Inhabited

/-- Whether a JSON value sends no body. -/
def sendsNothing : Json → Bool
  | .null | .bool false | .str "" => true
  | .num x => Binary64.eq x 0 || x.isNaN
  | _ => false

/-- The headers as the client sends them: names in lower case, and a name given more than
once (in any case) keeps the place of its first mention and the value of its last. -/
def clientHeaders (given : List (String × String)) : List (String × String) :=
  given.foldl (fun acc (name, value) =>
    let name := name.map Char.toLower
    if acc.any (·.1 == name) then acc.map fun (k, v) => if k == name then (k, value) else (k, v)
    else acc ++ [(name, value)]) []

/-- The headers of a request with a body: the length of the body in UTF-8 bytes is added
unless the request states one. -/
def withLength (headers : List (String × String)) (body : String) : List (String × String) :=
  if headers.any (·.1 == "content-length") then headers
  else headers ++ [("content-length", toString (Utf8.encode body).length)]

/-- A request with a JSON body. -/
def Request.withJson (method target : String) (given : List (String × String)) (body : Json) : Request :=
  let headers := clientHeaders given
  if sendsNothing body then ⟨method, target, headers, none⟩
  else match body with
    | .str s =>
      let text := Text.wellFormed s
      ⟨method, target, withLength headers text, some text⟩
    | j =>
      let headers := if headers.any (·.1 == "content-type") then headers
        else headers ++ [("content-type", "application/json")]
      let text := Json.render j
      ⟨method, target, withLength headers text, some text⟩

/-- A request with a text body, sent as it is; the empty text sends nothing. -/
def Request.withText (method target : String) (given : List (String × String)) (body : String) : Request :=
  let headers := clientHeaders given
  if body.isEmpty then ⟨method, target, headers, none⟩
  else
    let text := Text.wellFormed body
    ⟨method, target, withLength headers text, some text⟩

/-- The methods the client knows: those the router knows. -/
def clientMethods : List String := routerMethods

/-- The method the client sends for the one it is given: a method it knows, as given or in
lower case, in upper case. -/
def sentMethod? (method : String) : Option String :=
  clientMethods.find? fun m => m == method || String.map Char.toLower m == method

/-- Why the client refuses to send a request. -/
inductive ClientRefusal where
  /-- The method is not one the client knows. -/
  | unknownMethod
  /-- The URL is empty, so the client has no URL to read. -/
  | missingUrl
  /-- The URL cannot be read. -/
  | invalidUrl
  deriving DecidableEq, Repr

/-- The kind of error the client raises. -/
def ClientRefusal.name : ClientRefusal → String
  | .unknownMethod => "Error"
  | .missingUrl | .invalidUrl => "TypeError"

/-- The client's message. -/
def ClientRefusal.message : ClientRefusal → String
  | .unknownMethod => "must be equal to one of the allowed values"
  | .missingUrl => "Cannot read properties of undefined (reading " ++
      String.singleton (Char.ofNat 39) ++ "query" ++ String.singleton (Char.ofNat 39) ++ ")"
  | .invalidUrl => "Invalid URL"

/-- The request as the client sends it: the method in upper case and the resolved target;
or why the client refuses it. -/
def Request.sent (r : Request) : Except ClientRefusal Request := do
  let method ← match sentMethod? r.method with
    | some m => pure m
    | none => throw .unknownMethod
  if r.target.isEmpty then throw .missingUrl
  match locate? r.target with
  | some l => pure { r with method, target := l.target }
  | none => throw .invalidUrl

def Response.toJson (r : Response) : Json := .obj [("status", Json.ofNat r.status), ("body", r.body.getD .null)]

/-- A store with nothing in it, loaded. -/
def startStore (file : SnapshotFile) (clock : Binary64) : Store :=
  let s := (Session.settle (Store.load file) (Session.start file clock none none)).2
  { s with world := { s.world with log := [] } }

/-- Runs the steps, answering each; a request the client refuses ends the session. -/
def runSession (cfg : ServerConfig) (s : Store) (steps : List HttpStep) :
    Except ClientRefusal (List Json) := do
  let (answers, _) ← steps.foldlM (fun (acc : List Json × Store) st =>
    match st with
    | .request r => do
      let r ← r.sent
      match respond cfg r acc.2 with
      | .ok resp s => pure (acc.1 ++ [resp.toJson], s)
      | .error e s => pure (acc.1 ++ [e.response.toJson], s)
    | .store a =>
      let (r, s) := Session.settle (a.run cfg.file) acc.2
      pure (acc.1 ++ [.obj (Session.replyFields r)], s)) ([], s)
  pure answers

end GuildRegistry.Http
