import GuildRegistry.Http.Url
import GuildRegistry.Http.MediaType
import GuildRegistry.Store.Machine
import GuildRegistry.Json.Reader

/-! The HTTP interface to the registry.

Reports: the review queue, the application statistics, one user's status, and the XP leaderboard and
cups of a chat. Admin management: the admin list, adding or updating an admin, and removing one;
when a token is configured, changes require it in the `x-admin-token` header.
-/

set_option autoImplicit false

namespace GuildRegistry.Http

open Schema

/-- A request as it arrives: the method, the target, the headers (names in lower case),
and the body text when there is one. -/
structure Request where
  method : String
  target : String
  headers : List (String × String)
  body : Option String
  deriving Repr, Inhabited

/-- A response: the status and the JSON body, if any. -/
structure Response where
  status : Nat
  body : Option Json
  deriving Repr, Inhabited

/-- What the server is set up with. -/
structure ServerConfig where
  file : SnapshotFile
  xpLeaderboardSize : Binary64
  cupsLeaderboardSize : Binary64
  apiToken : Option String

/-- Why a request failed. -/
inductive Failure where
  /-- The request did not pass a check. -/
  | invalid (issues : List Issue)
  /-- A refusal with a status and a code, such as 401 `unauthorized`. -/
  | refused (status : Nat) (code : String)
  /-- A store call failed. -/
  | store (e : StoreError)
  /-- The request could not be read: a status, an error code when there is one, and a
  message. -/
  | unreadable (status : Nat) (code : Option String) (message : String)
  /-- A check met a value it cannot convert to a number, which raised a type error. -/
  | unconvertible
  deriving Repr

/-- Handling a request: it may change the store, and may fail. -/
abbrev HttpM := EStateM Failure Store

namespace HttpM

/-- Runs a store call. -/
def onStore {α : Type} (op : StoreM α) : HttpM α := fun s =>
  match op s with
  | .ok a s' => .ok a s'
  | .error e s' => .error (.store e) s'

/-- The value that passed a check, or the failure with its issues; a check that raised fails
as raised. -/
def checked {α : Type} (c : Checked α) : HttpM α :=
  if c.raised then throw .unconvertible
  else match c.toExcept with
  | .ok a => pure a
  | .error issues => throw (.invalid issues)

def registry : HttpM Registry := do pure (← get).registry

end HttpM

/-- The response to a failure. -/
def Failure.response : Failure → Response
  | .invalid issues =>
    ⟨400, some (.obj [("error", .str "invalid_request"), ("issues", .arr (issues.map Issue.toJson))])⟩
  | .refused status code => ⟨status, some (.obj [("error", .str code)])⟩
  | .store (.persistence _ _) =>
    ⟨503, some (.obj [("error", .str "storage_unavailable"),
      ("message", .str "State could not be saved, try again later")])⟩
  | .store _ => ⟨500, some (.obj [("error", .str "internal_error")])⟩
  | .unreadable status code message =>
    ⟨status, some (.obj [("error", .str (code.getD "bad_request")), ("message", .str message)])⟩
  | .unconvertible => ⟨500, some (.obj [("error", .str "internal_error")])⟩

/-- A user or chat identifier: a safe integer. -/
def integerId : Check Binary64 := boundedNumber safeBounds

/-- The chat and optional limit of a leaderboard query. -/
def leaderboardQuery : Check (Binary64 × Option Binary64) := object fun path ms =>
  (field integerId path ms "chat_id").both
    (field (optional (boundedNumber [.integer, .atLeast 1, .atMost 100])) path ms "limit")

/-- An admin to add, with optional profile details. -/
def adminBody : Check (Binary64 × ProfileUpdate) := object fun path ms =>
  ((field integerId path ms "user_id").both
    ((field (nullish (textAtMost 64)) path ms "username").both
      (field (nullish (textAtMost 256)) path ms "full_name"))).map
    fun (u, name, full) => (u, ⟨name, full⟩)

/-- The user identifier named in a path, checked as the `userId` parameter. -/
def userIdParam (id : String) : Checked Binary64 :=
  (object fun path ms => field integerId path ms "userId") [] (some (.obj [("userId", .str id)]))

def ok (body : Json) : HttpM Response := pure ⟨200, some body⟩

def notFound : Json := .obj [("error", .str "not_found")]

/-- The header's value, the first when it is given more than once. -/
def header (req : Request) (name : String) : Option String :=
  (req.headers.find? (·.1 == name)).map (·.2)

/-- Refuses a change without the configured token. Tokens are compared byte for byte. -/
def requireToken (cfg : ServerConfig) (req : Request) : HttpM Unit :=
  match cfg.apiToken with
  | none => pure ()
  | some token =>
    if token.isEmpty then pure ()
    else match header req "x-admin-token" with
      | some given =>
        if !given.isEmpty && Utf8.encode given == Utf8.encode token then pure ()
        else throw (.refused 401 "unauthorized")
      | none => throw (.refused 401 "unauthorized")

/-- Whether a JSON value holds a key that could reach an object's prototype. -/
def poisoned : Json → Bool
  | .arr items => poisonedItems items
  | .obj ms => poisonedMembers ms
  | _ => false
where
  poisonedItems : List Json → Bool
    | [] => false
    | v :: rest => poisoned v || poisonedItems rest
  poisonedMembers : List (String × Json) → Bool
    | [] => false
    | (k, v) :: rest =>
      k == "__proto__" ||
        (k == "constructor" && match v with
          | .obj inner => inner.any (·.1 == "prototype")
          | .null => true
          | _ => false) ||
        poisoned v || poisonedMembers rest

/-- The refusal of a body that no reader takes. -/
def unsupportedMedia : Failure :=
  .unreadable 415 (some "FST_ERR_CTP_INVALID_MEDIA_TYPE") "Unsupported Media Type"

/-- A JSON body: not empty, well formed after one leading byte order mark, and free of
keys that could reach an object's prototype. -/
def readJsonBody (text : String) : Except Failure Json :=
  if text.isEmpty then
    .error (.unreadable 400 (some "FST_ERR_CTP_EMPTY_JSON_BODY")
      "Body cannot be empty when content-type is set to 'application/json'")
  else
    let text := match text.toList with
      | '\uFEFF' :: rest => String.ofList rest
      | _ => text
    match Json.parseText text with
    | .ok j => if poisoned j then .error (.unreadable 400 none "Object contains forbidden prototype property")
      else .ok j
    | .error message => .error (.unreadable 400 none message)

/-- The largest body the server reads, in bytes. -/
def bodyLimit : Nat := 1048576

/-- The methods whose bodies are read when the request announces one: by a content type, a
length other than `0`, or a transfer encoding. -/
def announcedBodyMethods : List String :=
  ["POST", "PUT", "PATCH", "TRACE", "SEARCH", "PROPFIND", "PROPPATCH", "LOCK", "COPY", "MOVE",
    "MKCOL", "REPORT", "MKCALENDAR"]

/-- The methods whose bodies are read only when the request has a content type and also a
length or a transfer encoding. -/
def typedBodyMethods : List String := ["DELETE", "OPTIONS"]

/-- The content type by which the body of a request is read, when it is read; a body read
without a content type has the empty type. The bodies of other methods are never read. -/
def bodyType? (req : Request) : Option String :=
  let length := header req "content-length"
  let encoded := (header req "transfer-encoding").isSome
  match header req "content-type" with
  | some t =>
    if announcedBodyMethods.contains req.method then some t
    else if typedBodyMethods.contains req.method && (encoded || length.isSome) then some t
    else none
  | none =>
    if announcedBodyMethods.contains req.method && (encoded || (length.isSome && length != some "0"))
    then some ""
    else none

/-- The refusal of a body larger than the limit. -/
def bodyTooLarge : Failure :=
  .unreadable 413 (some "FST_ERR_CTP_BODY_TOO_LARGE") "Request body is too large"

/-- The body text of a request as the server receives it. A stated length over the limit,
or a text of more UTF-16 units than the limit, is refused with 413; a stated length that
reads as a number (the way `Number(…)` reads text) and differs from the text's UTF-8 size
is refused with 400. -/
def receivedText (req : Request) : Except Failure String :=
  let text := req.body.getD ""
  let stated := (header req "content-length").map Binary64.ofNumeral
  let limit := Binary64.ofNat bodyLimit
  if stated.any (Binary64.lt limit ·) || Text.units16 text > bodyLimit then .error bodyTooLarge
  else if stated.any fun n => !n.isNaN && !Binary64.eq n (Binary64.ofNat (Utf8.encode text).length) then
    .error (.unreadable 400 (some "FST_ERR_CTP_INVALID_CONTENT_LENGTH")
      "Request body size did not match Content-Length")
  else .ok text

/-- The body of a request, read by the reader its content type selects, or none when the
body is not read. On a path that names no route, a body that no reader takes is left
unread instead of refused. -/
def readBody (req : Request) (routed : Bool) : Except Failure (Option Json) :=
  match bodyType? req with
  | none => .ok none
  | some t =>
    match BodyReader.ofContentType? t with
    | none => if routed then .error unsupportedMedia else .ok none
    | some reader => do
      let text ← receivedText req
      match reader with
      | .text => pure (some (.str text))
      | .json => (readJsonBody text).map some

/-- The answer for a path that names no route. -/
def routeNotFound (req : Request) : Response :=
  ⟨404, some (.obj [("message", .str ("Route " ++ req.method ++ ":" ++ req.target ++ " not found")),
    ("error", .str "Not Found"), ("statusCode", Json.ofNat 404)])⟩

/-- The methods the router knows. A request with another method reaches no handler at all
and is answered 404 as an error. Of these, only the methods in `routedMethods` have routes
of the server; a request with any other is handed straight to the not-found handler. -/
def routerMethods : List String :=
  ["ACL", "BIND", "CHECKOUT", "CONNECT", "COPY", "DELETE", "GET", "HEAD", "LINK", "LOCK",
    "M-SEARCH", "MERGE", "MKACTIVITY", "MKCALENDAR", "MKCOL", "MOVE", "NOTIFY", "OPTIONS",
    "PATCH", "POST", "PROPFIND", "PROPPATCH", "PURGE", "PUT", "REBIND", "REPORT", "SEARCH",
    "SOURCE", "SUBSCRIBE", "TRACE", "UNBIND", "UNLINK", "UNLOCK", "UNSUBSCRIBE"]

/-- The methods the server has routes for: those of its endpoints, HEAD beside GET, and
OPTIONS, which answers preflight requests on every path. -/
def routedMethods : List String := ["GET", "HEAD", "POST", "DELETE", "OPTIONS"]

/-- A not-found answer in the shape the not-found handler gives to its own errors. -/
def notFoundError (code : Option String) : Response :=
  ⟨404, some (.obj ([("error", .str "Not Found")] ++ (code.map fun c => ("code", .str c)).toList ++
    [("message", .str "Not Found"), ("statusCode", Json.ofNat 404)]))⟩

/-- The answer to a method the router does not know. -/
def unroutedMethod : Response := notFoundError (some "FST_ERR_NOT_FOUND")

/-- The longest path parameter a route takes, in UTF-16 units once decoded; a longer one
matches no route. -/
def maxParamLength : Nat := 100

/-- The routes of the server. -/
inductive Endpoint where
  | health
  | pending
  | insights
  | status (userId : String)
  | xp
  | cups
  | admins
  | addAdmin
  | removeAdmin (userId : String)
  deriving DecidableEq, Repr

/-- The route that a method and the decoded path segments name. HEAD requests take the
GET routes. -/
def Endpoint.find? (method : String) (segments : List String) : Option Endpoint :=
  let fits (v : String) : Bool := Text.units16 v ≤ maxParamLength
  let method := if method == "HEAD" then "GET" else method
  match method, segments with
  | "GET", ["health"] => some .health
  | "GET", ["api", "applications", "pending"] => some .pending
  | "GET", ["api", "applications", "insights"] => some .insights
  | "GET", ["api", "applications", id, "status"] => if fits id then some (.status id) else none
  | "GET", ["api", "xp"] => some .xp
  | "GET", ["api", "cups"] => some .cups
  | "GET", ["api", "admins"] => some .admins
  | "POST", ["api", "admins"] => some .addAdmin
  | "DELETE", ["api", "admins", id] => if fits id then some (.removeAdmin id) else none
  | _, _ => none

/-- The answer of a route to a request, given its query and its body. -/
def Endpoint.answer (cfg : ServerConfig) (req : Request) (query : List (String × Json))
    (body : Option Json) : Endpoint → HttpM Response
  | .health => do
    let ts := match Instant.ofTimeValue? (← get).clock with
      | some t => t.toIso
      | none => ""
    ok (.obj [("ok", .bool true), ("service", .str "guildhall-api"), ("ts", .str ts)])
  | .pending => do
    let apps := (← HttpM.registry).ledger.pending
    ok (.obj [("total", Json.ofNat apps.length), ("applications", .arr (apps.map Application.toJson))])
  | .insights => do
    ok (← HttpM.registry).ledger.statistics.toJson
  | .status id => do
    let u ← HttpM.checked (userIdParam id)
    match (← HttpM.registry).ledger.history.get? u with
    | none => pure ⟨404, some notFound⟩
    | some e => ok (.obj [("user_id", .num u), ("history", e.toJson)])
  | .xp => do
    let (chat, limit) ← HttpM.checked (leaderboardQuery [] (some (.obj query)))
    let limit := limit.getD cfg.xpLeaderboardSize
    ok (.obj [("chat_id", .num chat), ("limit", .num limit),
      ("leaderboard", .arr (((← HttpM.registry).ledger.leaderboard chat limit).map Standing.toJson))])
  | .cups => do
    let (chat, limit) ← HttpM.checked (leaderboardQuery [] (some (.obj query)))
    let limit := limit.getD cfg.cupsLeaderboardSize
    ok (.obj [("chat_id", .num chat), ("limit", .num limit),
      ("cups", .arr (((← HttpM.registry).ledger.cupHistory chat limit).map Cup.toJson))])
  | .admins => do
    let admins := (← HttpM.registry).ledger.adminDetails
    ok (.obj [("total", Json.ofNat admins.length), ("admins", .arr (admins.map AdminRecord.toJson))])
  | .addAdmin => do
    requireToken cfg req
    let (u, profile) ← HttpM.checked (adminBody [] body)
    let existed := (← HttpM.registry).ledger.isAdmin u
    let changed ← HttpM.onStore (Store.addAdmin cfg.file u profile)
    let admin := ((← HttpM.registry).ledger.adminDetails.find? (Binary64.eq ·.userId u)).map
      fun a => ("admin", a.toJson)
    if !changed then
      pure ⟨409, some (.obj ([("error", .str "unchanged")] ++ admin.toList))⟩
    else pure ⟨if existed then 200 else 201, some (.obj admin.toList)⟩
  | .removeAdmin id => do
    requireToken cfg req
    let u ← HttpM.checked (userIdParam id)
    if !(← HttpM.onStore (Store.removeAdmin cfg.file u)) then pure ⟨404, some notFound⟩
    else pure ⟨204, none⟩

/-- The answer to a preflight request, which every path takes: allowed when it names its
origin and the method it asks for, refused otherwise. -/
def preflight (req : Request) : Response :=
  let given (name : String) : Bool := (header req name).any (!·.isEmpty)
  if given "origin" && given "access-control-request-method" then ⟨204, none⟩
  else ⟨400, some (.str "Invalid Preflight Request")⟩

/-- The answer to a target whose path cannot be decoded. -/
def badUrl (path : String) : Response :=
  ⟨400, some (.obj [("error", .str "Bad Request"), ("code", .str "FST_ERR_BAD_URL"),
    ("message", .str ("'" ++ path ++ "' is not a valid url component")), ("statusCode", Json.ofNat 400)])⟩

/-- Answers a request. A method the router does not know is answered first, then a path
that cannot be decoded (refused as a bad URL for a method the server routes, and not found
for any other), then preflight requests; otherwise the body is read when the request
carries one (also on a path that names no route), and the route answers. A HEAD request
takes the GET route, and its answer has no body when a route took it. -/
def respond (cfg : ServerConfig) (req : Request) : HttpM Response := do
  let (path, query) := splitTarget req.target
  if !routerMethods.contains req.method then pure unroutedMethod
  else match pathSegments? path with
    | none => pure (if routedMethods.contains req.method then badUrl path else notFoundError none)
    | some segments =>
      if req.method == "OPTIONS" then pure (preflight req)
      else
        let endpoint := Endpoint.find? req.method segments
        let answer ← tryCatch (do
            let body ← match readBody req endpoint.isSome with
              | .ok b => pure b
              | .error e => throw e
            match endpoint with
            | some e => e.answer cfg req (parseQuery query) body
            | none => pure (routeNotFound req)) fun e => pure e.response
        pure (if req.method == "HEAD" && endpoint.isSome then { answer with body := none } else answer)

end GuildRegistry.Http
