import GuildRegistry.Schema.Check
import GuildRegistry.Text.Blank

/-! The bot's settings, read from environment variables.

Each variable is trimmed, and a blank one counts as unset, so that it takes its default.
-/

set_option autoImplicit false

namespace GuildRegistry.Bot

open Schema

/-- The bot's settings. -/
structure Settings where
  botToken : String
  secretKey : String
  ownerId : Binary64
  reviewChatId : Option Binary64
  storagePath : String
  logLevel : String
  xpMessageReward : Binary64
  xpLeaderboardSize : Binary64
  cupsLeaderboardSize : Binary64
  rateLimitIntervalSeconds : Binary64
  rateLimitBurst : Binary64
  webappEnabled : Bool
  webappHost : String
  webappPort : Binary64
  adminApiToken : Option String
  deriving Repr, Inhabited

namespace Settings

/-- The variables read, in the order they are checked. -/
def envKeys : List String :=
  ["TELEGRAM_BOT_TOKEN", "BOT_SECRET_KEY", "OWNER_ID", "REVIEW_CHAT_ID", "STORAGE_PATH", "LOG_LEVEL",
    "XP_MESSAGE_REWARD", "XP_LEADERBOARD_SIZE", "CUPS_LEADERBOARD_SIZE",
    "RATE_LIMIT_INTERVAL_SECONDS", "RATE_LIMIT_BURST", "WEBAPP_ENABLED", "WEBAPP_HOST", "WEBAPP_PORT",
    "ADMIN_API_TOKEN"]

def logLevels : List String := ["fatal", "error", "warn", "info", "debug", "trace", "silent"]

/-- An identifier of a user or chat: a safe integer. -/
def chatId : Check Binary64 := boundedNumber safeBounds

/-- Lowercases ASCII letters. -/
def lowerAscii (s : String) : String := String.ofList (s.toList.map Char.toLower)

/-- A yes-or-no flag. -/
def flag : Check Bool := fun path v =>
  (text path v).andThen fun raw =>
    let value := lowerAscii raw
    if ["1", "true", "yes", "on"].contains value then .ok true
    else if ["0", "false", "no", "off"].contains value then .ok false
    else .fail ⟨.custom "expected true or false", path⟩

/-- A path resolved against the working directory `cwd`: empty and `.` segments go, and
`..` drops the segment before it. -/
def resolvePath (cwd p : String) : String :=
  let segments := (p.splitOn "/").foldl (fun (acc : List String) s =>
    if s.isEmpty || s == "." then acc
    else if s == ".." then acc.dropLast
    else acc ++ [s]) []
  if p.startsWith "/" then "/" ++ "/".intercalate segments
  else if segments.isEmpty then cwd
  else cwd ++ "/" ++ "/".intercalate segments

/-- The check of all variables, in order. -/
def check (cwd : String) : Check Settings := object fun path ms =>
  let f {α : Type} (c : Check α) (k : String) : Checked α := field c path ms k
  let num (d : Nat) (bounds : List Bound) : Check Binary64 := withDefault (Json.ofNat d) (boundedNumber bounds)
  let c1 := (f text "TELEGRAM_BOT_TOKEN").both (f text "BOT_SECRET_KEY")
  let c2 := (f chatId "OWNER_ID").both (f (optional chatId) "REVIEW_CHAT_ID")
  let c3 := (f (withDefault (.str "data/storage.enc") text) "STORAGE_PATH").both
    (f (withDefault (.str "info") (oneOf logLevels)) "LOG_LEVEL")
  let c4 := (f (num 5 [.integer, .atLeast 0]) "XP_MESSAGE_REWARD").both
    ((f (num 10 [.integer, .atLeast 1]) "XP_LEADERBOARD_SIZE").both
      (f (num 5 [.integer, .atLeast 1]) "CUPS_LEADERBOARD_SIZE"))
  let c5 := (f (num 60 [.above 0]) "RATE_LIMIT_INTERVAL_SECONDS").both
    (f (num 5 [.integer, .atLeast 1]) "RATE_LIMIT_BURST")
  let c6 := (f (withDefault (.str "true") flag) "WEBAPP_ENABLED").both
    ((f (withDefault (.str "0.0.0.0") text) "WEBAPP_HOST").both
      ((f (num 8080 [.integer, .atLeast 0, .atMost 65535]) "WEBAPP_PORT").both
        (f (optional text) "ADMIN_API_TOKEN")))
  (c1.both (c2.both (c3.both (c4.both (c5.both c6))))).map
    fun ((token, key), (owner, review), (storage, level), (reward, xpSize, cupsSize), (interval, burst),
        (webapp, host, port, apiToken)) =>
      { botToken := token, secretKey := key, ownerId := owner, reviewChatId := review
        storagePath := resolvePath cwd storage, logLevel := level, xpMessageReward := reward
        xpLeaderboardSize := xpSize, cupsLeaderboardSize := cupsSize
        rateLimitIntervalSeconds := interval, rateLimitBurst := burst, webappEnabled := webapp
        webappHost := host, webappPort := port, adminApiToken := apiToken }

/-- Reads the settings from the environment, or says every problem found. -/
def load (cwd : String) (env : List (String × String)) : Except String Settings :=
  let given := envKeys.filterMap fun k =>
    match (env.find? (·.1 == k)).map (Text.trim ·.2) with
    | some v => if v.isEmpty then none else some (k, Json.str v)
    | none => none
  match (check cwd [] (some (.obj given))).toExcept with
  | .ok s => .ok s
  | .error issues =>
    .error ("Invalid environment: " ++ "; ".intercalate (issues.map fun i => i.dottedPath ++ ": " ++ i.message))

def toJson (s : Settings) : Json :=
  .obj ([("botToken", .str s.botToken), ("secretKey", .str s.secretKey), ("ownerId", .num s.ownerId),
    ("reviewChatId", match s.reviewChatId with
      | some c => .num c
      | none => .null),
    ("storagePath", .str s.storagePath), ("logLevel", .str s.logLevel),
    ("xpMessageReward", .num s.xpMessageReward), ("xpLeaderboardSize", .num s.xpLeaderboardSize),
    ("cupsLeaderboardSize", .num s.cupsLeaderboardSize),
    ("rateLimitIntervalSeconds", .num s.rateLimitIntervalSeconds), ("rateLimitBurst", .num s.rateLimitBurst),
    ("webappEnabled", .bool s.webappEnabled), ("webappHost", .str s.webappHost),
    ("webappPort", .num s.webappPort)] ++
    match s.adminApiToken with
    | some t => [("adminApiToken", .str t)]
    | none => [])

end Settings

end GuildRegistry.Bot
