import GuildRegistry.Text.Utf8
import GuildRegistry.Json.Value
import GuildRegistry.Domain.Ascii

/-! Request targets: the path and the query string.

A client first resolves the URL it is given against `http://localhost/`, as the URL standard's
parser does: controls and spaces are cut from both ends, tabs and line breaks are dropped, a
backslash separates path segments like a slash, `.` and `..` segments (also written with `%2e`) are
resolved, characters outside the allowed sets are percent-encoded, and the fragment is dropped.
-/

set_option autoImplicit false

namespace GuildRegistry.Http

-- powers of naturals are computed by `Nat.pow`, whatever other instances are in scope
attribute [local instance (high)] instPowNat

/-- The UTF-8 bytes of one character. -/
def charBytes (c : Char) : List UInt8 := (String.singleton c).toUTF8.toList

/-- The bytes of a text with `%XX` escapes decoded, or none when an escape is malformed. -/
def escapedBytes : List Char → Option (List UInt8)
  | [] => some []
  | '%' :: h :: l :: rest =>
    match Utf8.hexValue h, Utf8.hexValue l, escapedBytes rest with
    | some a, some b, some tail => some ((a * 16 + b).toUInt8 :: tail)
    | _, _, _ => none
  | '%' :: _ => none
  | c :: rest => (escapedBytes rest).map (charBytes c ++ ·)

/-- A text with its escapes decoded, or none when they are malformed or not UTF-8. -/
def percentDecode? (s : String) : Option String :=
  (escapedBytes s.toList).bind Utf8.decode?

/-- Whether a target starts with `http://` or `https://`, a host and a slash; the length of
that prefix without its slash when it does. -/
def absolutePrefixLength (cs : List Char) : Option Nat :=
  let afterScheme : Option (List Char) :=
    if "http://".toList.isPrefixOf cs then some (cs.drop 7)
    else if "https://".toList.isPrefixOf cs then some (cs.drop 8)
    else none
  afterScheme.bind fun rest =>
    let host := rest.takeWhile (· != '/')
    if host.length < rest.length then some (cs.length - rest.length + host.length) else none

/-- The path the router matches and the query string of a target. A target that does not
start with `/` loses a leading `http://host` or `https://host` before its next slash. The
path ends at the first `?`, `#` or `;` after its first character. -/
def splitTarget (target : String) : String × String :=
  let cs := target.toList
  let cs := match cs with
    | '/' :: _ => cs
    | _ => match absolutePrefixLength cs with
      | some n => cs.drop n
      | none => cs
  match cs with
  | [] => ("", "")
  | first :: rest =>
    let path := rest.takeWhile fun c => c != '?' && c != '#' && c != ';'
    (String.ofList (first :: path), String.ofList (rest.drop (path.length + 1)))

/-- The decoded segments of a path. The router passes over the path's first character,
whatever it is, and splits the rest at `/`. -/
def pathSegments? (path : String) : Option (List String) :=
  ((String.ofList (path.toList.drop 1)).splitOn "/").mapM percentDecode?

/-- One query key or value as given: `+` is a space, and escapes are decoded unless that
fails or gives nothing. -/
def queryText (s : String) : String :=
  let spaced := String.ofList (s.toList.map fun c => if c == '+' then ' ' else c)
  match percentDecode? spaced with
  | some d => if d.isEmpty then spaced else d
  | none => spaced

/-- Adds a value under a key; a repeated key collects its values. -/
def addQueryValue (acc : List (String × Json)) (k v : String) : List (String × Json) :=
  match acc.find? (·.1 == k) with
  | none => acc ++ [(k, .str v)]
  | some (_, old) =>
    let values := match old with
      | .arr vs => vs ++ [.str v]
      | one => [one, .str v]
    acc.map fun e => if e.1 == k then (k, .arr values) else e

/-- The query as an object of texts, or lists of texts for repeated keys. -/
def parseQuery (q : String) : List (String × Json) :=
  (q.splitOn "&").foldl (fun acc part =>
    match part.splitOn "=" with
    | [] | [""] => acc
    | [k] => addQueryValue acc (queryText k) ""
    | k :: rest => addQueryValue acc (queryText k) (queryText ("=".intercalate rest))) []

/-! ### Resolving the URL a client is given -/

/-- The schemes whose URLs have a host and split their paths at backslashes too. -/
def isSpecialScheme (scheme : String) : Bool :=
  ["http", "https", "ws", "wss", "ftp", "file"].contains scheme

/-- The characters percent-encoded everywhere: controls, and everything past `~`. -/
def inControlSet (c : Char) : Bool := c.toNat < 0x20 || c.toNat > 0x7E

/-- The characters percent-encoded in a query. -/
def inQuerySet (c : Char) : Bool :=
  inControlSet c || c == ' ' || c == '"' || c == '#' || c == '<' || c == '>'

/-- The characters percent-encoded in the query of a URL with a special scheme. -/
def inSpecialQuerySet (c : Char) : Bool := inQuerySet c || c == Char.ofNat 39

/-- The characters percent-encoded in a path segment. -/
def inPathSet (c : Char) : Bool :=
  inQuerySet c || c == '?' || c == Char.ofNat 96 || c == '{' || c == '}'

/-- A character as written in a URL: its UTF-8 bytes as `%XX` escapes when it is in the
set, else itself. -/
def encodeChar (inSet : Char → Bool) (c : Char) : List Char :=
  if inSet c then
    let digit (n : Nat) : Char := if n < 10 then Char.ofNat (48 + n) else Char.ofNat (55 + n)
    (charBytes c).flatMap fun b => ['%', digit (b.toNat / 16), digit (b.toNat % 16)]
  else [c]

/-- Characters as written in a URL, each encoded when it is in the set. -/
def encodeWith (inSet : Char → Bool) (cs : List Char) : String :=
  String.ofList (cs.flatMap (encodeChar inSet))

/-- A text in lower case. -/
def lowerText (cs : List Char) : String := String.ofList (cs.map Char.toLower)

/-- A segment that stands for the segment itself: `.`, or `%2e` in any case. -/
def isSingleDot (seg : List Char) : Bool := [".", "%2e"].contains (lowerText seg)

/-- A segment that stands for the parent: `..`, with either dot possibly `%2e`. -/
def isDoubleDot (seg : List Char) : Bool :=
  ["..", ".%2e", "%2e.", "%2e%2e"].contains (lowerText seg)

/-- The pieces of a path text between its separators, each with whether a separator
follows it. -/
def pathPieces (isSep : Char → Bool) (cs : List Char) : List (List Char × Bool) :=
  let (done, current) := cs.foldl (fun (acc : List (List Char × Bool) × List Char) c =>
    if isSep c then (acc.1 ++ [(acc.2, true)], []) else (acc.1, acc.2 ++ [c])) ([], [])
  done ++ [(current, false)]

/-- How the path of a URL is read: the special schemes also split it at backslashes, and
`file` paths also keep a drive letter such as `C:` in front. -/
inductive PathStyle where
  | plain
  | special
  | file
  deriving DecidableEq, Repr

/-- Whether a segment is a drive letter: a letter, then `:` or `|`. -/
def isDriveLetter (seg : List Char) : Bool :=
  match seg with
  | [c, d] => c.isAlpha && (d == ':' || d == '|')
  | _ => false

/-- Whether a segment starts like a drive letter written with `:`: a letter, then `:`,
then anything. Such a first segment of a `file` path is never dropped. -/
def isNormalDriveLetter (seg : String) : Bool :=
  match seg.toList with
  | c :: ':' :: _ => c.isAlpha
  | _ => false

/-- Adds path pieces to the segments read so far: `..` drops the last segment, `.` adds
nothing, and either adds an empty segment when it ends the path, except that under a plain
scheme a final `..` that had nothing to drop adds nothing. A `file` path that starts with a
drive letter writes it with `:` and never drops it. -/
def addPieces (style : PathStyle) (segments : List String) (pieces : List (List Char × Bool)) :
    List String :=
  pieces.foldl (fun path (piece, slash) =>
    let parent :=
      if style == .file && path.length == 1 && path.all isNormalDriveLetter then path
      else path.dropLast
    if isDoubleDot piece then
      if slash || (style == .plain && path.isEmpty) then parent else parent ++ [""]
    else if isSingleDot piece then
      if slash then path else path ++ [""]
    else
      let piece := match piece with
        | [c, _] => if style == .file && path.isEmpty && isDriveLetter piece then [c, ':'] else piece
        | _ => piece
      path ++ [encodeWith inPathSet piece]) segments

/-- A text cut at its first `?` or `#`: what comes before, and the query up to the fragment
when a `?` comes first. -/
def cutQuery (cs : List Char) : List Char × Option (List Char) :=
  let before := cs.takeWhile fun c => c != '?' && c != '#'
  match cs.drop before.length with
  | '?' :: rest => (before, some (rest.takeWhile (· != '#')))
  | _ => (before, none)

/-- A resolved URL as a request sends it: the path, and the query if there is one. -/
structure Located where
  path : String
  query : Option String
  deriving DecidableEq, Repr

/-- The request target: the path, then `?` and the query unless it is missing or empty. -/
def Located.target (l : Located) : String :=
  match l.query with
  | some q => if q.isEmpty then l.path else l.path ++ "?" ++ q
  | none => l.path

/-- The rest of a URL read as a path, and a query. -/
def hierarchical (style : PathStyle) (cs : List Char) : Located :=
  let (pathText, query) := cutQuery cs
  let special := style != .plain
  let isSep := fun c => c == '/' || (special && c == '\\')
  let segs := addPieces style [] (pathPieces isSep pathText)
  ⟨String.join (segs.map ("/" ++ ·)), query.map (encodeWith (if special then inSpecialQuerySet else inQuerySet))⟩

/-- A character that no host may hold. -/
def forbiddenHostChar (c : Char) : Bool :=
  c == '\x00' || c == '\t' || c == '\n' || c == '\r' || c == ' ' || c == '#' || c == '/' ||
    c == ':' || c == '<' || c == '>' || c == '?' || c == '@' || c == '[' || c == '\\' ||
    c == ']' || c == '^' || c == '|'

/-- A character that no domain may hold. -/
def forbiddenDomainChar (c : Char) : Bool :=
  forbiddenHostChar c || c.toNat < 0x20 || c == '%' || c.toNat == 0x7F

/-- The bytes of a text with its well-formed `%XX` escapes decoded and the rest kept. -/
def decodeEscapesLeniently : List Char → List UInt8
  | [] => []
  | '%' :: h :: l :: rest =>
    match Utf8.hexValue h, Utf8.hexValue l with
    | some a, some b => (a * 16 + b).toUInt8 :: decodeEscapesLeniently rest
    | _, _ => 37 :: decodeEscapesLeniently (h :: l :: rest)
  | c :: rest => charBytes c ++ decodeEscapesLeniently rest

/-- The value of one part of a dotted address: decimal, `0x` hexadecimal, or octal after a
leading zero; none when it has a digit its base lacks. -/
def addressPart? (cs : List Char) : Option Nat :=
  let digits (base : Nat) (ds : List Char) : Option Nat :=
    ds.foldl (fun acc d => acc.bind fun v => (Utf8.hexValue d).bind fun x =>
      if x < base then some (v * base + x) else none) (some 0)
  match cs with
  | [] => none
  | '0' :: x :: rest => if x == 'x' || x == 'X' then digits 16 rest else digits 8 (x :: rest)
  | _ => digits 10 cs

/-- Whether a domain ends in a number, which makes it a dotted address. -/
def endsInNumber (labels : List (List Char)) : Bool :=
  let labels := if labels.length > 1 && labels.getLast? == some [] then labels.dropLast else labels
  match labels.getLast? with
  | some last => !last.isEmpty && (last.all Char.isDigit || (addressPart? last).isSome)
  | none => false

/-- Whether a dotted address is well formed: at most four parts, every part but the last
below 256, and the last below what the missing parts leave. -/
def validAddress (labels : List (List Char)) : Bool :=
  let labels := if labels.length > 1 && labels.getLast? == some [] then labels.dropLast else labels
  match labels.mapM addressPart? with
  | none => false
  | some values =>
    values.length ≤ 4 && (values.dropLast.all (· < 256)) &&
      (values.getLast?.all fun v => v < 256 ^ (5 - values.length))

/-- Whether a text is the IPv4 tail of an IPv6 address: four decimal numbers below 256,
without leading zeros, separated by dots, and nothing after them. -/
def embeddedIpv4 (cs : List Char) : Bool :=
  let parts := cs.splitOn '.'
  parts.length == 4 && parts.all fun p =>
    !p.isEmpty && p.all Char.isDigit && (p.length == 1 || p.head? != some '0') &&
      p.foldl (fun v d => v * 10 + (d.toNat - 48)) 0 < 256

/-- Whether the rest of an IPv6 address can be read from group `index` on: groups of one to
four hexadecimal digits separated by colons, where one empty group (`::`) stands for the
missing ones and an IPv4 tail may take the last two. -/
def ipv6Groups : Nat → Nat → Bool → List Char → Bool
  | 0, _, _, _ => false
  | fuel + 1, index, compressed, cs =>
    match cs with
    | [] => compressed || index == 8
    | ':' :: rest => index != 8 && !compressed && ipv6Groups fuel (index + 1) true rest
    | _ =>
      let hex := (cs.takeWhile fun c => (Utf8.hexValue c).isSome).take 4
      index != 8 &&
        match cs.drop hex.length with
        | '.' :: _ => !hex.isEmpty && index ≤ 6 && embeddedIpv4 cs && (compressed || index + 2 == 8)
        | [':'] => false
        | ':' :: rest => ipv6Groups fuel (index + 1) compressed rest
        | [] => ipv6Groups fuel (index + 1) compressed []
        | _ => false

/-- Whether the text between the brackets of a host is an IPv6 address. -/
def validIpv6 (cs : List Char) : Bool :=
  match cs with
  | ':' :: ':' :: rest => ipv6Groups (rest.length + 1) 1 true rest
  | ':' :: _ => false
  | _ => ipv6Groups (cs.length + 1) 0 false cs

/-- Whether a host in brackets is an IPv6 address in brackets. -/
def validBracketed (host : List Char) : Bool :=
  match host with
  | '[' :: rest => rest.getLast? == some ']' && validIpv6 rest.dropLast
  | _ => false

/-- Whether a domain can be read: with its escapes decoded it must be UTF-8 and have an
ASCII form (see Domain.asciiLabels?) that is not empty and holds no forbidden character;
when its last label is a number, it must be a dotted address. -/
def validDomain (host : List Char) : Bool :=
  let bytes := decodeEscapesLeniently host
  let (chars, wellFormed) := Utf8.decodeWith bytes.length bytes
  wellFormed &&
    match Domain.asciiLabels? (chars.map Char.toNat) with
    | none => false
    | some labels =>
      let labels := labels.map fun l => l.map Char.ofNat
      labels != [[]] && !labels.any (·.any forbiddenDomainChar) &&
        (!endsInNumber labels || validAddress labels)

/-- Whether the host of a URL with a special scheme can be read. -/
def validSpecialHost (host : List Char) : Bool :=
  match host with
  | '[' :: _ => validBracketed host
  | _ => validDomain host

/-- Whether the authority of a URL can be read: after any credentials, a host (which a
special scheme needs) and an optional port of at most 65535. Credentials need something
after them, and a port needs a host. -/
def validAuthority (special : Bool) (auth : List Char) : Bool :=
  let hostPort := match auth.reverse.findIdx? (· == '@') with
    | some k => auth.drop (auth.length - k)
    | none => auth
  let (host, port) := match hostPort with
    | '[' :: _ =>
      let inside := hostPort.takeWhile (· != ']')
      let rest := hostPort.drop (inside.length + 1)
      (hostPort.take (inside.length + 1), rest)
    | _ =>
      let h := hostPort.takeWhile (· != ':')
      (h, hostPort.drop h.length)
  let portOk := match port with
    | [] => true
    | ':' :: ds => ds.all Char.isDigit && (ds.foldl (fun v d => v * 10 + (d.toNat - 48)) 0 ≤ 65535)
    | _ => false
  portOk && !(hostPort.isEmpty && auth.contains '@') && !(host.isEmpty && !port.isEmpty) &&
    if special then !host.isEmpty && validSpecialHost host
    else if host.head? == some '[' then validBracketed host
    else !host.any forbiddenHostChar

/-- The slashes and backslashes a URL's authority may start after. -/
def dropSlashes (cs : List Char) : List Char := cs.dropWhile fun c => c == '/' || c == '\\'

/-- An authority, then the path after it. -/
def authorityThenPath (special : Bool) (cs : List Char) : Option Located :=
  let isEnd := fun c => c == '/' || c == '?' || c == '#' || (special && c == '\\')
  let auth := cs.takeWhile fun c => !isEnd c
  let rest := cs.drop auth.length
  if !validAuthority special auth then none
  else if special then
    match rest with
    | c :: r => some (hierarchical .special (if c == '/' || c == '\\' then r else rest))
    | [] => some (hierarchical .special [])
  else
    match rest with
    | [] => some ⟨"", none⟩
    | '/' :: r => some (hierarchical .plain r)
    | _ => some ⟨"", (cutQuery rest).2.map (encodeWith inQuerySet)⟩

/-- A URL without a scheme, read against `http://localhost/`. -/
def relative (cs : List Char) : Option Located :=
  match cs with
  | [] => some ⟨"/", none⟩
  | c :: rest =>
    if c == '/' || c == '\\' then
      match rest with
      | d :: _ =>
        if d == '/' || d == '\\' then authorityThenPath true (dropSlashes rest)
        else some (hierarchical .special rest)
      | [] => some (hierarchical .special [])
    else if c == '?' then some ⟨"/", some (encodeWith inSpecialQuerySet (rest.takeWhile (· != '#')))⟩
    else if c == '#' then some ⟨"/", none⟩
    else some (hierarchical .special cs)

/-- The scheme a URL starts with, in lower case, and the rest after its `:`. -/
def schemeOf? (cs : List Char) : Option (String × List Char) :=
  match cs with
  | c :: rest =>
    if c.isAlpha then
      let body := rest.takeWhile fun d => d.isAlphanum || d == '+' || d == '-' || d == '.'
      match rest.drop body.length with
      | ':' :: after => some (lowerText (c :: body), after)
      | _ => none
    else none
  | [] => none

/-- A `file:` URL: an optional host after two slashes, then the path. A drive letter where
the host would be starts the path instead. -/
def fileUrl (cs : List Char) : Option Located :=
  let slash := fun c => c == '/' || c == '\\'
  match cs with
  | c :: d :: after =>
    if slash c && slash d then
      let host := after.takeWhile fun e => !slash e && e != '?' && e != '#'
      let tail := after.drop host.length
      if isDriveLetter host then some (hierarchical .file after)
      else if !host.isEmpty && !validSpecialHost host then none
      else match tail with
        | e :: r => some (hierarchical .file (if slash e then r else tail))
        | [] => some (hierarchical .file [])
    else if slash c then some (hierarchical .file (d :: after))
    else some (hierarchical .file cs)
  | [c] => some (hierarchical .file (if slash c then [] else [c]))
  | [] => some (hierarchical .file [])

/-- A URL with a scheme that is not special: an authority after `//`, a path after `/`, or
else an opaque path. -/
def otherScheme (cs : List Char) : Option Located :=
  match cs with
  | '/' :: '/' :: after => authorityThenPath false after
  | '/' :: after => some (hierarchical .plain after)
  | _ =>
    let (pathText, query) := cutQuery cs
    some ⟨encodeWith inControlSet pathText, query.map (encodeWith inQuerySet)⟩

/-- The URL a client is given, resolved against `http://localhost/`; none when it cannot be
read. Its lone surrogates read as U+FFFD, and a URL that starts with `//` is taken as a
path on that base. -/
def locate? (url : String) : Option Located :=
  let url := Text.toChars url
  let given := if url.startsWith "//" then "http://localhost" ++ url else url
  let cs := given.toList
  let cs := ((cs.dropWhile (·.toNat ≤ 0x20)).reverse.dropWhile (·.toNat ≤ 0x20)).reverse
  let cs := cs.filter fun c => c != '\t' && c != '\n' && c != '\r'
  match schemeOf? cs with
  | none => relative cs
  | some (scheme, rest) =>
    if scheme == "http" then
      match rest with
      | '/' :: '/' :: _ => authorityThenPath true (dropSlashes rest)
      | _ => relative rest
    else if scheme == "file" then fileUrl rest
    else if isSpecialScheme scheme then authorityThenPath true (dropSlashes rest)
    else otherScheme rest

end GuildRegistry.Http
