import GuildRegistry.Text.Blank

/-! Content types and the body readers they select.

A content type is `type/subtype`, optionally followed by parameters `;name=value`. Both parts of the
type are tokens without a backquote; every parameter name is a token, and a value is a token or a
quoted string. Blanks around the type are ignored, spaces may follow a `;` and a value but not stand
around the `=`, and nothing else may follow.
-/

set_option autoImplicit false

namespace GuildRegistry.Http

/-- A character of a token: a letter, a digit, or one of ``!#$%&'*+.^_`|~-``. -/
def isTokenChar (c : Char) : Bool :=
  c.isAlphanum || c = '!' || c = '#' || c = '$' || c = '%' || c = '&' || c = Char.ofNat 39 ||
    c = '*' || c = '+' || c = '.' || c = '^' || c = '_' || c = Char.ofNat 96 || c = '|' ||
    c = '~' || c = '-'

/-- A character of a type or subtype name: a token character other than the backquote. -/
def isTypeChar (c : Char) : Bool := isTokenChar c && c != Char.ofNat 96

/-- Whether a text is `type/subtype`. -/
def isTypeText (cs : List Char) : Bool :=
  let first := cs.takeWhile isTypeChar
  match cs.drop first.length with
  | '/' :: rest => !first.isEmpty && !rest.isEmpty && rest.all isTypeChar
  | _ => false

/-- A character allowed as it is inside a quoted value. -/
def isQuotedChar (c : Char) : Bool :=
  c = '\x0b' || c = ' ' || c = '!' || ('#' ≤ c && c ≤ '[') || (']' ≤ c && c ≤ '~') ||
    ('\x80' ≤ c && c ≤ '\xff')

/-- Where the reading of the parameters stands. -/
inductive ParamPlace where
  /-- Before a `;` or the end. -/
  | between
  /-- After a `;`, before the name. -/
  | lead
  /-- Inside the name. -/
  | name
  /-- Right after the `=`. -/
  | beforeValue
  /-- Inside a token value. -/
  | token
  /-- Inside a quoted value. -/
  | quoted
  /-- After a backslash inside a quoted value. -/
  | escaped
  /-- After a value. -/
  | trailing
  deriving DecidableEq, Repr

/-- Whether the rest of a content type is a run of parameters `; name=value`, read from
the given place. -/
def parametersFrom : ParamPlace → List Char → Bool
  | .between, [] | .token, [] | .trailing, [] => true
  | _, [] => false
  | .between, c :: rest => c = ';' && parametersFrom .lead rest
  | .lead, c :: rest =>
    if c = ' ' then parametersFrom .lead rest
    else isTokenChar c && parametersFrom .name rest
  | .name, c :: rest =>
    if isTokenChar c then parametersFrom .name rest
    else c = '=' && parametersFrom .beforeValue rest
  | .beforeValue, c :: rest =>
    if c = '"' then parametersFrom .quoted rest
    else isTokenChar c && parametersFrom .token rest
  | .token, c :: rest =>
    if isTokenChar c then parametersFrom .token rest
    else if c = ' ' then parametersFrom .trailing rest
    else c = ';' && parametersFrom .lead rest
  | .quoted, c :: rest =>
    if c = '"' then parametersFrom .trailing rest
    else if c = '\\' then parametersFrom .escaped rest
    else isQuotedChar c && parametersFrom .quoted rest
  | .escaped, c :: rest =>
    (c = '\x0b' || (' ' ≤ c && c ≤ '\xff')) && parametersFrom .quoted rest
  | .trailing, c :: rest =>
    if c = ' ' then parametersFrom .trailing rest
    else c = ';' && parametersFrom .lead rest

/-- The type of a content type, in lower case, when the content type is well formed. -/
def essence? (contentType : String) : Option String :=
  let cs := contentType.toList
  let typePart := cs.takeWhile (· ≠ ';')
  let type := Text.trimChars typePart
  if isTypeText type && parametersFrom .between (cs.drop typePart.length) then
    some (String.ofList (type.map Char.toLower))
  else none

/-- How a body is read. -/
inductive BodyReader where
  | json
  | text
  deriving DecidableEq, Repr

/-- Whether a character list occurs inside another. -/
def occursIn (needle : List Char) : List Char → Bool
  | [] => needle.isEmpty
  | c :: rest => needle.isPrefixOf (c :: rest) || occursIn needle rest

/-- The reader a content type selects, if any. -/
def BodyReader.ofContentType? (contentType : String) : Option BodyReader :=
  (essence? contentType).bind fun t =>
    if occursIn "application/json".toList t.toList then some .json
    else if occursIn "text/plain".toList t.toList then some .text
    else none

end GuildRegistry.Http
