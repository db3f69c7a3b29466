/-! Escaping text for HTML.

Five replace-all passes write the markup characters as entities, `&` first: `&` as `&amp;`,
`<` as `&lt;`, `>` as `&gt;`, `"` as `&quot;` and `'` as `&#39;`.
-/

set_option autoImplicit false

namespace GuildRegistry.Html

/-- Replaces every occurrence of one character by a text. -/
def replaceAll (c : Char) (entity : List Char) (cs : List Char) : List Char :=
  cs.flatMap fun x => if x = c then entity else [x]

/-- Escapes the markup characters of a character list, one pass per character. -/
def escapeChars (cs : List Char) : List Char :=
  cs |> replaceAll '&' "&amp;".toList |> replaceAll '<' "&lt;".toList |> replaceAll '>' "&gt;".toList
    |> replaceAll '"' "&quot;".toList |> replaceAll '\x27' "&#39;".toList

/-- Escapes the markup characters of a text. -/
def escape (s : String) : String := String.ofList (escapeChars s.toList)

end GuildRegistry.Html
