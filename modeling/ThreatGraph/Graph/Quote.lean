/-!
# String literals

A string literal is a text in double quotes. Inside, a backslash is written twice, and a double
quote, which the target language cannot hold in a literal of this kind, becomes a single quote.
-/

namespace ThreatGraph

/-- A character as it stands inside a literal. -/
def quoteChar (c : Char) : List Char :=
  if c = '\\' then ['\\', '\\'] else if c = '"' then ['\''] else [c]

/-- The string literal of a text. -/
def quote (text : String) : String :=
  String.ofList ('"' :: (text.toList.flatMap quoteChar ++ ['"']))

end ThreatGraph
