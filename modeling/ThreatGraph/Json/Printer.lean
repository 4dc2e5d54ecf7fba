import ThreatGraph.Binary64.Layout
import ThreatGraph.Json.Basic

/-!
# Writing JSON

Values are written without any white space, members in their order. In texts only the quote, the
backslash and the control characters below the space are escaped, the latter by a letter where
there is one.
-/

namespace ThreatGraph.Json

/-- Numbers are written in full for first digits from the fifth decimal place to the sixteenth
place before the point; exponents carry their sign, and ties go to the even digit. -/
def numberLayout : Layout := ⟨-5, 15, ['+'], .even⟩

/-- The hexadecimal digit of a number below sixteen. -/
def hexDigit (n : Nat) : Char := Nat.digitChar n

/-- A character as it stands in a quoted text. -/
def escape (c : Char) : List Char :=
  if c = '"' then ['\\', '"']
  else if c = '\\' then ['\\', '\\']
  else if c = '\x08' then ['\\', 'b']
  else if c = '\x0c' then ['\\', 'f']
  else if c = '\n' then ['\\', 'n']
  else if c = '\r' then ['\\', 'r']
  else if c = '\t' then ['\\', 't']
  else if c.toNat < 0x20 then
    ['\\', 'u', '0', '0', hexDigit (c.toNat / 16), hexDigit (c.toNat % 16)]
  else [c]

/-- A text in quotes. -/
def quoted (text : String) : List Char := '"' :: (text.toList.flatMap escape ++ ['"'])

mutual

/-- Writes a value in front of the characters `after`. -/
def writeBefore (after : List Char) : Json → List Char
  | .null => 'n' :: 'u' :: 'l' :: 'l' :: after
  | .bool true => 't' :: 'r' :: 'u' :: 'e' :: after
  | .bool false => 'f' :: 'a' :: 'l' :: 's' :: 'e' :: after
  | .integer n => (toString n).toList ++ after
  | .float x => numberLayout.write x ++ after
  | .string text => quoted text ++ after
  | .array items => '[' :: writeItems (']' :: after) items
  | .object members => '\x7b' :: writeMembers ('\x7d' :: after) members

/-- Writes the items of a list, with commas between them. -/
def writeItems (after : List Char) : List Json → List Char
  | [] => after
  | [item] => writeBefore after item
  | item :: next :: rest => writeBefore (',' :: writeItems after (next :: rest)) item

/-- Writes the members of an object, with commas between them. -/
def writeMembers (after : List Char) : List (String × Json) → List Char
  | [] => after
  | [(name, value)] => quoted name ++ ':' :: writeBefore after value
  | (name, value) :: next :: rest =>
    quoted name ++ ':' :: writeBefore (',' :: writeMembers after (next :: rest)) value

end

/-- The text of a value. -/
def print (value : Json) : String := String.ofList (value.writeBefore [])

end ThreatGraph.Json
