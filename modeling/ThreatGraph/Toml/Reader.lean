import ThreatGraph.Toml.Basic
import ThreatGraph.Toml.Moment
import ThreatGraph.Toml.Number
import ThreatGraph.Toml.Quoted
import ThreatGraph.Word

/-!
# Reading TOML

A document is a sequence of statements, each on lines of its own: headers, which say to which
table the following entries belong, and entries, which are a key and a value. Comments and empty
lines may stand between them. The statements are read first and then put together.

Headers of arrays of tables are refused, because no settings are in them.
-/

namespace ThreatGraph.Toml

/-! ## Keys -/

/-- Whether a character may stand in a key without quotes. -/
def isKeyChar (c : Char) : Bool := c.isAlphanum || c == '_' || c == '-'

/-- One key, and what follows it. -/
def key? : List Char → Option (String × List Char)
  | '"' :: rest => (Quoted.readBasic? [] rest).map fun (name, rest) => (String.ofList name, rest)
  | '\'' :: rest => (Quoted.readLiteral? rest).map fun (name, rest) => (String.ofList name, rest)
  | cs =>
    let name := cs.takeWhile isKeyChar
    if name.isEmpty then none else some (String.ofList name, cs.drop name.length)

/-- How deep tables and arrays may lie in one another. -/
def maxDepth : Nat := 79

/-- Keys with points between them, and what follows them. -/
def names? (cs : List Char) : Option (List String × List Char) :=
  match key? (Quoted.dropSpace cs) with
  | none => none
  | some (name, rest) =>
    match Quoted.dropSpace rest with
    | '.' :: more =>
      if more.length < cs.length then
        (names? more).map fun (names, rest) => (name :: names, rest)
      else none
    | rest => some ([name], rest)
termination_by cs.length

/-- The path that keys with points between them state, and what follows it. -/
def path? (cs : List Char) : Option (List String × List Char) :=
  (names? cs).filter fun (path, _) => path.length ≤ maxDepth

/-! ## Values -/

/-- Whether a character may stand in a word: a truth value, a number, a date or a time. -/
def isWordChar (c : Char) : Bool := isKeyChar c || c == '+' || c == '.' || c == ':'

/-- The value of a word: a truth value, an integer of 64 bits with sign, another number, or a date
or time. -/
def word? (cs : List Char) : Option Scalar :=
  if cs = ['t', 'r', 'u', 'e'] then some (.boolean true)
  else if cs = ['f', 'a', 'l', 's', 'e'] then some (.boolean false)
  else if isNotFinite cs || isDecimalFraction cs then some (.float (String.ofList cs))
  else if isMoment cs then some (.moment (String.ofList cs))
  else ((integer? cs).filter Word.fitsSigned).map .integer

/-- The word in front, and what follows it. There is a space in a date with a time after it. -/
def takeWord (cs : List Char) : List Char × List Char :=
  let word := cs.takeWhile isWordChar
  let rest := cs.dropWhile isWordChar
  match rest with
  | ' ' :: more =>
    let longer := word ++ ' ' :: more.takeWhile isWordChar
    if isMoment longer then (longer, more.dropWhile isWordChar) else (word, rest)
  | _ => (word, rest)

/-- Drops white space, line breaks and comments. Within a comment `comment` is set. -/
def dropGaps (comment : Bool) : List Char → List Char
  | [] => []
  | '\r' :: '\n' :: rest => dropGaps false rest
  | c :: rest =>
    if c = '\n' then dropGaps false rest
    else if comment then if isPlain c then dropGaps true rest else c :: rest
    else if c = ' ' ∨ c = '\t' then dropGaps false rest
    else if c = '#' then dropGaps true rest
    else c :: rest

/-- What follows the equals sign between a key and its value. -/
def afterEquals? : List Char → Option (List Char)
  | '=' :: rest => some (Quoted.dropSpace rest)
  | _ => none

/-- The items of an array from where one or the closing bracket is expected, and what follows. The
items are read by `value?`. -/
def items? (value? : List Char → Option (Toml × List Char)) (cs : List Char) :
    Option (List Toml × List Char) :=
  match cs with
  | ']' :: rest => some ([], rest)
  | cs =>
    match value? cs with
    | none => none
    | some (item, rest) =>
      match dropGaps false rest with
      | ']' :: rest => some ([item], rest)
      | ',' :: rest =>
        let more := dropGaps false rest
        if more.length < cs.length then
          (items? value? more).map fun (items, rest) => (item :: items, rest)
        else none
      | _ => none
termination_by cs.length

/-- The entries of a table in braces, after those that have been read, and what follows. The
values are read by `value?`. -/
def inlineEntries? (value? : List Char → Option (Toml × List Char)) (entries : Entries)
    (cs : List Char) : Option (Entries × List Char) :=
  let entry? := do
    let (path, rest) ← path? cs
    let (value, rest) ← value? (← afterEquals? rest)
    return (← addEntry value path entries, Quoted.dropSpace rest)
  match entry? with
  | some (entries, '\x7d' :: rest) => some (entries, rest)
  | some (entries, ',' :: rest) =>
    if rest.length < cs.length then inlineEntries? value? entries rest else none
  | _ => none
termination_by cs.length

/-- A value in which brackets and braces are at most `depth` deep, and what follows it. -/
def valueWithin? : Nat → List Char → Option (Toml × List Char)
  | 0, '[' :: _ => none
  | 0, '\x7b' :: _ => none
  | depth + 1, '[' :: rest =>
    (items? (valueWithin? depth) (dropGaps false rest)).map fun (items, rest) =>
      (.array items, rest)
  | depth + 1, '\x7b' :: rest =>
    match Quoted.dropSpace rest with
    | '\x7d' :: rest => some (.table .inline [], rest)
    | rest =>
      (inlineEntries? (valueWithin? depth) [] rest).map fun (entries, rest) =>
        (.table .inline entries, rest)
  | _, '"' :: rest =>
    (Quoted.read? ('"' :: rest)).map fun (text, rest) =>
      (.scalar (.string (String.ofList text)), rest)
  | _, '\'' :: rest =>
    (Quoted.read? ('\'' :: rest)).map fun (text, rest) =>
      (.scalar (.string (String.ofList text)), rest)
  | _, cs =>
    let (word, rest) := takeWord cs
    (word? word).map fun scalar => (.scalar scalar, rest)

/-- A value, and what follows it. -/
def value? (cs : List Char) : Option (Toml × List Char) := valueWithin? maxDepth cs

/-! ## Statements -/

/-- A statement of a document. -/
inductive Statement where
  /-- the entries after it belong to the table at this path -/
  | header (path : List String)
  /-- a value under a key -/
  | entry (path : List String) (value : Toml)

/-- What follows the end of a line, before which a comment may stand. -/
def afterLine? (cs : List Char) : Option (List Char) :=
  let rest :=
    match Quoted.dropSpace cs with
    | '#' :: comment => comment.dropWhile isPlain
    | rest => rest
  if rest.isEmpty then some [] else Quoted.afterBreak? rest

/-- A statement up to the end of its line, and what follows it. -/
def statement? : List Char → Option (Statement × List Char)
  | '[' :: rest =>
    (path? rest).bind fun (path, rest) =>
      match rest with
      | ']' :: rest => (afterLine? rest).map fun rest => (.header path, rest)
      | _ => none
  | cs =>
    (path? cs).bind fun (path, rest) => (afterEquals? rest).bind fun rest =>
      (value? rest).bind fun (value, rest) =>
        (afterLine? rest).map fun rest => (.entry path value, rest)

/-- The statements of a document. -/
def statements? (cs : List Char) : Option (List Statement) :=
  match dropGaps false cs with
  | [] => some []
  | c :: after =>
    match statement? (c :: after) with
    | none => none
    | some (first, rest) =>
      if rest.length < cs.length then (statements? rest).map (first :: ·) else none
termination_by cs.length

/-! ## Documents -/

/-- Puts statements together. Entries belong to the table at `current` until a header comes. -/
def assemble (current : List String) (entries : Entries) : List Statement → Option Entries
  | [] => some entries
  | .header path :: rest => (addTable path entries).bind fun entries => assemble path entries rest
  | .entry path value :: rest =>
    (within (addEntry value path) current entries).bind fun entries => assemble current entries rest

/-- The text without a byte order mark. -/
def dropMark : List Char → List Char
  | '\ufeff' :: rest => rest
  | cs => cs

/-- The entries of the document that a text states. -/
def parse? (text : String) : Option Entries :=
  (statements? (dropMark text.toList)).bind (assemble [] [])

end ThreatGraph.Toml
