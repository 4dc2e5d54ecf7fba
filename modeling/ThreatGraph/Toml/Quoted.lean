import ThreatGraph.Json.Token

/-!
# Quoted texts in TOML

A text can be quoted in four ways: in double quotes with escapes or in single quotes without, and
either on one line or, in three quotes, over several. The first line break after three opening
quotes does not count, and up to two quotes may stand right before three closing ones.

`Quoted.write` chooses the plainest way that a text allows, and `Quoted.read?` reads all of them.
-/

namespace ThreatGraph.Toml

/-- Whether a character may stand in a quoted text or a comment as it is. -/
def isPlain (c : Char) : Bool := c == '\t' || (0x20 ≤ c.toNat && c.toNat != 0x7f)

/-- Whether a character can only be written as an escape. -/
def needsEscape (c : Char) : Bool := c != '\n' && !isPlain c

/-- The ways to quote a text. -/
inductive QuoteStyle where
  /-- in double quotes -/
  | basic
  /-- in single quotes -/
  | literal
  /-- in three double quotes -/
  | basicLines
  /-- in three single quotes -/
  | literalLines
  deriving DecidableEq, Repr

namespace Quoted

/-! ## Writing -/

/-- The length of the longest run of `mark`, if `run` of them stand right before the text. -/
def longestRun (mark : Char) (run : Nat) : List Char → Nat
  | [] => run
  | c :: rest =>
    if c = mark then longestRun mark (run + 1) rest else max run (longestRun mark 0 rest)

/-- The plainest way to quote a text. -/
def styleOf (cs : List Char) : QuoteStyle :=
  let escapes := cs.any needsEscape
  let lines := cs.contains '\n'
  let backslash := cs.contains '\\'
  let doubles := longestRun '"' 0 cs
  let singles := longestRun '\'' 0 cs
  if !escapes && !lines && !backslash && doubles == 0 then .basic
  else if !escapes && !lines && singles == 0 then .literal
  else if !escapes && !backslash && doubles ≤ 2 then .basicLines
  else if !escapes && singles ≤ 2 then .literalLines
  else if lines then .basicLines
  else .basic

/-- The hexadecimal digit of a number below sixteen, a letter in upper case. -/
def hexDigit (n : Nat) : Char := (Nat.digitChar n).toUpper

/-- A character other than a quote and a line break as it stands in double quotes. -/
def escape (c : Char) : List Char :=
  if c = '\\' then ['\\', '\\']
  else if c = '\x08' then ['\\', 'b']
  else if c = '\t' then ['\\', 't']
  else if c = '\x0c' then ['\\', 'f']
  else if c = '\r' then ['\\', 'r']
  else if isPlain c then [c]
  else ['\\', 'u', '0', '0', hexDigit (c.toNat / 16), hexDigit (c.toNat % 16)]

/-- A character as it stands in double quotes on one line. -/
def escapeOnLine (c : Char) : List Char :=
  if c = '"' then ['\\', '"'] else if c = '\n' then ['\\', 'n'] else escape c

/-- The inside of three double quotes, after `run` quotes: every third quote is escaped. -/
def escapeLines (run : Nat) : List Char → List Char
  | [] => []
  | c :: rest =>
    if c = '"' then
      if run < 2 then '"' :: escapeLines (run + 1) rest
      else '\\' :: '"' :: escapeLines 0 rest
    else if c = '\n' then '\n' :: escapeLines 0 rest
    else escape c ++ escapeLines 0 rest

/-- The line break after three opening quotes, which stands there for a text of several lines. -/
def opening (cs : List Char) : List Char := if cs.contains '\n' then ['\n'] else []

/-- A text in quotes. -/
def write (cs : List Char) : List Char :=
  match styleOf cs with
  | .basic => '"' :: (cs.flatMap escapeOnLine ++ ['"'])
  | .literal => '\'' :: (cs ++ ['\''])
  | .basicLines => '"' :: '"' :: '"' :: (opening cs ++ escapeLines 0 cs ++ ['"', '"', '"'])
  | .literalLines => '\'' :: '\'' :: '\'' :: (opening cs ++ cs ++ ['\'', '\'', '\''])

/-! ## Reading -/

/-- The character that hexadecimal digits name. -/
def ofHex? (digits : List Char) : Option Char := do
  let values ← digits.mapM Json.hexDigit?
  let n := values.foldl (fun n digit => n * 16 + digit) 0
  if n.isValidChar then some (Char.ofNat n) else none

/-- The character that an escape stands for, read from after the backslash, and what follows. -/
def escape? : List Char → Option (Char × List Char)
  | 'b' :: rest => some ('\x08', rest)
  | 't' :: rest => some ('\t', rest)
  | 'n' :: rest => some ('\n', rest)
  | 'f' :: rest => some ('\x0c', rest)
  | 'r' :: rest => some ('\r', rest)
  | '"' :: rest => some ('"', rest)
  | '\\' :: rest => some ('\\', rest)
  | 'u' :: rest =>
    if rest.length < 4 then none else (ofHex? (rest.take 4)).map fun c => (c, rest.drop 4)
  | 'U' :: rest =>
    if rest.length < 8 then none else (ofHex? (rest.take 8)).map fun c => (c, rest.drop 8)
  | _ => none

theorem rest_lt_of_escape? {cs rest : List Char} {c : Char} (h : escape? cs = some (c, rest)) :
    rest.length < cs.length := by
  unfold escape? at h
  split at h
  case h_8 | h_9 =>
    simp only [Option.ite_none_left_eq_some, Option.map_eq_some_iff, Prod.mk.injEq] at h
    obtain ⟨-, -, -, -, rfl⟩ := h
    simp only [List.length_drop, List.length_cons]
    omega
  all_goals simp_all

/-- Drops white space and line breaks. -/
def dropBreaks : List Char → List Char
  | ' ' :: rest => dropBreaks rest
  | '\t' :: rest => dropBreaks rest
  | '\n' :: rest => dropBreaks rest
  | '\r' :: '\n' :: rest => dropBreaks rest
  | cs => cs

/-- What follows a line break, if one comes first. -/
def afterBreak? : List Char → Option (List Char)
  | '\n' :: rest => some rest
  | '\r' :: '\n' :: rest => some rest
  | _ => none

/-- Drops white space on the line. -/
def dropSpace (cs : List Char) : List Char := cs.dropWhile fun c => c == ' ' || c == '\t'

/-- What follows a backslash at the end of a line: the next character that is no white space. -/
def continued? (cs : List Char) : Option (List Char) := (afterBreak? (dropSpace cs)).map dropBreaks

theorem length_dropBreaks (cs : List Char) : (dropBreaks cs).length ≤ cs.length := by
  fun_induction dropBreaks cs <;> simp_all <;> omega

/-- Behind a break there is less left. -/
theorem rest_lt_of_afterBreak? {cs rest : List Char} (h : afterBreak? cs = some rest) :
    rest.length < cs.length := by
  unfold afterBreak? at h
  split at h
  · simp_all
  · simp only [Option.some.injEq] at h
    subst h
    simp only [List.length_cons]
    omega
  · simp at h

/-- So there is where a line is continued. -/
theorem rest_lt_of_continued? {cs rest : List Char} (h : continued? cs = some rest) :
    rest.length < cs.length := by
  simp only [continued?, Option.map_eq_some_iff] at h
  obtain ⟨after, ha, rfl⟩ := h
  have := rest_lt_of_afterBreak? ha
  have := length_dropBreaks after
  have : (dropSpace cs).length ≤ cs.length := (List.dropWhile_sublist _).length_le
  omega

/-- Reads up to the closing double quote; `read` holds what has been read, the last character
first. -/
def readBasic? (read : List Char) (cs : List Char) : Option (List Char × List Char) :=
  match cs with
  | [] => none
  | c :: rest =>
    if c = '"' then some (read.reverse, rest)
    else if c = '\\' then
      match h : escape? rest with
      | none => none
      | some (plain, more) =>
        have : more.length < rest.length := rest_lt_of_escape? h
        readBasic? (plain :: read) more
    else if isPlain c then readBasic? (c :: read) rest
    else none
termination_by cs.length

/-- Reads up to the closing single quote. -/
def readLiteral? (cs : List Char) : Option (List Char × List Char) :=
  let inside (c : Char) := c != '\'' && isPlain c
  match cs.dropWhile inside with
  | '\'' :: rest => some (cs.takeWhile inside, rest)
  | _ => none

/-- What follows three closing quotes: up to two more belong to the text. -/
def close (mark : Char) (read after : List Char) : List Char × List Char :=
  let extra := min (after.takeWhile fun c => c == mark).length 2
  (read.reverse ++ List.replicate extra mark, after.drop extra)

/-- Reads up to three closing double quotes. -/
def readBasicLines? (read : List Char) (cs : List Char) : Option (List Char × List Char) :=
  match cs with
  | [] => none
  | c :: rest =>
    match ['"', '"', '"'].isPrefixOf? (c :: rest) with
    | some after => some (close '"' read after)
    | none =>
      if c = '\\' then
        match hc : continued? rest with
        | some more =>
          have : more.length < rest.length := rest_lt_of_continued? hc
          readBasicLines? read more
        | none =>
          match h : escape? rest with
          | none => none
          | some (plain, more) =>
            have : more.length < rest.length := rest_lt_of_escape? h
            readBasicLines? (plain :: read) more
      else
        match hb : afterBreak? (c :: rest) with
        | some more =>
          have : more.length < (c :: rest).length := rest_lt_of_afterBreak? hb
          readBasicLines? ('\n' :: read) more
        | none => if isPlain c then readBasicLines? (c :: read) rest else none
termination_by cs.length
decreasing_by all_goals simp only [List.length_cons] at *; omega

/-- Reads up to three closing single quotes. -/
def readLiteralLines? (read : List Char) (cs : List Char) : Option (List Char × List Char) :=
  match cs with
  | [] => none
  | c :: rest =>
    match ['\'', '\'', '\''].isPrefixOf? (c :: rest) with
    | some after => some (close '\'' read after)
    | none =>
      match hb : afterBreak? (c :: rest) with
      | some more =>
        have : more.length < (c :: rest).length := rest_lt_of_afterBreak? hb
        readLiteralLines? ('\n' :: read) more
      | none => if isPlain c then readLiteralLines? (c :: read) rest else none
termination_by cs.length
decreasing_by all_goals simp only [List.length_cons] at *; omega

/-- The text without the line break that does not count. -/
def dropOpening (cs : List Char) : List Char := (afterBreak? cs).getD cs

/-- Reads a text in quotes, and what follows it. -/
def read? : List Char → Option (List Char × List Char)
  | '"' :: '"' :: '"' :: rest => readBasicLines? [] (dropOpening rest)
  | '"' :: rest => readBasic? [] rest
  | '\'' :: '\'' :: '\'' :: rest => readLiteralLines? [] (dropOpening rest)
  | '\'' :: rest => readLiteral? rest
  | _ => none

end Quoted

end ThreatGraph.Toml
