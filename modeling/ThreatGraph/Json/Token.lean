import ThreatGraph.Json.Number

/-!
# Tokens of a JSON text

A text is a sequence of tokens with white space between them: the six marks, quoted texts, and
the literals and numbers, which are whole values already. White space is the space, the tab, the
line feed and the carriage return and nothing else.

Reading a token takes at least one character (`rest_lt_of_token?`), so `tokens?` ends.
-/

namespace ThreatGraph.Json

/-- A token. -/
inductive Token where
  | openArray
  | closeArray
  | openObject
  | closeObject
  | comma
  | colon
  /-- a quoted text, which is a value or a name -/
  | text (text : String)
  /-- a literal or a number -/
  | scalar (value : Json)

/-- The white space between tokens. -/
def isGap (c : Char) : Bool := c == ' ' || c == '\t' || c == '\n' || c == '\r'

/-! ## Quoted texts -/

/-- The value of a hexadecimal digit. -/
def hexDigit? (c : Char) : Option Nat :=
  if c.isDigit then some (c.toNat - '0'.toNat)
  else if 'a' ≤ c ∧ c ≤ 'f' then some (c.toNat - 'a'.toNat + 10)
  else if 'A' ≤ c ∧ c ≤ 'F' then some (c.toNat - 'A'.toNat + 10)
  else none

/-- The code unit that four hexadecimal digits denote. -/
def unit? (a b c d : Char) : Option Nat := do
  return (((← hexDigit? a) * 16 + (← hexDigit? b)) * 16 + (← hexDigit? c)) * 16 + (← hexDigit? d)

/-- The character that a one-letter escape stands for. -/
def escaped? : Char → Option Char
  | '"' => some '"'
  | '\\' => some '\\'
  | '/' => some '/'
  | 'b' => some '\x08'
  | 'f' => some '\x0c'
  | 'n' => some '\n'
  | 'r' => some '\r'
  | 't' => some '\t'
  | _ => none

/-- Whether a code unit opens a pair of two. -/
def isHighUnit (n : Nat) : Bool := 0xd800 ≤ n && n ≤ 0xdbff

/-- Whether a code unit closes a pair of two. -/
def isLowUnit (n : Nat) : Bool := 0xdc00 ≤ n && n ≤ 0xdfff

/-- The character that a pair of code units denotes. -/
def ofPair (high low : Nat) : Char :=
  Char.ofNat (0x10000 + (high - 0xd800) * 0x400 + (low - 0xdc00))

/-- Reads up to the closing quote; `read` holds what has been read, the last character first.
Control characters and code units that are half a pair are refused. -/
def readText? (read : List Char) : List Char → Option (List Char × List Char)
  | [] => none
  | '"' :: rest => some (read.reverse, rest)
  | '\\' :: 'u' :: a :: b :: c :: d :: rest =>
    match unit? a b c d with
    | none => none
    | some high =>
      if isLowUnit high then none
      else if isHighUnit high then
        match rest with
        | '\\' :: 'u' :: e :: f :: g :: h :: more =>
          match unit? e f g h with
          | none => none
          | some low =>
            if isLowUnit low then
              readText? (ofPair high low :: read) more
            else none
        | _ => none
      else readText? (Char.ofNat high :: read) rest
  | '\\' :: c :: rest =>
    match escaped? c with
    | none => none
    | some plain => readText? (plain :: read) rest
  | c :: rest => if c.toNat < 0x20 then none else readText? (c :: read) rest

theorem rest_lt_of_readText? {read cs text rest : List Char}
    (h : readText? read cs = some (text, rest)) : rest.length < cs.length := by
  fun_induction readText? read cs <;> simp_all <;> omega

/-! ## Numbers -/

/-- The digits after a point: at least one. Without a point there are none. -/
def takeFraction? : List Char → Option (List Char × List Char)
  | '.' :: rest =>
    let digits := rest.takeWhile Char.isDigit
    if digits.isEmpty then none else some (digits, rest.drop digits.length)
  | rest => some ([], rest)

/-- The exponent and whether one is stated. -/
def takeExponent? : List Char → Option (Option Int × List Char)
  | [] => some (none, [])
  | mark :: rest =>
    if mark = 'e' ∨ mark = 'E' then
      let (negative, after) := Numeral.takeSign rest
      let digits := after.takeWhile Char.isDigit
      let size : Int := Numeral.value digits
      if digits.isEmpty then none
      else some (some (if negative then -size else size), after.drop digits.length)
    else some (none, mark :: rest)

/-- The digits before a point: at least one, and no superfluous zero in front. -/
def takeWhole? (cs : List Char) : Option (List Char × List Char) :=
  match cs with
  | [] => none
  | '0' :: rest => some (['0'], rest)
  | c :: rest =>
    if c.isDigit then some (c :: rest.takeWhile Char.isDigit, rest.dropWhile Char.isDigit) else none

/-- Reads a number from its first digit on. -/
def readNumber? (negative : Bool) (cs : List Char) : Option (Json × List Char) :=
  (takeWhole? cs).bind fun (whole, cs) =>
  (takeFraction? cs).bind fun (fraction, cs) =>
  (takeExponent? cs).bind fun (exponent, cs) =>
  (numberOf? negative whole fraction exponent).map fun value => (value, cs)

/-! ## All tokens -/

/-- The first token of a text that does not begin with white space, and what follows it. -/
def token? : List Char → Option (Token × List Char)
  | '[' :: rest => some (.openArray, rest)
  | ']' :: rest => some (.closeArray, rest)
  | '{' :: rest => some (.openObject, rest)
  | '}' :: rest => some (.closeObject, rest)
  | ',' :: rest => some (.comma, rest)
  | ':' :: rest => some (.colon, rest)
  | '"' :: rest => (readText? [] rest).map fun (text, rest) => (.text (String.ofList text), rest)
  | 'n' :: 'u' :: 'l' :: 'l' :: rest => some (.scalar .null, rest)
  | 't' :: 'r' :: 'u' :: 'e' :: rest => some (.scalar (.bool true), rest)
  | 'f' :: 'a' :: 'l' :: 's' :: 'e' :: rest => some (.scalar (.bool false), rest)
  | '-' :: rest => (readNumber? true rest).map fun (value, rest) => (.scalar value, rest)
  | cs => (readNumber? false cs).map fun (value, rest) => (.scalar value, rest)

theorem rest_le_of_takeFraction? {cs digits rest : List Char}
    (h : takeFraction? cs = some (digits, rest)) : rest.length ≤ cs.length := by
  unfold takeFraction? at h
  split at h
  · simp only [Option.ite_none_left_eq_some, Option.some.injEq, Prod.mk.injEq] at h
    rw [← h.2.2, List.length_drop, List.length_cons]
    omega
  · simp_all

/-- An exponent adds nothing to what is left. -/
theorem rest_le_of_takeExponent? {cs rest : List Char} {exponent : Option Int}
    (h : takeExponent? cs = some (exponent, rest)) : rest.length ≤ cs.length := by
  have sign (cs : List Char) : (Numeral.takeSign cs).2.length ≤ cs.length := by
    unfold Numeral.takeSign
    split <;> simp
  unfold takeExponent? at h
  split at h
  · simp_all
  · next mark after =>
    split at h
    · have := sign after
      simp only [Option.ite_none_left_eq_some, Option.some.injEq, Prod.mk.injEq] at h
      rw [← h.2.2, List.length_drop, List.length_cons]
      omega
    · simp_all

theorem rest_lt_of_takeWhole? {cs digits rest : List Char}
    (h : takeWhole? cs = some (digits, rest)) : rest.length < cs.length := by
  unfold takeWhole? at h
  split at h
  · simp at h
  · simp_all
  · simp only [Option.ite_none_right_eq_some, Option.some.injEq, Prod.mk.injEq] at h
    rw [← h.2.2, List.length_cons]
    exact Nat.lt_succ_of_le (List.dropWhile_sublist _).length_le

theorem rest_lt_of_readNumber? {negative : Bool} {cs rest : List Char} {value : Json}
    (h : readNumber? negative cs = some (value, rest)) : rest.length < cs.length := by
  simp only [readNumber?, Option.bind_eq_some_iff, Option.map_eq_some_iff, Prod.exists,
    Prod.mk.injEq] at h
  obtain ⟨whole, afterWhole, hw, fraction, afterFraction, hf, exponent, last, he, -, -, -, rfl⟩ := h
  have := rest_lt_of_takeWhole? hw
  have := rest_le_of_takeFraction? hf
  have := rest_le_of_takeExponent? he
  omega

/-- Every token takes at least one character. -/
theorem rest_lt_of_token? {cs rest : List Char} {token : Token}
    (h : token? cs = some (token, rest)) : rest.length < cs.length := by
  unfold token? at h
  split at h
  case h_7 =>
    simp only [Option.map_eq_some_iff, Prod.exists, Prod.mk.injEq] at h
    obtain ⟨text, after, h, -, rfl⟩ := h
    have := rest_lt_of_readText? h
    simp only [List.length_cons]
    omega
  case h_11 =>
    simp only [Option.map_eq_some_iff, Prod.exists, Prod.mk.injEq] at h
    obtain ⟨value, after, h, -, rfl⟩ := h
    have := rest_lt_of_readNumber? h
    simp only [List.length_cons]
    omega
  case h_12 =>
    simp only [Option.map_eq_some_iff, Prod.exists, Prod.mk.injEq] at h
    obtain ⟨value, after, h, -, rfl⟩ := h
    exact rest_lt_of_readNumber? h
  all_goals
    simp only [Option.some.injEq, Prod.mk.injEq] at h
    obtain ⟨-, rfl⟩ := h
    simp only [List.length_cons]
    omega

/-- The tokens of a text, after those that have been `read`, the last of them first. -/
def tokensFrom? (read : List Token) (cs : List Char) : Option (List Token) :=
  match cs with
  | [] => some read.reverse
  | c :: rest =>
    if isGap c then tokensFrom? read rest
    else
      match h : token? (c :: rest) with
      | none => none
      | some (token, more) =>
        have : more.length < (c :: rest).length := rest_lt_of_token? h
        tokensFrom? (token :: read) more
termination_by cs.length
decreasing_by all_goals simp only [List.length_cons] at *; omega

/-- The tokens of a text. -/
def tokens? (cs : List Char) : Option (List Token) := tokensFrom? [] cs

end ThreatGraph.Json
