import ThreatGraph.Proofs.Wording

/-!
# What literals keep of their texts

A literal keeps its text but for the kind of its quotes: in a literal double quotes are single ones,
and a backslash stands before every backslash. So what is read from a literal, when escapes are
undone, is the text with single quotes only (`unquote_quote`).

Besides, a literal shows by itself where it ends. Whatever follows it, a scanner that lets a
backslash protect the next character comes out of it at its last quote (`quote_delimited`).
-/

namespace ThreatGraph

/-- The text with single quotes for double quotes. -/
def plain (text : String) : String :=
  String.ofList (text.toList.map fun c => if c = '"' then '\'' else c)

/-- The characters without escapes: after a backslash the next one stands for itself. -/
def unescape : List Char → List Char
  | [] => []
  | '\\' :: c :: rest => c :: unescape rest
  | c :: rest => c :: unescape rest

/-- What is read from a literal: what stands between its quotes, without escapes. -/
def unquote (literal : String) : String :=
  String.ofList (unescape literal.toList.tail.dropLast)

/-- Escapes are undone one character at a time. -/
theorem unescape_quoteChar_append (c : Char) (rest : List Char) :
    unescape (quoteChar c ++ rest) = (if c = '"' then '\'' else c) :: unescape rest := by
  by_cases hbackslash : c = '\\'
  · rw [hbackslash]
    rfl
  by_cases hquote : c = '"'
  · rw [hquote]
    rfl
  rw [quoteChar, if_neg hbackslash, if_neg hquote, if_neg hquote]
  change unescape (c :: rest) = _
  rw [unescape.eq_def]
  split
  · next hnil => cases hnil
  · next hcons => exact absurd (List.cons.inj hcons).1 hbackslash
  · next hcons =>
    obtain ⟨rfl, rfl⟩ := List.cons.inj hcons
    rfl

/-- A body that is unescaped is the plain text. -/
theorem unescape_quoteBody (text : String) : unescape (quoteBody text) = (plain text).toList := by
  rw [quoteBody, plain, String.toList_ofList]
  induction text.toList with
  | nil => rfl
  | cons c rest ih => rw [List.flatMap_cons, unescape_quoteChar_append, ih, List.map_cons]

/-- What is read from the literal of a text is the text with single quotes for double quotes. -/
@[simp] theorem unquote_quote (text : String) : unquote (quote text) = plain text := by
  rw [unquote, toList_quote, List.tail_cons, List.dropLast_concat, unescape_quoteBody,
    String.ofList_toList]

/-- Both kinds of quotes become the same in a literal. -/
theorem quote_plain (text : String) : quote (plain text) = quote text := by
  have hchar (c : Char) : quoteChar (if c = '"' then '\'' else c) = quoteChar c := by
    split
    · next hquote =>
      rw [hquote]
      rfl
    · rfl
  rw [quote, quote, plain, String.toList_ofList, List.flatMap_map]
  simp only [hchar]

/-- Two literals are the same exactly if their plain texts are. -/
theorem quote_eq_quote_iff {s s' : String} : quote s = quote s' ↔ plain s = plain s' := by
  constructor
  · intro h
    rw [← unquote_quote s, h, unquote_quote]
  · intro h
    rw [← quote_plain s, h, quote_plain]

/-! ## Where a literal ends -/

/-- Goes on inside a literal to the first quote that no backslash protects: what stands before that
quote, and what follows it. -/
def scanBody? : List Char → Option (List Char × List Char)
  | [] => none
  | '"' :: rest => some ([], rest)
  | '\\' :: c :: rest => (scanBody? rest).map fun (body, after) => ('\\' :: c :: body, after)
  | c :: rest => (scanBody? rest).map fun (body, after) => (c :: body, after)

/-- Takes a literal off the front of a text: what stands between its quotes, and what follows it. -/
def scanLiteral? : List Char → Option (List Char × List Char)
  | '"' :: rest => scanBody? rest
  | _ => none

/-- Escapes are passed over one character of the text at a time. -/
theorem scanBody?_quoteChar_append (c : Char) (rest : List Char) :
    scanBody? (quoteChar c ++ rest) =
      (scanBody? rest).map fun (body, after) => (quoteChar c ++ body, after) := by
  by_cases hbackslash : c = '\\'
  · rw [hbackslash]
    rfl
  by_cases hquote : c = '"'
  · rw [hquote]
    rfl
  rw [quoteChar, if_neg hbackslash, if_neg hquote]
  change scanBody? (c :: rest) = _
  rw [scanBody?.eq_def]
  split
  · next hnil => cases hnil
  · next hcons => exact absurd (List.cons.inj hcons).1 hquote
  · next hcons => exact absurd (List.cons.inj hcons).1 hbackslash
  · next hcons =>
    obtain ⟨rfl, rfl⟩ := List.cons.inj hcons
    rfl

/-- A body is scanned up to its closing quote, whatever follows. -/
theorem scanBody?_quoteBody (text : String) (rest : List Char) :
    scanBody? (quoteBody text ++ '"' :: rest) = some (quoteBody text, rest) := by
  rw [quoteBody]
  induction text.toList with
  | nil => rfl
  | cons c more ih =>
    rw [List.flatMap_cons, List.append_assoc, scanBody?_quoteChar_append, ih, Option.map_some]

/-- **Literals end by themselves and lose nothing but the kind of their quotes.** A scanner that is
put at the first character of a literal, whatever comes after it, stops right behind it. When the
escapes between the quotes are undone, there stands the text with single quotes for double quotes,
and two texts have the same literal exactly if they become equal in that way. -/
theorem quote_delimited :
    (∀ s t : String, ∃ body, (quote s).toList = '"' :: (body ++ ['"']) ∧
      scanLiteral? (quote s ++ t).toList = some (body, t.toList) ∧
      unescape body = s.toList.map fun c => if c = '"' then '\'' else c) ∧
    ∀ s s' : String, quote s = quote s' ↔
      (s.toList.map fun c => if c = '"' then '\'' else c) =
        s'.toList.map fun c => if c = '"' then '\'' else c := by
  constructor
  · intro s t
    refine ⟨quoteBody s, toList_quote s, ?_, ?_⟩
    · rw [String.toList_append, toList_quote, List.cons_append, List.append_assoc]
      exact scanBody?_quoteBody s t.toList
    · rw [unescape_quoteBody, plain, String.toList_ofList]
  · intro s s'
    rw [quote_eq_quote_iff, plain, plain, String.ofList_inj]

/-- A backslash right before a quote does not keep the literal open. -/
example : scanLiteral? (quote "\\\"" ++ "\", ").toList =
    some (['\\', '\\', '\''], ['"', ',', ' ']) := by decide

end ThreatGraph
