import ThreatGraph.Proofs.Exactness
import ThreatGraph.Proofs.Pieces
import ThreatGraph.Proofs.Requoting
import ThreatGraph.Proofs.Tables
import ThreatGraph.Toml.Printer
import ThreatGraph.Toml.Reader

/-!
# Documents of sections are read again

A document that is written section by section states the tables that it was written from
(`Toml.parse?_writeSections`). Its lines are read one after the other, each up to the end of its
line, and what they state is put together in the same order. Names are written without quotes,
so they must be of characters that need none, and no name may be repeated.

The proofs follow the reader: a word, a value, a line, a document. At each level a lemma says that
what was written is read, and nothing of what stands behind it, so the next level can go on there.
Only then are the statements put together (`assemble_sections`), where names that differ keep the
entries apart.
-/

namespace ThreatGraph.Toml

/-! ## Words -/

/-- A word goes on to the end of its line, if no character ends it before. -/
theorem takeWord_line {cs : List Char} (h : ∀ c ∈ cs, isWordChar c = true) (rest : List Char) :
    takeWord (cs ++ '\n' :: rest) = (cs, '\n' :: rest) := by
  have hend : isWordChar '\n' = false := by decide
  rw [takeWord, List.takeWhile_append_of_pos h, List.dropWhile_append_of_pos h]
  simp [hend]

theorem takeMark_of_not_mem {mark : Char} {cs : List Char} (h : mark ∉ cs) :
    Timestamp.takeMark mark cs = .error .separator := by
  cases cs with
  | nil => rfl
  | cons c rest => exact if_neg (Ne.symm (List.ne_and_not_mem_of_not_mem_cons h).1)

/-- A number takes as many characters as it is wide. -/
theorem drop_of_takeNumber {part : TimePart} {width least greatest n : Nat} {cs rest : List Char}
    (h : Timestamp.takeNumber part width least greatest cs = .ok (n, rest)) :
    rest = cs.drop width := by
  simp only [Timestamp.takeNumber] at h
  split at h
  · exact (Prod.mk.inj (Except.ok.inj h)).2.symm
  · cases h

/-- A date has a hyphen behind its year. -/
theorem afterDate?_eq_none {cs : List Char} (h : '-' ∉ cs.drop 4) : afterDate? cs = none := by
  unfold afterDate?
  cases hyear : Timestamp.takeNumber .year 4 0 9999 cs with
  | error defect => rfl
  | ok pair =>
    have hrest : '-' ∉ pair.2 := drop_of_takeNumber hyear ▸ h
    simp only [bind, Except.bind, takeMark_of_not_mem hrest]
    rfl

/-- A time of day has a colon behind its hour. -/
theorem afterTime?_eq_none {cs : List Char} (h : ':' ∉ cs) : afterTime? cs = none := by
  unfold afterTime? afterMinutes?
  cases hhour : Timestamp.takeNumber .hour 2 0 23 cs with
  | error defect => rfl
  | ok pair =>
    have hrest : ':' ∉ pair.2 := by
      rw [drop_of_takeNumber hhour]
      exact fun hmem => h (List.mem_of_mem_drop hmem)
    simp only [bind, Except.bind, takeMark_of_not_mem hrest]
    rfl

/-- A word without the marks of dates and times states no moment. -/
theorem isMoment_eq_false {cs : List Char} (hdate : '-' ∉ cs.drop 4) (htime : ':' ∉ cs) :
    isMoment cs = false := by
  rw [isMoment, afterDate?_eq_none hdate, afterTime?_eq_none htime]
  rfl

/-- Digits alone are no number with a point or an exponent. -/
theorem isDecimalFraction_eq_false {cs digits : List Char} {negative : Bool}
    (hsign : Numeral.takeSign cs = (negative, digits)) (h : AllDigits digits) :
    isDecimalFraction cs = false := by
  have hmark : ∀ c ∈ digits, (!isExponentMark c) = true := by
    intro c hc
    rw [Bool.not_eq_true', ← Bool.not_eq_true]
    simp only [isExponentMark, Bool.or_eq_true, beq_iff_eq]
    rintro (rfl | rfl)
    · exact h.not_mem (by decide) hc
    · exact h.not_mem (by decide) hc
  have hpoint : ∀ c ∈ digits, (c != '.') = true := by
    intro c hc
    rw [bne_iff_ne]
    rintro rfl
    exact h.not_mem (by decide) hc
  simp [isDecimalFraction, hsign, List.takeWhile_eq_self_iff.mpr hmark,
    List.dropWhile_eq_nil_iff.mpr hmark, List.dropWhile_eq_nil_iff.mpr hpoint]

theorem digits?_of_allDigits {digits : List Char} (hempty : digits ≠ []) (h : AllDigits digits) :
    digits? Char.isDigit digits = some digits := by
  have hpieces : Text.pieces '_' digits = [digits] := Text.pieces_of_not_mem (h.not_mem rfl)
  simp [digits?, hpieces, hempty, h.all]

/-- Digits are read as their value, if there is no zero in front of others. -/
theorem decimal?_of_digits {c : Char} {rest : List Char} (h : AllDigits (c :: rest))
    (hzero : c = '0' → rest = []) :
    decimal? (c :: rest) = some (Numeral.value (c :: rest)) := by
  have hfront : ¬ (1 < (c :: rest).length ∧ (c :: rest).head? = some '0') := by
    rintro ⟨hlength, hhead⟩
    rw [hzero (Option.some.inj hhead)] at hlength
    exact Nat.lt_irrefl 1 hlength
  rw [decimal?, digits?_of_allDigits (List.cons_ne_nil _ _) h, Option.bind_some, if_neg hfront]

/-- Digits with or without a hyphen in front are a word for an integer only. -/
theorem word?_of_digits {cs digits : List Char} (h : AllDigits digits)
    (hcs : cs = digits ∨ cs = '-' :: digits) :
    word? cs = ((integer? cs).filter Word.fitsSigned).map .integer := by
  obtain ⟨negative, hsign⟩ : ∃ negative, Numeral.takeSign cs = (negative, digits) := by
    rcases hcs with rfl | rfl
    · exact ⟨false, Numeral.takeSign_digits h⟩
    · exact ⟨true, rfl⟩
  -- words of other kinds have a character that no such word has
  have hother {c : Char} (hdigit : c.isDigit = false) (hhyphen : c ≠ '-') : c ∉ cs := by
    have hc : c ∉ digits := h.not_mem hdigit
    rcases hcs with rfl | rfl
    · exact hc
    · exact List.not_mem_cons_of_ne_of_not_mem hhyphen hc
  have htrue : cs ≠ ['t', 'r', 'u', 'e'] := by
    rintro rfl
    exact hother rfl (by decide) List.mem_cons_self
  have hfalse : cs ≠ ['f', 'a', 'l', 's', 'e'] := by
    rintro rfl
    exact hother rfl (by decide) List.mem_cons_self
  have hfinite : isNotFinite cs = false := by
    have hn : 'n' ∉ digits := h.not_mem rfl
    simp only [isNotFinite, hsign, Bool.or_eq_false_iff, beq_eq_false_iff_ne]
    constructor
    · rintro rfl
      exact hn (by decide)
    · rintro rfl
      exact hn (by decide)
  have hdate : '-' ∉ cs.drop 4 := by
    have hhyphen : '-' ∉ digits := h.not_mem rfl
    rcases hcs with rfl | rfl
    · exact fun hmem => hhyphen (List.mem_of_mem_drop hmem)
    · exact fun hmem => hhyphen (List.mem_of_mem_drop (i := 3) hmem)
  rw [word?, if_neg htrue, if_neg hfalse, hfinite, isDecimalFraction_eq_false hsign h,
    isMoment_eq_false hdate (hother rfl (by decide))]
  rfl

/-- An integer is read as what it is written for. -/
theorem word?_integer {n : Int} (h : Word.fitsSigned n = true) :
    word? (toString n).toList = some (.integer n) := by
  have hcanonical := Numeral.canonical_iff.mpr (rfl : (toString n).toList = _)
  generalize (toString n).toList = cs at hcanonical ⊢
  cases hcanonical with
  | zero => decide
  | @positive c rest hdigits hc =>
    have hinteger : integer? (c :: rest) = (decimal? (c :: rest)).map fun n => (n : Int) := by
      have hsign (mark : Char) (hmark : mark.isDigit = false) : c ≠ mark := by
        rintro rfl
        exact hdigits.not_mem hmark List.mem_cons_self
      unfold integer?
      split
      case h_1 | h_2 | h_3 =>
        next heq => exact absurd (List.cons.inj heq).1 hc
      case h_4 =>
        next heq => exact absurd (List.cons.inj heq).1 (hsign '-' rfl)
      case h_5 =>
        next heq => exact absurd (List.cons.inj heq).1 (hsign '+' rfl)
      case h_6 => rfl
    rw [word?_of_digits hdigits (.inl rfl), hinteger, decimal?_of_digits hdigits (absurd · hc)]
    simp [h]
  | negative hdigits hc =>
    rw [word?_of_digits hdigits (.inr rfl), integer?, decimal?_of_digits hdigits (absurd · hc)]
    simp [h]

/-! ## Values -/

/-- Values that are read as they are written: texts, truth values and integers of 64 bits with
sign. -/
inductive Scalar.Lasting : Scalar → Prop
  | string (text : String) : Lasting (.string text)
  | integer {n : Int} : Word.fitsSigned n = true → Lasting (.integer n)
  | boolean (flag : Bool) : Lasting (.boolean flag)

/-- A quote comes first in a quoted text. -/
theorem exists_write (cs : List Char) :
    ∃ mark rest, (mark = '"' ∨ mark = '\'') ∧ Quoted.write cs = mark :: rest := by
  rw [Quoted.write]
  split
  · exact ⟨_, _, .inl rfl, rfl⟩
  · exact ⟨_, _, .inr rfl, rfl⟩
  · exact ⟨_, _, .inl rfl, rfl⟩
  · exact ⟨_, _, .inr rfl, rfl⟩

theorem valueWithin?_quoted (depth : Nat) {mark : Char} (hmark : mark = '"' ∨ mark = '\'')
    (rest : List Char) :
    valueWithin? depth (mark :: rest) =
      (Quoted.read? (mark :: rest)).map fun (text, rest) =>
        (.scalar (.string (String.ofList text)), rest) := by
  rcases hmark with rfl | rfl
  · cases depth <;> rfl
  · cases depth <;> rfl

theorem valueWithin?_word (depth : Nat) {c : Char} (hc : isWordChar c = true) (rest : List Char) :
    valueWithin? depth (c :: rest) =
      (word? (takeWord (c :: rest)).1).map fun scalar =>
        (.scalar scalar, (takeWord (c :: rest)).2) := by
  rw [valueWithin?.eq_def]
  split
  case h_7 => rfl
  all_goals
    next heq =>
    obtain ⟨rfl, -⟩ := List.cons.inj heq
    exact absurd hc (by decide)

theorem isWordChar_of_isDigit {c : Char} (h : c.isDigit = true) : isWordChar c = true := by
  simp [isWordChar, isKeyChar, Char.isAlphanum, h]

/-- An integer is written as one word. -/
theorem isWordChar_of_mem_toString {n : Int} {c : Char} (h : c ∈ (toString n).toList) :
    isWordChar c = true := by
  have hdigit (h : c ∈ Nat.toDigits 10 n.natAbs) : isWordChar c = true :=
    isWordChar_of_isDigit (AllDigits.toDigits _ c h)
  rw [Numeral.toList_toString] at h
  split at h
  · rcases List.mem_cons.mp h with rfl | h
    · rfl
    · exact hdigit h
  · exact hdigit h

/-- An integer is written with one character at least. -/
theorem toList_toString_ne_nil (n : Int) : (toString n).toList ≠ [] := by
  rw [Numeral.toList_toString]
  split
  · exact List.cons_ne_nil _ _
  · exact Nat.toDigits_ne_nil

/-- **Values are read again**, up to the end of their line. -/
theorem value?_write {scalar : Scalar} (h : scalar.Lasting) (rest : List Char) :
    value? (scalar.write ++ '\n' :: rest) = some (.scalar scalar, '\n' :: rest) := by
  have hword {cs : List Char} (hempty : cs ≠ []) (hcs : ∀ c ∈ cs, isWordChar c = true)
      (hread : word? cs = some scalar) :
      value? (cs ++ '\n' :: rest) = some (.scalar scalar, '\n' :: rest) := by
    obtain ⟨c, more, rfl⟩ := List.exists_cons_of_ne_nil hempty
    have htake := takeWord_line hcs rest
    rw [List.cons_append] at htake
    rw [List.cons_append, value?, valueWithin?_word _ (hcs c List.mem_cons_self), htake, hread]
    rfl
  cases h with
  | string text =>
    have hread : Quoted.read? (Quoted.write text.toList ++ '\n' :: rest) =
        some (text.toList, '\n' :: rest) := Quoted.read?_write _ (by simp) (by simp)
    obtain ⟨mark, body, hmark, hbody⟩ := exists_write text.toList
    rw [Scalar.write, value?]
    rw [hbody, List.cons_append] at hread ⊢
    rw [valueWithin?_quoted _ hmark, hread]
    simp
  | @integer n hfits =>
    exact hword (toList_toString_ne_nil n) (fun c hc => isWordChar_of_mem_toString hc)
      (word?_integer hfits)
  | boolean flag =>
    cases flag with
    | false => exact hword (by decide) (List.all_eq_true.mp rfl) rfl
    | true => exact hword (by decide) (List.all_eq_true.mp rfl) rfl

/-! ## Lines -/

/-- A name that can be written without quotes. -/
def IsBare (name : String) : Prop := name.toList ≠ [] ∧ ∀ c ∈ name.toList, isKeyChar c = true

instance (name : String) : Decidable (IsBare name) :=
  decidable_of_iff (name.toList ≠ [] ∧ name.toList.all isKeyChar = true)
    (and_congr_right fun _ => List.all_eq_true)

variable {name : String} {rest : List Char}

/-- A bare name begins with a character of names. -/
theorem IsBare.exists_cons (h : IsBare name) :
    ∃ c more, name.toList = c :: more ∧ isKeyChar c = true := by
  obtain ⟨c, more, hname⟩ := List.exists_cons_of_ne_nil h.1
  exact ⟨c, more, hname, h.2 c (hname ▸ List.mem_cons_self)⟩

theorem dropSpace_of_ne {c : Char} (h : c ≠ ' ' ∧ c ≠ '\t') (rest : List Char) :
    Quoted.dropSpace (c :: rest) = c :: rest := by
  simp [Quoted.dropSpace, h]

/-- A character of names is none of the others. -/
theorem isKeyChar_ne {c mark : Char} (h : isKeyChar c = true) (hmark : isKeyChar mark = false) :
    c ≠ mark := by
  rintro rfl
  rw [hmark] at h
  cases h

/-- A name without quotes ends where a character follows that it cannot have. -/
theorem key?_bare (h : IsBare name) {c : Char} (hc : isKeyChar c = false) (rest : List Char) :
    key? (name.toList ++ c :: rest) = some (name, c :: rest) := by
  obtain ⟨first, more, hname, hfirst⟩ := h.exists_cons
  have htake : (name.toList ++ c :: rest).takeWhile isKeyChar = name.toList := by
    rw [List.takeWhile_append_of_pos h.2]
    simp [hc]
  rw [key?.eq_def]
  split
  · next heq =>
    rw [hname] at heq
    exact absurd (List.cons.inj heq).1 (isKeyChar_ne hfirst rfl)
  · next heq =>
    rw [hname] at heq
    exact absurd (List.cons.inj heq).1 (isKeyChar_ne hfirst rfl)
  · rw [htake]
    simp [h.1]

/-- A name that no point follows is the whole path. -/
theorem path?_bare (h : IsBare name) {c d : Char} {more : List Char} (hc : isKeyChar c = false)
    (hrest : Quoted.dropSpace (c :: rest) = d :: more) (hd : d ≠ '.') :
    path? (name.toList ++ c :: rest) = some ([name], d :: more) := by
  obtain ⟨first, others, hname, hfirst⟩ := h.exists_cons
  have hspace : Quoted.dropSpace (name.toList ++ c :: rest) = name.toList ++ c :: rest := by
    rw [hname, List.cons_append]
    exact dropSpace_of_ne ⟨isKeyChar_ne hfirst rfl, isKeyChar_ne hfirst rfl⟩ _
  have hnames : names? (name.toList ++ c :: rest) = some ([name], d :: more) := by
    rw [names?, hspace, key?_bare h hc]
    dsimp only
    rw [hrest]
    split
    · next heq => exact absurd (List.cons.inj heq).1 hd
    · rfl
  rw [path?, hnames]
  rfl

/-- The line of an entry. -/
def entryLine (entry : String × Scalar) : List Char :=
  entry.1.toList ++ ' ' :: '=' :: ' ' :: (entry.2.write ++ ['\n'])

/-- The line of an entry begins with its name. -/
theorem exists_entryLine (h : IsBare name) (scalar : Scalar) :
    ∃ c line, entryLine (name, scalar) = c :: line ∧ isKeyChar c = true := by
  obtain ⟨c, more, hname, hc⟩ := h.exists_cons
  exact ⟨c, more ++ ' ' :: '=' :: ' ' :: (scalar.write ++ ['\n']), by simp [entryLine, hname], hc⟩

theorem afterLine?_break (rest : List Char) : afterLine? ('\n' :: rest) = some rest := rfl

/-- A header is read up to the end of its line. -/
theorem statement?_header (h : IsBare name) (rest : List Char) :
    statement? ('[' :: (name.toList ++ ']' :: '\n' :: rest)) = some (.header [name], rest) := by
  have hpath : path? (name.toList ++ ']' :: '\n' :: rest) = some ([name], ']' :: '\n' :: rest) :=
    path?_bare h rfl rfl (by decide)
  rw [statement?, hpath]
  simp [afterLine?_break]

/-- No white space stands before a value. -/
theorem dropSpace_write {scalar : Scalar} (h : scalar.Lasting) (rest : List Char) :
    Quoted.dropSpace (scalar.write ++ rest) = scalar.write ++ rest := by
  -- no value begins with a space or a tab: a text begins with a quote, the others with a word
  cases h with
  | string text =>
    obtain ⟨mark, body, hmark, hbody⟩ := exists_write text.toList
    rw [Scalar.write, hbody]
    refine dropSpace_of_ne ?_ _
    rcases hmark with rfl | rfl
    · decide
    · decide
  | @integer n _ =>
    obtain ⟨c, more, hcons⟩ := List.exists_cons_of_ne_nil (toList_toString_ne_nil n)
    have hc : isWordChar c = true :=
      isWordChar_of_mem_toString (n := n) (hcons ▸ List.mem_cons_self)
    rw [Scalar.write, hcons]
    refine dropSpace_of_ne ⟨?_, ?_⟩ _
    · rintro rfl
      cases hc
    · rintro rfl
      cases hc
  | boolean flag =>
    cases flag with
    | false => rfl
    | true => rfl

/-- An entry with a bare name is read up to the end of its line. -/
theorem statement?_entry {scalar : Scalar} (h : IsBare name) (hscalar : scalar.Lasting)
    (rest : List Char) :
    statement? (entryLine (name, scalar) ++ rest) =
      some (.entry [name] (.scalar scalar), rest) := by
  have hline : entryLine (name, scalar) ++ rest =
      name.toList ++ ' ' :: ('=' :: ' ' :: (scalar.write ++ '\n' :: rest)) := by
    simp [entryLine]
  have hpath : path? (entryLine (name, scalar) ++ rest) =
      some ([name], '=' :: ' ' :: (scalar.write ++ '\n' :: rest)) := by
    rw [hline]
    exact path?_bare h rfl rfl (by decide)
  have hequals : afterEquals? ('=' :: ' ' :: (scalar.write ++ '\n' :: rest)) =
      some (scalar.write ++ '\n' :: rest) := congrArg some (dropSpace_write hscalar _)
  obtain ⟨first, more, hcons, hfirst⟩ := exists_entryLine h scalar
  unfold statement?
  split
  · next heq =>
    rw [hcons] at heq
    exact absurd (List.cons.inj heq).1 (isKeyChar_ne hfirst rfl)
  · rw [hpath, Option.bind_some]
    dsimp only
    rw [hequals, Option.bind_some, value?_write hscalar]
    rfl

/-- A statement is read where it stands first, though an empty line may stand before it. -/
theorem statements?_line {gap line : List Char} {first : Statement} {c : Char}
    (hgap : gap = [] ∨ gap = ['\n']) (hc : isKeyChar c = true ∨ c = '[')
    (h : statement? (c :: line) = some (first, rest)) (hrest : rest.length ≤ line.length) :
    statements? (gap ++ c :: line) = (statements? rest).map (first :: ·) := by
  have hne {mark : Char} (hkey : isKeyChar mark = false) (hbracket : '[' ≠ mark) : c ≠ mark := by
    rcases hc with hc | rfl
    · exact isKeyChar_ne hc hkey
    · exact hbracket
  -- no gap starts with a character of a name or with a bracket
  have hkept : dropGaps false (c :: line) = c :: line := by
    rw [dropGaps.eq_def]
    split
    · next heq => cases heq
    · next heq => exact absurd (List.cons.inj heq).1 (hne rfl (by decide))
    · next d more _ heq =>
      obtain ⟨rfl, rfl⟩ := List.cons.inj heq
      rw [if_neg (hne rfl (by decide)), if_neg Bool.false_ne_true,
        if_neg (not_or.mpr ⟨hne rfl (by decide), hne rfl (by decide)⟩),
        if_neg (hne rfl (by decide))]
  have hdrop : dropGaps false (gap ++ c :: line) = c :: line := by
    rcases hgap with rfl | rfl
    · exact hkept
    · rw [List.singleton_append, dropGaps, if_pos rfl, hkept]
      nofun
  have hlength : rest.length < (gap ++ c :: line).length := by
    rw [List.length_append, List.length_cons]
    omega
  rw [statements?, hdrop]
  dsimp only
  rw [h]
  dsimp only
  rw [if_pos hlength]

/-! ## Documents -/

/-- What the line of an entry states. -/
def entryStatement (entry : String × Scalar) : Statement := .entry [entry.1] (.scalar entry.2)

/-- The entries of a section as those of a table. -/
def tableEntries (entries : List (String × Scalar)) : Entries :=
  entries.map fun entry => (entry.1, .scalar entry.2)

namespace Section

/-- What the lines of a section state. -/
def statements (s : Section) : List Statement :=
  .header [s.name] :: s.entries.map entryStatement

/-- The table that a section states, with its name. -/
def toEntry (s : Section) : String × Toml := (s.name, .table .stated (tableEntries s.entries))

/-- Sections that are read as they are written. -/
structure Lasting (s : Section) : Prop where
  /-- the section's name needs no quotes -/
  name : IsBare s.name
  /-- neither do the names of entries, and their values are read again -/
  entries : ∀ entry ∈ s.entries, IsBare entry.1 ∧ entry.2.Lasting
  /-- no entry's name is repeated -/
  nodup : (s.entries.map Prod.fst).Nodup

end Section

/-- A section is its header and the lines of its entries. -/
theorem Section.write_eq (s : Section) :
    s.write = '[' :: (s.name.toList ++ ']' :: '\n' :: s.entries.flatMap entryLine) := rfl

/-- Lines of entries are read one after the other. -/
theorem statements?_entries {entries : List (String × Scalar)}
    (h : ∀ entry ∈ entries, IsBare entry.1 ∧ entry.2.Lasting) (rest : List Char) :
    statements? (entries.flatMap entryLine ++ rest) =
      (statements? rest).map (entries.map entryStatement ++ ·) := by
  induction entries with
  | nil => simp
  | cons entry others ih =>
    obtain ⟨hname, hscalar⟩ := h entry List.mem_cons_self
    obtain ⟨c, line, hline, hc⟩ := exists_entryLine hname entry.2
    have hstatement := statement?_entry hname hscalar (others.flatMap entryLine ++ rest)
    rw [List.flatMap_cons, List.append_assoc]
    rw [hline, List.cons_append] at hstatement ⊢
    have hread := statements?_line (.inl rfl) (.inl hc) hstatement (by simp)
    rw [List.nil_append] at hread
    rw [hread, ih fun entry hentry => h entry (List.mem_cons_of_mem _ hentry), Option.map_map]
    rfl

/-- A section is read as its header and its entries, behind an empty line or none. -/
theorem statements?_section {s : Section} (h : s.Lasting) {gap : List Char}
    (hgap : gap = [] ∨ gap = ['\n']) (rest : List Char) :
    statements? (gap ++ (s.write ++ rest)) = (statements? rest).map (s.statements ++ ·) := by
  have hheader := statement?_header h.name (s.entries.flatMap entryLine ++ rest)
  have hwrite : s.write ++ rest =
      '[' :: (s.name.toList ++ ']' :: '\n' :: (s.entries.flatMap entryLine ++ rest)) := by
    simp [Section.write_eq]
  have hlength {front more : List Char} : more.length ≤ (front ++ ']' :: '\n' :: more).length := by
    rw [List.length_append, List.length_cons, List.length_cons]
    omega
  rw [hwrite, statements?_line hgap (.inr rfl) hheader hlength, statements?_entries h.entries,
    Option.map_map]
  rfl

theorem statements?_nil : statements? [] = some [] := by
  rw [statements?]
  rfl

theorem statements?_break : statements? ['\n'] = some [] := by
  rw [statements?]
  rfl

/-- **The lines of sections are read one after the other**, though an empty line may stand first. -/
theorem statements?_writeSections {sections : List Section} (h : ∀ s ∈ sections, s.Lasting)
    {gap : List Char} (hgap : gap = [] ∨ gap = ['\n']) :
    statements? (gap ++ writeSections sections) = some (sections.flatMap Section.statements) := by
  induction sections generalizing gap with
  | nil =>
    rcases hgap with rfl | rfl
    · exact statements?_nil
    · exact statements?_break
  | cons first rest ih =>
    have hfirst : first.Lasting := h first List.mem_cons_self
    have hrest := @ih (fun s hs => h s (List.mem_cons_of_mem _ hs))
    cases rest with
    | nil =>
      have hread := statements?_section hfirst hgap []
      rw [List.append_nil, statements?_nil] at hread
      rw [writeSections, hread]
      simp
    | cons next others =>
      rw [writeSections, statements?_section hfirst hgap, ← List.singleton_append,
        hrest (.inr rfl)]
      rfl

/-! ## Tables -/

variable {done : Entries} {current : List String}

/-- Entries go into the table of the header before them. -/
theorem assemble_entries {entries : List (String × Scalar)} {inner : Entries}
    (h : (Table.names inner ++ entries.map Prod.fst).Nodup) (more : List Statement) :
    assemble [name] (Table.set done name (.table .stated inner))
        (entries.map entryStatement ++ more) =
      assemble [name] (Table.set done name (.table .stated (inner ++ tableEntries entries)))
        more := by
  induction entries generalizing inner with
  | nil => simp [tableEntries]
  | cons entry others ih =>
    have hnew : entry.1 ∉ Table.names inner := fun hmem =>
      (List.nodup_append.mp h).2.2 _ hmem _ (by simp) rfl
    have hget : Table.get? inner entry.1 = none := Table.get?_eq_none_iff.mpr hnew
    have hadd : within (addEntry (.scalar entry.2) [entry.1]) [name]
        (Table.set done name (.table .stated inner)) =
        some (Table.set done name (.table .stated (inner ++ [(entry.1, .scalar entry.2)]))) := by
      have hcontains : Table.contains inner entry.1 = false := by simp [Table.contains, hget]
      rw [within, Table.get?_set, if_pos rfl]
      dsimp only
      rw [within, addEntry, hcontains, if_neg Bool.false_ne_true, Table.set_eq_append hget,
        Option.map_some, Table.set_set]
    have hrest := @ih (inner ++ [(entry.1, .scalar entry.2)]) (by simpa [Table.names] using h)
    rw [List.map_cons, List.cons_append, entryStatement, assemble, hadd, Option.bind_some, hrest]
    simp [tableEntries]

/-- The statements of a section make a table, if there is none of that name. -/
theorem assemble_section {s : Section} (h : s.Lasting) (hname : s.name ∉ Table.names done)
    (more : List Statement) :
    assemble current done (s.statements ++ more) =
      assemble [s.name] (done ++ [s.toEntry]) more := by
  have hget : Table.get? done s.name = none := Table.get?_eq_none_iff.mpr hname
  have hadd : addTable [s.name] done = some (Table.set done s.name (.table .stated [])) := by
    rw [addTable, hget]
  rw [Section.statements, List.cons_append, assemble, hadd, Option.bind_some,
    assemble_entries (by simpa [Table.names] using h.nodup), List.nil_append,
    Table.set_eq_append hget]
  rfl

/-- The statements of several sections make a table each. -/
theorem assemble_sections {sections : List Section} (h : ∀ s ∈ sections, s.Lasting)
    (hnames : (Table.names done ++ sections.map Section.name).Nodup) :
    assemble current done (sections.flatMap Section.statements) =
      some (done ++ sections.map Section.toEntry) := by
  induction sections generalizing done current with
  | nil => simp [assemble]
  | cons first rest ih =>
    have hnew : first.name ∉ Table.names done := fun hmem =>
      (List.nodup_append.mp hnames).2.2 _ hmem _ (by simp) rfl
    rw [List.flatMap_cons, assemble_section (h first List.mem_cons_self) hnew,
      ih (fun s hs => h s (List.mem_cons_of_mem _ hs))
        (by simpa [Table.names, Section.toEntry] using hnames)]
    simp

/-- There is no byte order mark before sections. -/
theorem dropMark_writeSections (sections : List Section) :
    dropMark (writeSections sections) = writeSections sections := by
  match sections with
  | [] => rfl
  | [_] => rfl
  | _ :: _ :: _ => rfl

/-- **A document of sections states the tables that it was written from.** -/
theorem parse?_writeSections {sections : List Section} (h : ∀ s ∈ sections, s.Lasting)
    (hnames : (sections.map Section.name).Nodup) :
    parse? (String.ofList (writeSections sections)) = some (sections.map Section.toEntry) := by
  have hstatements : statements? (writeSections sections) =
      some (sections.flatMap Section.statements) := statements?_writeSections h (.inl rfl)
  have hassemble : assemble [] [] (sections.flatMap Section.statements) =
      some (sections.map Section.toEntry) := @assemble_sections [] [] sections h hnames
  rw [parse?, String.toList_ofList, dropMark_writeSections, hstatements, Option.bind_some,
    hassemble]

end ThreatGraph.Toml
