import Mathlib.Data.List.Infix
import Mathlib.Data.List.TakeWhile
import ThreatGraph.Toml.Quoted

/-!
# Quoted texts are read again

Whatever way a text is quoted, reading gives the text back and stops right behind it, if no quote
follows (`Quoted.read?_write`). In double quotes a character stands as it is or as an escape, and
both are read as the character (`Quoted.Stands`). In three quotes the text may have quotes of its
own, of which at most two stand side by side, also before the closing ones. So the reader takes
nothing for the end but the end.

For each way to quote there is one lemma by induction over the text, with any rest behind the
closing quotes. For three quotes the induction also carries how many quotes stand right before,
which bounds the run that the reader may meet.
-/

namespace ThreatGraph.Toml.Quoted

/-! ## Escapes -/

/-- A hexadecimal digit is read as its value. -/
theorem hexDigit?_hexDigit : ∀ n < 16, Json.hexDigit? (hexDigit n) = some n := by decide

theorem lt_of_isPlain_eq_false {c : Char} (h : isPlain c = false) : c.toNat < 128 := by
  simp only [isPlain, Bool.or_eq_false_iff, Bool.and_eq_false_iff, decide_eq_false_iff_not, not_le,
    bne_eq_false_iff_eq] at h
  omega

theorem ne_break_of_isPlain {c : Char} (h : isPlain c = true) : c ≠ '\n' ∧ c ≠ '\r' := by
  constructor
  · rintro rfl
    cases h
  · rintro rfl
    cases h

/-- Four hexadecimal digits are read as their character. -/
theorem ofHex?_hexDigits {c : Char} (h : c.toNat < 128) :
    ofHex? ['0', '0', hexDigit (c.toNat / 16), hexDigit (c.toNat % 16)] = some c := by
  have hvalues : ['0', '0', hexDigit (c.toNat / 16), hexDigit (c.toNat % 16)].mapM
      Json.hexDigit? = some [0, 0, c.toNat / 16, c.toNat % 16] := by
    simp [hexDigit?_hexDigit (c.toNat / 16) (by omega),
      hexDigit?_hexDigit (c.toNat % 16) (by omega), show Json.hexDigit? '0' = some 0 from rfl]
  have hvalue : [0, 0, c.toNat / 16, c.toNat % 16].foldl (fun n digit => n * 16 + digit) 0 =
      c.toNat := by
    simp only [List.foldl_cons, List.foldl_nil]
    omega
  have hvalid : c.toNat.isValidChar := c.valid
  rw [ofHex?, hvalues]
  simp only [Option.bind_eq_bind, Option.bind_some, hvalue, if_pos hvalid, Char.ofNat_toNat]

/-- How a character stands in double quotes: as it is, or as a backslash and a word behind it that
names the character. No such word goes on in the next line. -/
inductive Stands (c : Char) : List Char → Prop
  | plain : isPlain c = true → c ≠ '\\' → c ≠ '"' → Stands c [c]
  | escaped {word : List Char} :
    (∀ rest, escape? (word ++ rest) = some (c, rest)) → (∀ rest, continued? (word ++ rest) = none) →
    Stands c ('\\' :: word)

/-- A character other than a quote stands for itself once it is escaped. -/
theorem stands_escape {c : Char} (hquote : c ≠ '"') : Stands c (escape c) := by
  unfold escape
  split_ifs with hbackslash hb ht hf hr hplain
  · subst hbackslash
    exact .escaped (fun _ => rfl) fun _ => rfl
  · subst hb
    exact .escaped (fun _ => rfl) fun _ => rfl
  · subst ht
    exact .escaped (fun _ => rfl) fun _ => rfl
  · subst hf
    exact .escaped (fun _ => rfl) fun _ => rfl
  · subst hr
    exact .escaped (fun _ => rfl) fun _ => rfl
  · exact .plain hplain hbackslash hquote
  · refine .escaped (fun rest => ?_) fun _ => rfl
    have hhex := ofHex?_hexDigits (lt_of_isPlain_eq_false (Bool.eq_false_iff.mpr hplain))
    simp [escape?, hhex]

theorem stands_escapeOnLine (c : Char) : Stands c (escapeOnLine c) := by
  unfold escapeOnLine
  split_ifs with hquote hbreak
  · subst hquote
    exact .escaped (fun _ => rfl) fun _ => rfl
  · subst hbreak
    exact .escaped (fun _ => rfl) fun _ => rfl
  · exact stands_escape hquote

variable {c : Char} {word read cs rest : List Char}

/-- A mark does not begin a text that begins with something else. -/
theorem isPrefixOf?_cons_of_ne {mark : Char} (h : c ≠ mark) (marks rest : List Char) :
    (mark :: marks).isPrefixOf? (c :: rest) = none := by
  simp [List.isPrefixOf?, Ne.symm h]

/-- Where a character stands, neither a quote nor a line break comes first. -/
theorem Stands.exists_cons (h : Stands c word) :
    ∃ d more, word = d :: more ∧ d ≠ '"' ∧ d ≠ '\n' ∧ d ≠ '\r' := by
  cases h with
  | plain hplain _ hquote => exact ⟨c, [], rfl, hquote, ne_break_of_isPlain hplain⟩
  | escaped => exact ⟨'\\', _, rfl, by decide⟩

/-! ## On one line -/

/-- What stands for a character is read as that character. -/
theorem readBasic?_stands (h : Stands c word) (read rest : List Char) :
    readBasic? read (word ++ rest) = readBasic? (c :: read) rest := by
  cases h with
  | plain hplain hbackslash hquote =>
    rw [List.singleton_append, readBasic?, if_neg hquote, if_neg hbackslash, if_pos hplain]
  | escaped hword _ =>
    rw [List.cons_append, readBasic?, if_neg (by decide), if_pos rfl]
    split
    · next hnone => cases hnone.symm.trans (hword rest)
    · next hsome =>
      obtain ⟨rfl, rfl⟩ := Prod.mk.inj (Option.some.inj (hsome.symm.trans (hword rest)))
      rfl

/-- A text that was escaped for one line is read again, up to the quote behind it. -/
theorem readBasic?_write (read cs rest : List Char) :
    readBasic? read (cs.flatMap escapeOnLine ++ '"' :: rest) = some (read.reverse ++ cs, rest) := by
  induction cs generalizing read with
  | nil => rw [List.flatMap_nil, List.nil_append, readBasic?, if_pos rfl, List.append_nil]
  | cons c more ih =>
    rw [List.flatMap_cons, List.append_assoc, readBasic?_stands (stands_escapeOnLine c), ih,
      List.reverse_cons, List.append_assoc]
    rfl

/-- A plain text in single quotes is read as it is. -/
theorem readLiteral?_write (h : ∀ c ∈ cs, isPlain c = true ∧ c ≠ '\'') (rest : List Char) :
    readLiteral? (cs ++ '\'' :: rest) = some (cs, rest) := by
  have hinside : ∀ c ∈ cs, (c != '\'' && isPlain c) = true := by
    intro c hc
    simp [h c hc]
  simp [readLiteral?, List.takeWhile_append_of_pos hinside, List.dropWhile_append_of_pos hinside]

/-! ## On several lines -/

/-- What no other mark follows is read up to the closing marks, though marks stand before them. -/
theorem close_replicate {mark : Char} {k : Nat} (hk : k ≤ 2) (hrest : rest.head? ≠ some mark)
    (read : List Char) :
    close mark read (List.replicate k mark ++ rest) =
      (read.reverse ++ List.replicate k mark, rest) := by
  have hmarks : ((List.replicate k mark ++ rest).takeWhile fun c => c == mark).length = k := by
    have hend : (rest.takeWhile fun c => c == mark) = [] := by
      cases rest with
      | nil => rfl
      | cons c more =>
        have hc : c ≠ mark := fun heq => hrest (congrArg some heq)
        simp [hc]
    rw [List.takeWhile_append_of_pos (by simp), hend]
    simp
  rw [close, hmarks, Nat.min_eq_left hk]
  simp

/-- Three marks are seen where marks stand before the closing ones. -/
theorem isPrefixOf?_marks (mark : Char) (k : Nat) (rest : List Char) :
    [mark, mark, mark].isPrefixOf? (List.replicate k mark ++ mark :: mark :: mark :: rest) =
      some (List.replicate k mark ++ rest) := by
  have hmarks : [mark, mark, mark] ++ List.replicate k mark =
      List.replicate k mark ++ [mark, mark, mark] := by
    change List.replicate 3 mark ++ _ = _ ++ List.replicate 3 mark
    rw [List.replicate_append_replicate, List.replicate_append_replicate, Nat.add_comm]
  rw [List.isPrefixOf?_eq_some_iff_append_eq, ← List.append_assoc, hmarks, List.append_assoc]
  rfl

/-! ### In double quotes -/

theorem readBasicLines?_closing {text after : List Char}
    (h : ['"', '"', '"'].isPrefixOf? text = some after) (read : List Char) :
    readBasicLines? read text = some (close '"' read after) := by
  cases text with
  | nil => cases h
  | cons c rest => rw [readBasicLines?, h]

theorem readBasicLines?_quote (h : ['"', '"'].isPrefixOf? rest = none) (read : List Char) :
    readBasicLines? read ('"' :: rest) = readBasicLines? ('"' :: read) rest := by
  have hahead : ['"', '"', '"'].isPrefixOf? ('"' :: rest) = none := by
    rw [List.isPrefixOf?, beq_self_eq_true, if_pos rfl, h]
  rw [readBasicLines?, hahead]
  rfl

theorem readBasicLines?_break (read rest : List Char) :
    readBasicLines? read ('\n' :: rest) = readBasicLines? ('\n' :: read) rest := by
  rw [readBasicLines?]
  rfl

theorem afterBreak?_of_isPlain (h : isPlain c = true) (rest : List Char) :
    afterBreak? (c :: rest) = none := by
  unfold afterBreak?
  split
  · next heq => exact absurd (List.cons.inj heq).1 (ne_break_of_isPlain h).1
  · next heq => exact absurd (List.cons.inj heq).1 (ne_break_of_isPlain h).2
  · rfl

/-- What stands for a character is read as that character on any line. -/
theorem readBasicLines?_stands (h : Stands c word) (read rest : List Char) :
    readBasicLines? read (word ++ rest) = readBasicLines? (c :: read) rest := by
  cases h with
  | plain hplain hbackslash hquote =>
    rw [List.singleton_append, readBasicLines?, isPrefixOf?_cons_of_ne hquote]
    dsimp only
    rw [if_neg hbackslash]
    split
    · next hsome => cases hsome.symm.trans (afterBreak?_of_isPlain hplain rest)
    · rw [if_pos hplain]
  | escaped hword hline =>
    rw [List.cons_append, readBasicLines?, isPrefixOf?_cons_of_ne (by decide)]
    dsimp only
    rw [if_pos rfl]
    split
    · next hsome => cases hsome.symm.trans (hline rest)
    · split
      · next hnone => cases hnone.symm.trans (hword rest)
      · next hsome =>
        obtain ⟨rfl, rfl⟩ := Prod.mk.inj (Option.some.inj (hsome.symm.trans (hword rest)))
        rfl

/-- A text in three quotes does not begin with a quote if it has a character that is no quote, or
if its quotes are escaped. -/
theorem exists_escapeLines (run : Nat) (h : c = '"' → ¬ run < 2) (more : List Char) :
    ∃ d tail, escapeLines run (c :: more) = d :: tail ∧ d ≠ '"' := by
  rw [escapeLines]
  split_ifs with hquote hrun hbreak
  · exact absurd hrun (h hquote)
  · exact ⟨'\\', _, rfl, by decide⟩
  · exact ⟨'\n', _, rfl, by decide⟩
  · obtain ⟨d, tail, hword, hd, -⟩ := (stands_escape hquote).exists_cons
    exact ⟨d, tail ++ escapeLines 0 more, by rw [hword]; rfl, hd⟩

/-- A quote is not the first of three, unless all that follows it in the text are quotes. -/
theorem isPrefixOf?_escapeLines {run : Nat} {more : List Char}
    (h : ¬ (run = 0 ∧ c = '"' ∧ more = [])) (rest : List Char) :
    ['"', '"'].isPrefixOf? (escapeLines (run + 1) (c :: more) ++ rest) = none := by
  by_cases hquote : c = '"' ∧ run = 0
  · obtain ⟨rfl, rfl⟩ := hquote
    cases more with
    | nil => exact absurd ⟨rfl, rfl, rfl⟩ h
    | cons d tail =>
      obtain ⟨e, others, heq, he⟩ := exists_escapeLines (c := d) 2 (fun _ => by decide) tail
      rw [escapeLines, if_pos rfl, if_pos (by decide), heq]
      exact isPrefixOf?_cons_of_ne he [] _
  · obtain ⟨d, tail, heq, hd⟩ := exists_escapeLines (c := c) (run + 1)
      (fun hc hlt => hquote ⟨hc, by omega⟩) more
    rw [heq]
    exact isPrefixOf?_cons_of_ne hd _ _

/-- A text in three double quotes, of which `run` quotes have just been read, is read to its end. -/
theorem readBasicLines?_write {run : Nat} (hrest : rest.head? ≠ some '"') (read cs : List Char) :
    readBasicLines? read (escapeLines run cs ++ '"' :: '"' :: '"' :: rest) =
      some (read.reverse ++ cs, rest) := by
  -- up to two quotes before the closing ones belong to the text
  have hclosed {k : Nat} (hk : k ≤ 2) (read : List Char) :
      readBasicLines? read (List.replicate k '"' ++ '"' :: '"' :: '"' :: rest) =
        some (read.reverse ++ List.replicate k '"', rest) := by
    rw [readBasicLines?_closing (isPrefixOf?_marks '"' k rest), close_replicate hk hrest]
  induction cs generalizing run read with
  | nil => exact hclosed (Nat.zero_le 2) read
  | cons c more ih =>
    have hread : (c :: read).reverse ++ more = read.reverse ++ c :: more := by simp
    rw [escapeLines]
    split_ifs with hquote hrun hbreak
    · subst hquote
      cases more with
      | nil => exact hclosed (k := 1) (by decide) read
      | cons d tail =>
        by_cases hend : run = 0 ∧ d = '"' ∧ tail = []
        · obtain ⟨rfl, rfl, rfl⟩ := hend
          exact hclosed (k := 2) (by decide) read
        · rw [List.cons_append, readBasicLines?_quote (isPrefixOf?_escapeLines hend _), ih, hread]
    · -- after two quotes the next one is escaped, so no three of them stand together
      subst hquote
      have hstands : Stands '"' ['\\', '"'] := .escaped (fun _ => rfl) fun _ => rfl
      exact (readBasicLines?_stands hstands read _).trans (hread ▸ ih _)
    · subst hbreak
      rw [List.cons_append, readBasicLines?_break, ih, hread]
    · rw [List.append_assoc, readBasicLines?_stands (stands_escape hquote), ih, hread]

/-! ### In single quotes -/

theorem readLiteralLines?_closing {text after : List Char}
    (h : ['\'', '\'', '\''].isPrefixOf? text = some after) (read : List Char) :
    readLiteralLines? read text = some (close '\'' read after) := by
  cases text with
  | nil => cases h
  | cons c rest => rw [readLiteralLines?, h]

/-- A character that stands in single quotes as it is, and is not the first of three quotes. -/
theorem readLiteralLines?_cons (hplain : c = '\n' ∨ isPlain c = true)
    (h : ['\'', '\'', '\''].isPrefixOf? (c :: rest) = none) (read : List Char) :
    readLiteralLines? read (c :: rest) = readLiteralLines? (c :: read) rest := by
  rw [readLiteralLines?, h]
  dsimp only
  rcases hplain with rfl | hplain
  · rfl
  · split
    · next hsome => cases hsome.symm.trans (afterBreak?_of_isPlain hplain rest)
    · rw [if_pos hplain]

/-- The longest run is no shorter than what stands before the text. -/
theorem le_longestRun (mark : Char) (run : Nat) (cs : List Char) :
    run ≤ longestRun mark run cs := by
  induction cs generalizing run with
  | nil => exact Nat.le_refl run
  | cons c rest ih =>
    rw [longestRun]
    split
    · exact (Nat.le_succ run).trans (ih (run + 1))
    · exact Nat.le_max_left _ _

/-- A quote is not the first of three, unless all that follows it in the text are quotes. -/
theorem isPrefixOf?_of_longestRun {run : Nat} (hrun : longestRun '\'' (run + 1) cs ≤ 2)
    (h : ¬ (cs = [] ∨ cs = ['\''])) (rest : List Char) :
    ['\'', '\'', '\''].isPrefixOf? ('\'' :: (cs ++ rest)) = none := by
  match cs, hrun, h with
  | [], _, h => exact absurd (.inl rfl) h
  | [c], _, h =>
    have hc : '\'' ≠ c := fun heq => h (.inr (by rw [← heq]))
    simp [List.isPrefixOf?, hc]
  | c :: d :: more, hrun, _ =>
    by_cases hboth : c = '\'' ∧ d = '\''
    · obtain ⟨rfl, rfl⟩ := hboth
      have hle := le_longestRun '\'' (run + 1 + 1 + 1) more
      simp only [longestRun, if_true] at hrun
      omega
    · simp only [List.cons_append, List.isPrefixOf?, beq_iff_eq]
      grind

/-- A text in three single quotes, before which `run` quotes have just been read, is read to its
end. -/
theorem readLiteralLines?_write {run : Nat} (hplain : ∀ c ∈ cs, c = '\n' ∨ isPlain c = true)
    (hrun : longestRun '\'' run cs ≤ 2) (hrest : rest.head? ≠ some '\'') (read : List Char) :
    readLiteralLines? read (cs ++ '\'' :: '\'' :: '\'' :: rest) =
      some (read.reverse ++ cs, rest) := by
  -- up to two quotes before the closing ones belong to the text
  have hclosed {k : Nat} (hk : k ≤ 2) (read : List Char) :
      readLiteralLines? read (List.replicate k '\'' ++ '\'' :: '\'' :: '\'' :: rest) =
        some (read.reverse ++ List.replicate k '\'', rest) := by
    rw [readLiteralLines?_closing (isPrefixOf?_marks '\'' k rest), close_replicate hk hrest]
  induction cs generalizing run read with
  | nil => exact hclosed (Nat.zero_le 2) read
  | cons c more ih =>
    have hread : (c :: read).reverse ++ more = read.reverse ++ c :: more := by simp
    have hmore : ∀ c ∈ more, c = '\n' ∨ isPlain c = true := fun c hc =>
      hplain c (List.mem_cons_of_mem _ hc)
    rw [longestRun] at hrun
    split at hrun
    · next hquote =>
      subst hquote
      have hquote : '\'' = '\n' ∨ isPlain '\'' = true := .inr rfl
      -- either the text ends in this quote or the next, or no three quotes stand here
      by_cases hend : more = [] ∨ more = ['\'']
      · rcases hend with rfl | rfl
        · exact hclosed (k := 1) (by decide) read
        · exact hclosed (k := 2) (by decide) read
      · have hahead := isPrefixOf?_of_longestRun hrun hend
        rw [List.cons_append, readLiteralLines?_cons hquote (hahead _), ih hmore hrun, hread]
    · next hquote =>
      rw [List.cons_append, readLiteralLines?_cons (hplain c List.mem_cons_self)
        (isPrefixOf?_cons_of_ne hquote _ _), ih hmore ((Nat.le_max_right _ _).trans hrun), hread]

/-! ## Any way to quote a text -/

/-- A text that needs no escapes has breaks and plain characters only. -/
theorem isPlain_of_any (h : cs.any needsEscape = false) :
    ∀ c ∈ cs, c = '\n' ∨ isPlain c = true := by
  intro c hc
  have hneeds := List.any_eq_false.mp h c hc
  simp only [needsEscape, Bool.and_eq_true, bne_iff_ne, Bool.not_eq_true', not_and,
    Bool.not_eq_false] at hneeds
  exact or_iff_not_imp_left.mpr hneeds

/-- A mark that does not run at all is not there. -/
theorem not_mem_of_longestRun {mark : Char} (h : longestRun mark 0 cs = 0) : mark ∉ cs := by
  induction cs with
  | nil => exact List.not_mem_nil
  | cons c rest ih =>
    rw [longestRun] at h
    split at h
    · have hle := le_longestRun mark (0 + 1) rest
      omega
    · next hne =>
      intro hmem
      rcases List.mem_cons.mp hmem with heq | hrest
      · exact hne heq.symm
      · exact ih (by omega) hrest

/-- What is written in single quotes can stand there. -/
theorem plain_of_styleOf_literal (h : styleOf cs = .literal) :
    ∀ c ∈ cs, isPlain c = true ∧ c ≠ '\'' := by
  simp only [styleOf] at h
  split at h
  · cases h
  split at h
  · next hliteral =>
    simp only [Bool.and_eq_true, Bool.not_eq_true', beq_iff_eq] at hliteral
    obtain ⟨⟨hescapes, hlines⟩, hsingles⟩ := hliteral
    intro c hc
    have hbreak : c ≠ '\n' := by
      rintro rfl
      simp [hc] at hlines
    refine ⟨(isPlain_of_any hescapes c hc).resolve_left hbreak, ?_⟩
    rintro rfl
    exact not_mem_of_longestRun hsingles hc
  · split_ifs at h

/-- A text that is written literally on several lines needs no escapes and has no long run of
quotes. -/
theorem plain_of_styleOf_literalLines (h : styleOf cs = .literalLines) :
    (∀ c ∈ cs, c = '\n' ∨ isPlain c = true) ∧ longestRun '\'' 0 cs ≤ 2 := by
  simp only [styleOf] at h
  split_ifs at h with _ _ _ hliteral
  simp only [Bool.and_eq_true, Bool.not_eq_true', decide_eq_true_eq] at hliteral
  exact ⟨isPlain_of_any hliteral.1, hliteral.2⟩

/-- The line break that stands behind the opening quotes is dropped, and no other. -/
theorem dropOpening_opening (cs : List Char) {body : List Char}
    (h : '\n' ∉ cs → ∀ c ∈ body.head?, c ≠ '\n' ∧ c ≠ '\r') :
    dropOpening (opening cs ++ body) = body := by
  rw [opening]
  split
  · rfl
  · next hlines =>
    rw [List.nil_append, dropOpening]
    have hnone : afterBreak? body = none := by
      unfold afterBreak?
      split
      · exact absurd rfl (h (by simpa using hlines) '\n' rfl).1
      · exact absurd rfl (h (by simpa using hlines) '\r' rfl).2
      · rfl
    rw [hnone]
    rfl

/-- The first character of a text in three quotes is none that would be dropped. -/
theorem head?_escapeLines (h : '\n' ∉ cs) (rest : List Char) :
    ∀ c ∈ (escapeLines 0 cs ++ '"' :: rest).head?, c ≠ '\n' ∧ c ≠ '\r' := by
  intro d hd
  cases cs with
  | nil =>
    obtain rfl : '"' = d := Option.some.inj hd
    decide
  | cons c more =>
    obtain ⟨hbreak, -⟩ := List.ne_and_not_mem_of_not_mem_cons h
    by_cases hquote : c = '"'
    · subst hquote
      obtain rfl : '"' = d := Option.some.inj hd
      decide
    · obtain ⟨e, tail, hword, -, he⟩ := (stands_escape hquote).exists_cons
      rw [escapeLines, if_neg hquote, if_neg hbreak.symm, hword] at hd
      obtain rfl : e = d := Option.some.inj hd
      exact he

/-- One mark that no two others follow opens a text on one line. -/
theorem read?_double (h : ['"', '"'].isPrefixOf? rest = none) :
    read? ('"' :: rest) = readBasic? [] rest := by
  cases rest with
  | nil => rfl
  | cons c more =>
    rw [read?.eq_def]
    split
    · next heq =>
      obtain ⟨rfl, rfl⟩ := List.cons.inj (List.cons.inj heq).2
      cases h
    · next heq => rw [(List.cons.inj heq).2]
    · next heq => cases (List.cons.inj heq).1
    · next heq => cases (List.cons.inj heq).1
    · next _ hnone _ _ => exact absurd rfl (hnone _)

/-- A single quote without two others opens a text on one line. -/
theorem read?_single (h : ['\'', '\''].isPrefixOf? rest = none) :
    read? ('\'' :: rest) = readLiteral? rest := by
  cases rest with
  | nil => rfl
  | cons c more =>
    rw [read?.eq_def]
    split
    · next heq => cases (List.cons.inj heq).1
    · next heq => cases (List.cons.inj heq).1
    · next heq =>
      obtain ⟨rfl, rfl⟩ := List.cons.inj (List.cons.inj heq).2
      cases h
    · next heq => rw [(List.cons.inj heq).2]
    · next _ hnone => exact absurd rfl (hnone _)

/-- An empty text has two marks only, if none follows. -/
theorem isPrefixOf?_closing {mark : Char} (h : rest.head? ≠ some mark) :
    [mark, mark].isPrefixOf? (mark :: rest) = none := by
  cases rest with
  | nil => simp [List.isPrefixOf?]
  | cons c more =>
    have hc : c ≠ mark := fun heq => h (congrArg some heq)
    simp [List.isPrefixOf?, Ne.symm hc]

/-- **Quoted texts are read again**, up to the closing quote, if no quote follows. -/
theorem read?_write (cs : List Char) (hdouble : rest.head? ≠ some '"')
    (hsingle : rest.head? ≠ some '\'') : read? (write cs ++ rest) = some (cs, rest) := by
  rw [write]
  cases hstyle : styleOf cs with
  | basic =>
    -- two more quotes would make this the opening of a text over several lines
    have hahead : ['"', '"'].isPrefixOf? (cs.flatMap escapeOnLine ++ '"' :: rest) = none := by
      cases cs with
      | nil => exact isPrefixOf?_closing hdouble
      | cons c more =>
        obtain ⟨d, tail, hword, hd, -⟩ := (stands_escapeOnLine c).exists_cons
        rw [List.flatMap_cons, hword]
        exact isPrefixOf?_cons_of_ne hd _ _
    simp only [List.cons_append, List.append_assoc, List.nil_append]
    rw [read?_double hahead, readBasic?_write]
    rfl
  | literal =>
    have hplain := plain_of_styleOf_literal hstyle
    have hahead : ['\'', '\''].isPrefixOf? (cs ++ '\'' :: rest) = none := by
      cases cs with
      | nil => exact isPrefixOf?_closing hsingle
      | cons c more => exact isPrefixOf?_cons_of_ne (hplain c List.mem_cons_self).2 _ _
    simp only [List.cons_append, List.append_assoc, List.nil_append]
    rw [read?_single hahead, readLiteral?_write hplain]
  | basicLines =>
    have hopening := dropOpening_opening cs fun h => head?_escapeLines h ('"' :: '"' :: rest)
    simp only [List.cons_append, List.append_assoc, List.nil_append]
    rw [read?, hopening]
    exact readBasicLines?_write hdouble [] cs
  | literalLines =>
    obtain ⟨hplain, hrun⟩ := plain_of_styleOf_literalLines hstyle
    -- a break right after the opening does not count, so a text with breaks is opened by one
    have hhead : '\n' ∉ cs → ∀ c ∈ (cs ++ '\'' :: '\'' :: '\'' :: rest).head?,
        c ≠ '\n' ∧ c ≠ '\r' := by
      intro hlines d hd
      cases cs with
      | nil =>
        obtain rfl : '\'' = d := Option.some.inj hd
        decide
      | cons c more =>
        obtain rfl : c = d := Option.some.inj hd
        refine ne_break_of_isPlain ((hplain c List.mem_cons_self).resolve_left ?_)
        rintro rfl
        exact hlines List.mem_cons_self
    simp only [List.cons_append, List.append_assoc, List.nil_append]
    rw [read?, dropOpening_opening cs hhead]
    exact readLiteralLines?_write hplain hrun hsingle []

end ThreatGraph.Toml.Quoted
