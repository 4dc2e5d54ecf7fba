import ThreatGraph.Loading.Script
import ThreatGraph.Proofs.Batching
import ThreatGraph.Proofs.Legibility

/-!
# Scripts can be read back

What a stream took, batch by batch, is what the script says and what its counts count; batches that
it refused leave no trace. The numbers of the batches have no gaps, since a number is used up only
when its batch is taken.

Literals may hold any text, so that of a batch may hold what looks like the end of a statement or
the head of the next batch. The batches can be told from the text all the same: a head says how
many statements follow, and each of them can be read in one way only, up to the empty line behind
it (`legible_entry`). So two runs that leave the same text have had the same batches taken
(`Script.writer_faithful`).
-/

namespace ThreatGraph

/-! ## Runs of a store -/

/-- The store gives the answers of the log to its batches, one after the other, and its state goes
from one to the other. -/
inductive Store.Runs {σ : Type} (store : Store σ) : σ → List Call → σ → Prop where
  /-- nothing is sent -/
  | nil (s : σ) : Runs store s [] s
  /-- a batch is sent, and then others -/
  | cons {batch : List String} {answer : Except LoadingError Unit} {s u v : σ} {log : List Call} :
    store batch s = (answer, u) → Runs store u log v → Runs store s (⟨batch, answer⟩ :: log) v

/-- The batches that were taken. -/
def takenBatches (log : List Call) : List (List String) := (log.filter Call.taken).map Call.batch

theorem Store.Runs.concat {σ : Type} {store : Store σ} {s u v : σ} {log : List Call}
    (h : store.Runs s log u) {batch : List String} {answer : Except LoadingError Unit}
    (hcall : store batch u = (answer, v)) : store.Runs s (log ++ [⟨batch, answer⟩]) v := by
  induction h with
  | nil => exact .cons hcall (.nil v)
  | cons hfirst _ ih => exact .cons hfirst (ih hcall)

namespace Loader

/-- What a loader sends to a store is a run of it, and the statements in the batches that were
taken are as many as are summed up. -/
theorem load_runs {σ : Type} (store : Store σ) (size : Nat) (texts : List String) (s : σ) :
    ∃ log, store.Runs s log (load store (ofSize size) texts s).2 ∧
      (takenBatches log).flatten.length = (load store (ofSize size) texts s).1.inserted := by
  let Logged (state : σ × List Call) : Prop := store.Runs s state.2 state.1
  have hcall : ∀ batch state, Logged state → Logged (store.recorded batch state).2 :=
    fun batch state h => h.concat rfl
  obtain ⟨-, hbounded, -⟩ := batchesOf_spec (ofSize size).batchSize_pos texts
  obtain ⟨log, hrun, haccounts, -, -⟩ := loadBatches_accounts store hbounded s []
  refine ⟨log, ?_, ?_⟩
  · have hlogged := loadBatches_preserves hcall (batchesOf (ofSize size).batchSize texts)
      (s := (s, [])) (Store.Runs.nil s)
    rw [hrun] at hlogged
    exact hlogged
  · rw [takenBatches, ← List.flatMap_def, ← haccounts.inserted]
    exact (Nat.zero_add _).symm

end Loader

/-! ## What is on the stream -/

namespace Script

variable {σ : Type} {stream : TextStream σ}

/-- The texts of batches whose numbers go on from `before`. -/
def textFrom (before : Nat) (batches : List (List String)) : String :=
  String.join (batches.mapIdx fun i batch => batchText (before + i + 1) batch)

/-- The text of several batches is that of the first, and the rest behind it. -/
theorem textFrom_cons (before : Nat) (batch : List String) (rest : List (List String)) :
    textFrom before (batch :: rest) =
      batchText (before + 1) batch ++ textFrom (before + 1) rest := by
  have hnumber (i : Nat) : before + (i + 1) + 1 = before + 1 + i + 1 := by omega
  simp [textFrom, List.mapIdx_cons, String.join_cons, hnumber]

/-- A batch that is taken is written behind the rest and counted, and one that is refused changes
nothing. -/
theorem writer_call {batch : List String} {answer : Except LoadingError Unit} {p q : Script × σ}
    (h : writer stream batch p = (answer, q)) :
    (answer = .ok () ∧ q.1 = ⟨p.1.text ++ batchText (p.1.batches + 1) batch, p.1.batches + 1,
      p.1.statements + batch.length⟩) ∨ ((∃ e, answer = .error e) ∧ q.1 = p.1) := by
  obtain ⟨script, s⟩ := p
  simp only [writer] at h
  split at h
  · obtain ⟨rfl, rfl⟩ := Prod.mk.inj h
    exact .inl ⟨rfl, rfl⟩
  · obtain ⟨rfl, rfl⟩ := Prod.mk.inj h
    exact .inr ⟨⟨_, rfl⟩, rfl⟩

/-- After a run, what was taken stands behind what was written before, and is counted. -/
theorem writer_runs {p q : Script × σ} {log : List Call} (h : (writer stream).Runs p log q) :
    q.1.text = p.1.text ++ textFrom p.1.batches (takenBatches log) ∧
      q.1.batches = p.1.batches + (takenBatches log).length ∧
      q.1.statements = p.1.statements + (takenBatches log).flatten.length := by
  induction h with
  | nil p => simp [takenBatches, textFrom]
  | @cons batch answer p q r log hcall _ ih =>
    obtain ⟨htext, hbatches, hstatements⟩ := ih
    rcases writer_call hcall with ⟨rfl, hq⟩ | ⟨⟨e, rfl⟩, hq⟩
    · have htaken : takenBatches (⟨batch, .ok ()⟩ :: log) = batch :: takenBatches log := rfl
      rw [htext, hbatches, hstatements, hq, htaken, textFrom_cons]
      refine ⟨String.append_assoc .., Nat.add_right_comm .., ?_⟩
      rw [List.flatten_cons, List.length_append]
      exact Nat.add_assoc ..
    · have hrefused : takenBatches (⟨batch, .error e⟩ :: log) = takenBatches log := rfl
      rw [htext, hbatches, hstatements, hq, hrefused]
      exact ⟨rfl, rfl, rfl⟩

end Script

/-! ## Telling statements apart -/

/-- As many items as are known to follow can be read one after the other. -/
theorem Legible.counted {α : Type} {P : α → Prop} {f : α → List Char}
    (h : Legible P (fun _ => True) f) {items items' : List α} {rest rest' : List Char}
    (hitems : ∀ a ∈ items, P a) (hitems' : ∀ a ∈ items', P a)
    (hlength : items.length = items'.length)
    (heq : items.flatMap f ++ rest = items'.flatMap f ++ rest') :
    items = items' ∧ rest = rest' := by
  induction items generalizing items' with
  | nil =>
    obtain rfl := List.eq_nil_of_length_eq_zero hlength.symm
    exact ⟨rfl, heq⟩
  | cons a more ih =>
    cases items' with
    | nil => cases hlength
    | cons a' more' =>
      simp only [List.flatMap_cons, List.append_assoc] at heq
      obtain ⟨rfl, hafter⟩ := h (hitems a List.mem_cons_self) (hitems' a' List.mem_cons_self)
        (fun _ _ => trivial) (fun _ _ => trivial) heq
      obtain ⟨rfl, hrests⟩ := ih (fun b hb => hitems b (List.mem_cons_of_mem _ hb))
        (fun b hb => hitems' b (List.mem_cons_of_mem _ hb)) (Nat.succ.inj hlength) hafter
      exact ⟨rfl, hrests⟩

/-- The lines of what is matched, with the word in front of them if there are any. -/
def matchChars (things : List Thing) : List Char :=
  if things = [] then [] else "match\n".toList ++ linesChars things

/-- Whether anything is matched shows in the first letter. -/
theorem legible_match :
    Legible (fun things => ∀ t ∈ things, t.Writable) (fun c => c = 'i') matchChars := by
  have hi : ∀ c : Char, c = 'i' → c ≠ '$' := by
    rintro _ rfl
    decide
  have hlines := (legible_lines.behind "match\n".toList).mono (fun _ h => h) hi
  have hnone : ∀ (things : List Thing) (rest rest' : List Char), Begins (fun c => c = 'i') rest →
      rest ≠ ("match\n".toList ++ linesChars things) ++ rest' := by
    rintro things rest rest' hrest rfl
    exact absurd (begins_cons.mp hrest) (by decide)
  intro things things' rest rest' hw hw' hrest hrest' heq
  by_cases hempty : things = [] <;> by_cases hempty' : things' = []
  · simp only [matchChars, if_pos hempty, if_pos hempty', List.nil_append] at heq
    exact ⟨hempty.trans hempty'.symm, heq⟩
  · simp only [matchChars, if_pos hempty, if_neg hempty', List.nil_append] at heq
    exact absurd heq (hnone things' rest rest' hrest)
  · simp only [matchChars, if_neg hempty, if_pos hempty', List.nil_append] at heq
    exact absurd heq.symm (hnone things rest' rest hrest')
  · simp only [matchChars, if_neg hempty, if_neg hempty'] at heq
    exact hlines hw hw' hrest hrest' heq

namespace Statement

/-- The text of a statement that inserts something. -/
def chars (s : Statement) : List Char :=
  matchChars s.matched ++ ("insert\n".toList ++ linesChars s.inserted)

/-- A statement that can be written is legible in front of whatever does not begin a pattern. -/
theorem legible_chars :
    Legible (fun s : Statement => ∀ t, t ∈ s.matched ∨ t ∈ s.inserted → t.Writable)
      (fun c => c ≠ '$') chars := by
  have hparts := legible_match.pair (legible_lines.behind "insert\n".toList) fun _ _ =>
    ⟨'i', _, rfl, rfl⟩
  refine hparts.comap (fun s : Statement => (s.matched, s.inserted)) ?_ ?_
  · exact fun s hs => ⟨fun t ht => hs t (.inl ht), fun t ht => hs t (.inr ht)⟩
  · rintro ⟨matched, inserted⟩ ⟨matched', inserted'⟩ - - heq
    obtain ⟨rfl, rfl⟩ := Prod.mk.inj heq
    rfl

end Statement

/-! ## Telling batches apart -/

/-- The text is that of a statement that holds names and values only and was built step by step. -/
def IsStatementText (text : String) : Prop :=
  ∃ s : Statement, s.Clean ∧ s.Built ∧ s.text = .ok text

/-- A statement as it stands in a script, with the empty line behind it. -/
def entryChars (text : String) : List Char := (Script.ensureLineBreak text).toList ++ ['\n']

theorem exists_linesChars {things : List Thing} (h : things ≠ []) :
    ∃ front, linesChars things = front ++ ['\n'] := by
  obtain ⟨init, last, rfl⟩ := (List.eq_nil_or_concat things).resolve_left h
  exact ⟨linesChars init ++ last.chars, by simp [linesChars]⟩

/-- The text of a statement is empty, or it ends in a line break. -/
theorem entryChars_of_text {s : Statement} (hclean : s.Clean) (hbuilt : s.Built) {text : String}
    (h : s.text = .ok text) :
    text = "" ∨ (∀ t, t ∈ s.matched ∨ t ∈ s.inserted → t.Writable) ∧
      entryChars text = s.chars ++ ['\n'] := by
  by_cases hinserted : s.inserted = []
  · refine .inl ?_
    rw [Statement.text, hinserted] at h
    exact (Except.ok.inj h).symm
  · obtain ⟨hchars, hwritten⟩ := Statement.toList_text hbuilt hinserted h
    have hchars : text.toList = s.chars := hchars
    obtain ⟨front, hfront⟩ := exists_linesChars hinserted
    have hlast : text.toList.getLast? = some '\n' := by
      rw [hchars, Statement.chars, hfront, ← List.append_assoc, ← List.append_assoc,
        List.getLast?_concat]
    refine .inr ⟨fun t ht => ⟨hclean t ht, hbuilt t ht, hwritten t ht⟩, ?_⟩
    rw [entryChars, Script.ensureLineBreak, if_pos hlast, hchars]

/-- Whatever its literals hold, a statement in a script ends in one place only. -/
theorem legible_entry : Legible IsStatementText (fun _ => True) entryChars := by
  -- the empty text leaves two line breaks, and any other begins with a letter
  have hempty {s : Statement} {rest rest' : List Char} :
      entryChars "" ++ rest ≠ (s.chars ++ ['\n']) ++ rest' := by
    have hnil : entryChars "" = ['\n', '\n'] := by decide
    rw [hnil, Statement.chars, matchChars]
    split <;> simp
  have hended := Statement.legible_chars.before (c := '\n') (by decide) []
  rintro text text' rest rest' ⟨s, hclean, hbuilt, htext⟩ ⟨s', hclean', hbuilt', htext'⟩ hrest
    hrest' heq
  rcases entryChars_of_text hclean hbuilt htext with rfl | ⟨hwritable, hchars⟩ <;>
    rcases entryChars_of_text hclean' hbuilt' htext' with rfl | ⟨hwritable', hchars'⟩
  · exact ⟨rfl, List.append_cancel_left heq⟩
  · rw [hchars'] at heq
    exact absurd heq hempty
  · rw [hchars] at heq
    exact absurd heq.symm hempty
  · rw [hchars, hchars'] at heq
    obtain ⟨rfl, hrests⟩ := hended hwritable hwritable' hrest hrest' heq
    rw [htext] at htext'
    exact ⟨Except.ok.inj htext', hrests⟩

/-- A number is legible in front of what is no digit. -/
theorem legible_number :
    Legible (fun _ : Nat => True) (fun c => c.isDigit = false) (Nat.toDigits 10) := by
  refine (Legible.word Char.isDigit).comap (Nat.toDigits 10) ?_ ?_
  · exact fun n _ c hc => Nat.isDigit_of_mem_toDigits (by decide) (by decide) hc
  · intro n m _ _ heq
    rw [← Nat.ofDigitChars_ten_toDigits (n := n), heq, Nat.ofDigitChars_ten_toDigits]

namespace Script

/-- A batch is written as its heading, with its number and its size, and its entries. -/
theorem toList_batchText (number : Nat) (batch : List String) : (batchText number batch).toList =
    ("# batch ".toList ++ (Nat.toDigits 10 number ++ " (".toList)) ++
      (Nat.toDigits 10 batch.length ++ (" statements)\n".toList ++ batch.flatMap entryChars)) := by
  have hbody : (String.join (batch.map fun text => ensureLineBreak text ++ "\n")).toList =
      batch.flatMap entryChars := by
    rw [String.toList_join, List.flatMap_map]
    exact List.flatMap_congr fun text _ => String.toList_append
  simp only [batchText, String.toList_append, hbody, Nat.toString_eq_ofList_toDigits,
    String.toList_ofList, List.append_assoc]

/-- Batches are told apart one by one: by the number of statements, and then by the statements. -/
theorem eq_of_textFrom {before : Nat} {batches batches' : List (List String)}
    (h : ∀ batch ∈ batches, ∀ text ∈ batch, IsStatementText text)
    (h' : ∀ batch ∈ batches', ∀ text ∈ batch, IsStatementText text)
    (heq : textFrom before batches = textFrom before batches') : batches = batches' := by
  have hend (before : Nat) (batch : List String) (rest : List (List String)) :
      textFrom before [] ≠ textFrom before (batch :: rest) := by
    intro heq
    rw [textFrom_cons] at heq
    have hchars := congrArg String.toList heq
    rw [String.toList_append, toList_batchText] at hchars
    simp [textFrom] at hchars
  induction batches generalizing before batches' with
  | nil =>
    cases batches' with
    | nil => rfl
    | cons batch' rest' => exact absurd heq (hend before batch' rest')
  | cons batch rest ih =>
    cases batches' with
    | nil => exact absurd heq.symm (hend before batch rest)
    | cons batch' rest' =>
      have hchars := congrArg String.toList heq
      simp only [textFrom_cons, String.toList_append, toList_batchText, List.append_assoc]
        at hchars
      -- the numbers of the batches are the same, so the numbers of statements come next
      have hcounts := List.append_cancel_left (List.append_cancel_left
        (List.append_cancel_left hchars))
      have hmark (more : List Char) :
          Begins (fun c => c.isDigit = false) (" statements)\n".toList ++ more) := by
        simp [begins_cons]
      obtain ⟨hlength, hbodies⟩ := legible_number trivial trivial (hmark _) (hmark _) hcounts
      obtain ⟨hbatch, hrests⟩ := legible_entry.counted (h batch List.mem_cons_self)
        (h' batch' List.mem_cons_self) hlength (List.append_cancel_left hbodies)
      rw [hbatch, ih (fun other hother => h other (List.mem_cons_of_mem _ hother))
        (fun other hother => h' other (List.mem_cons_of_mem _ hother))
        (String.toList_inj.mp hrests)]

/-- **Scripts are faithful and can be read back.** Whatever the stream answers, each batch that it
takes leaves one block behind those before it: a head with its number, counted from one without
gaps, and with the number of its statements, and then the statements. The counts are those of what
was taken, a batch that is refused changes neither text nor counts, and a load into the script sums
up as many statements as the script counts. If all that was taken are texts of statements, whatever
stands in their literals, then any other run that leaves the same text has had the same batches
taken. -/
theorem writer_faithful {s u : σ} {log : List Call} {script : Script}
    (h : (writer stream).Runs ({}, s) log (script, u)) :
    script.text = String.join ((takenBatches log).mapIdx fun i batch =>
        "# batch " ++ toString (i + 1) ++ " (" ++ toString batch.length ++ " statements)\n" ++
          String.join (batch.map fun text => ensureLineBreak text ++ "\n")) ∧
      script.batches = (takenBatches log).length ∧
      script.statements = (takenBatches log).flatten.length ∧
      (∀ batch p e q, writer stream batch p = (.error e, q) → q.1 = p.1) ∧
      (∀ size texts,
        let (summary, written, _) := Loader.load (writer stream) (.ofSize size) texts ({}, s)
        written.statements = summary.inserted) ∧
      ((∀ batch ∈ takenBatches log, ∀ text ∈ batch, IsStatementText text) →
        ∀ {τ : Type} (stream' : TextStream τ) (s' u' : τ) (log' : List Call) (script' : Script),
          (writer stream').Runs ({}, s') log' (script', u') →
          (∀ batch ∈ takenBatches log', ∀ text ∈ batch, IsStatementText text) →
          script'.text = script.text → takenBatches log' = takenBatches log) := by
  obtain ⟨htext, hbatches, hstatements⟩ := writer_runs h
  have htext : script.text = textFrom 0 (takenBatches log) := htext.trans String.empty_append
  refine ⟨?_, hbatches.trans (Nat.zero_add _), hstatements.trans (Nat.zero_add _), ?_, ?_, ?_⟩
  · rw [htext, textFrom]
    simp only [Nat.zero_add, batchText]
  · intro batch p e q hcall
    rcases writer_call hcall with ⟨herror, -⟩ | ⟨-, hq⟩
    · cases herror
    · exact hq
  · intro size texts
    obtain ⟨calls, hruns, hinserted⟩ := Loader.load_runs (writer stream) size texts ({}, s)
    have hwritten := (writer_runs hruns).2.2
    exact (hwritten.trans (Nat.zero_add _)).trans hinserted
  · -- two scripts of one text have the same batches, whatever the streams refused
    intro hlog τ stream' s' u' log' script' h' hlog' hsame
    have htext' : script'.text = textFrom 0 (takenBatches log') :=
      (writer_runs h').1.trans String.empty_append
    rw [htext, htext'] at hsame
    exact eq_of_textFrom hlog' hlog hsame

/-- A stream that refuses the first text and takes all others. -/
def refusingOnce : TextStream Bool := fun _ refused =>
  if refused then (.ok (), true) else (.error "busy", true)

/-- A statement whose literal goes on like a script. -/
def scriptLike : Statement where
  inserted := [.entity ((Entity.mk "v0" "note" []).addAttribute "content"
    (quote "a;\n\n# batch 2 (1 statements)\ninsert\n$v1 isa tool"))]

/-- Its text. -/
def scriptLikeText : String :=
  "insert\n$v0 isa note, has content \"a;\n\n# batch 2 (1 statements)\ninsert\n$v1 isa tool\";\n"

/-- What looks like a heading in a literal is no heading. -/
theorem isStatementText_scriptLike : IsStatementText scriptLikeText := by
  have hname : IsName "v0" ∧ IsName "note" ∧ IsName "content" := by decide
  have hthing : ∀ t, t ∈ scriptLike.matched ∨ t ∈ scriptLike.inserted →
      t.Within .names ∧ t.Built := by
    rintro t (ht | ht)
    · exact absurd ht List.not_mem_nil
    · obtain rfl := List.mem_singleton.mp ht
      exact ⟨(Thing.within_entity hname.1 hname.2.1).addAttribute hname.2.2 (isValue_quote _),
        .entity (.addAttribute _ _ (.new _ _))⟩
  exact ⟨scriptLike, fun t ht => (hthing t ht).1, fun t ht => (hthing t ht).2, rfl⟩

/-- The statement is sent twice in one batch, which is refused, and then again alone, both times.
The blocks can be told from what the literal holds. -/
theorem writer_faithful_retried :
    let text := scriptLikeText
    let log : List Call :=
      [⟨[text, text], .error (.ofDiagnostic "busy" text 2)⟩, ⟨[text], .ok ()⟩, ⟨[text], .ok ()⟩]
    let script : Script := ⟨"# batch 1 (1 statements)\n" ++ text ++ "\n" ++
      "# batch 2 (1 statements)\n" ++ text ++ "\n", 2, 2⟩
    (writer refusingOnce).Runs ({}, false) log (script, true) ∧
      (∀ batch ∈ takenBatches log, ∀ text ∈ batch, IsStatementText text) ∧
      script.statements = (takenBatches log).flatten.length ∧
      ∀ (s u : Bool) (log' : List Call), (writer refusingOnce).Runs ({}, s) log' (script, u) →
        (∀ batch ∈ takenBatches log', ∀ text ∈ batch, IsStatementText text) →
        takenBatches log' = [[text], [text]] := by
  intro text log script
  have hrun : (writer refusingOnce).Runs ({}, false) log (script, true) := by
    refine .cons rfl (.cons rfl (.cons ?_ (.nil _)))
    decide +kernel
  have htexts : ∀ batch ∈ takenBatches log, ∀ text ∈ batch, IsStatementText text := by
    have htaken : takenBatches log = [[text], [text]] := rfl
    simp [htaken, text, isStatementText_scriptLike]
  obtain ⟨-, -, hstatements, -, -, hread⟩ := writer_faithful hrun
  exact ⟨hrun, htexts, hstatements, fun s u log' hrun' htexts' =>
    hread htexts refusingOnce s u log' script hrun' htexts' rfl⟩

end Script

end ThreatGraph
