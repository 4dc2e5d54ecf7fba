import Mathlib.Data.List.TakeWhile
import ThreatGraph.Loading.Error
import ThreatGraph.Proofs.Agreement
import ThreatGraph.Proofs.Pieces

/-!
# Diagnostics in clearer words

A diagnostic for a reference to an object of the wrong type is put in clearer words if it names a
type and a property, which needs three single quotes (`LoadingError.exists_names_iff`). It is a
text of the store's, so quotes may stand anywhere in it and colons too. What is taken from it has no
quote, and the property no colon either. Therefore the clearer words name the same type and the same
property, and are not changed when they come back as a diagnostic
(`LoadingError.message_clearer`).
-/

namespace ThreatGraph

namespace LoadingError

/-! ## What a diagnostic names -/

/-- The diagnostic names a type and a property. The type stands between the first two quotes. The
property stands behind the third quote, up to what comes first of a quote, a colon and the end. -/
inductive Names : List Char → List Char → List Char → Prop
  | intro {before typeName between property after : List Char} :
    '\'' ∉ before → '\'' ∉ typeName → '\'' ∉ between →
    (∀ c ∈ property, c ≠ '\'' ∧ c ≠ ':') →
    (∀ c ∈ after.head?, c = '\'' ∨ c = ':') →
    Names (before ++ '\'' :: (typeName ++ '\'' :: (between ++ '\'' :: (property ++ after))))
      typeName property

variable {diagnostic typeName property : List Char}

/-- The text behind the third quote ends at a quote and then at a colon. -/
theorem takeWhile_property {after : List Char} (h : ∀ c ∈ property, c ≠ '\'' ∧ c ≠ ':')
    (hafter : ∀ c ∈ after.head?, c = '\'' ∨ c = ':') :
    (((property ++ after).takeWhile fun c => c != '\'').takeWhile fun c => c != ':') =
      property := by
  rw [List.takeWhile_takeWhile]
  have hend : (after.takeWhile fun c => decide ((c != ':') = true ∧ (c != '\'') = true)) = [] := by
    cases after with
    | nil => rfl
    | cons c rest =>
      rcases hafter c rfl with rfl | rfl
      · rfl
      · rfl
  rw [List.takeWhile_append_of_pos, hend, List.append_nil]
  intro c hc
  obtain ⟨hquote, hcolon⟩ := h c hc
  simp [hquote, hcolon]

/-- What a diagnostic names is what is taken from it. -/
theorem quotedPair?_of_names (h : Names diagnostic typeName property) :
    quotedPair? diagnostic = some (String.ofList typeName, String.ofList property) := by
  obtain ⟨hbefore, htype, hbetween, hproperty, hafter⟩ := h
  rename_i before between after
  obtain ⟨others, hothers⟩ := Text.exists_pieces '\'' (property ++ after)
  rw [quotedPair?, Text.pieces_append, Text.pieces_of_not_mem hbefore, Text.pieces_append,
    Text.pieces_of_not_mem htype, Text.pieces_append, Text.pieces_of_not_mem hbetween, hothers]
  dsimp only [List.cons_append, List.nil_append]
  rw [takeWhile_property hproperty hafter]

/-- A diagnostic names one type and one property only. -/
theorem Names.unique {typeName' property' : List Char} (h : Names diagnostic typeName property)
    (h' : Names diagnostic typeName' property') : typeName' = typeName ∧ property' = property := by
  have hpair := (quotedPair?_of_names h').symm.trans (quotedPair?_of_names h)
  obtain ⟨htype, hproperty⟩ := Prod.mk.inj (Option.some.inj hpair)
  exact ⟨String.ofList_inj.mp htype, String.ofList_inj.mp hproperty⟩

/-- Three quotes are needed to name a type and a property, and enough. -/
theorem exists_names_iff :
    (∃ typeName property, Names diagnostic typeName property) ↔ 3 ≤ diagnostic.count '\'' := by
  constructor
  · rintro ⟨typeName, property, -, -, -, -, -⟩
    simp only [List.count_append, List.count_cons_self]
    omega
  · intro h
    obtain ⟨before, rest, rfl, hbefore, hcount⟩ := Text.exists_first (Nat.zero_lt_of_lt h)
    have hrest : 2 ≤ rest.count '\'' := by omega
    obtain ⟨typeName, rest, rfl, htype, hcount⟩ := Text.exists_first (Nat.zero_lt_of_lt hrest)
    have hrest : 1 ≤ rest.count '\'' := by omega
    obtain ⟨between, rest, rfl, hbetween, -⟩ := Text.exists_first hrest
    -- behind the third quote, the property ends before the next quote or colon
    let inside (c : Char) : Bool := c != '\'' && c != ':'
    have hproperty : ∀ c ∈ rest.takeWhile inside, c ≠ '\'' ∧ c ≠ ':' := by
      intro c hc
      simpa [inside] using List.mem_takeWhile_imp hc
    have hafter : ∀ c ∈ (rest.dropWhile inside).head?, c = '\'' ∨ c = ':' := by
      intro c hc
      have hnot := List.head?_dropWhile_not inside rest
      rw [Option.mem_def.mp hc] at hnot
      by_cases hquote : c = '\''
      · exact .inl hquote
      · exact .inr (by simpa [inside, hquote] using hnot)
    have hnames := Names.intro hbefore htype hbetween hproperty hafter
    rw [List.takeWhile_append_dropWhile] at hnames
    exact ⟨typeName, rest.takeWhile inside, hnames⟩

/-- A diagnostic with fewer than three quotes has no second text between quotes. -/
theorem quotedPair?_of_few (h : ¬ 3 ≤ diagnostic.count '\'') : quotedPair? diagnostic = none := by
  have hlength := Text.length_pieces '\'' diagnostic
  rw [quotedPair?]
  split
  · next heq =>
    rw [heq] at hlength
    simp only [List.length_cons] at hlength
    omega
  · rfl

/-- The clearer words name the same type and the same property. -/
theorem names_wrongReferenceMessage (h : Names diagnostic typeName property) :
    Names (wrongReferenceMessage (String.ofList typeName) (String.ofList property)).toList
      typeName property := by
  obtain ⟨-, htype, -, hproperty, -⟩ := h
  rw [wrongReferenceMessage, wrongReferenceCode]
  simp only [String.toList_append, String.toList_ofList, List.append_assoc]
  exact @Names.intro "[THW08] Referenced STIX objects of type ".toList typeName
    " are not valid for the property ".toList property ['\''] (by decide) htype (by decide)
    hproperty (by simp)

/-! ## The message -/

variable {text : String}

/-- A diagnostic that has the code and names both is put in other words. -/
theorem messageOf_of_names (hcode : Text.contains wrongReferenceCode text = true)
    (h : Names text.toList typeName property) :
    messageOf text =
      wrongReferenceMessage (String.ofList typeName) (String.ofList property) := by
  rw [messageOf, if_pos hcode, quotedPair?_of_names h]

theorem messageOf_eq_self
    (h : ¬ (Text.contains wrongReferenceCode text = true ∧ 3 ≤ text.toList.count '\'')) :
    messageOf text = text := by
  rw [messageOf]
  split
  · next hcode => rw [quotedPair?_of_few fun hquotes => h ⟨hcode, hquotes⟩]
  · rfl

/-- A message is not changed when it comes back as a diagnostic. -/
theorem messageOf_messageOf (text : String) : messageOf (messageOf text) = messageOf text := by
  by_cases h : Text.contains wrongReferenceCode text = true ∧ 3 ≤ text.toList.count '\''
  · obtain ⟨typeName, property, hnames⟩ := exists_names_iff.mpr h.2
    have hcode : Text.contains wrongReferenceCode
        (wrongReferenceMessage (String.ofList typeName) (String.ofList property)) = true :=
      Text.contains_iff.mpr ⟨"", " Referenced STIX objects of type '" ++ String.ofList typeName ++
        "' are not valid for the property '" ++ String.ofList property ++ "'", by
          simp [wrongReferenceMessage, String.append_assoc]⟩
    rw [messageOf_of_names h.1 hnames]
    exact messageOf_of_names hcode (names_wrongReferenceMessage hnames)
  · rw [messageOf_eq_self h, messageOf_eq_self h]

/-- **Diagnostics are put in clearer words exactly, and once.** A diagnostic with the code and three
quotes names one type and one property, and the message says so in the clearer words. Any other is
the message as it stands. A message that is a diagnostic again stays the message. -/
theorem message_clearer (diagnostic statement : String) (batchSize : Nat) :
    let message := (ofDiagnostic diagnostic statement batchSize).message
    ((∃ before after, diagnostic = before ++ "[THW08]" ++ after) →
        3 ≤ diagnostic.toList.count '\'' →
        ∃ typeName property,
          (∀ t p, Names diagnostic.toList t p ↔ t = typeName ∧ p = property) ∧
            message = wrongReferenceMessage (String.ofList typeName) (String.ofList property)) ∧
      (¬ ((∃ before after, diagnostic = before ++ "[THW08]" ++ after) ∧
        3 ≤ diagnostic.toList.count '\'') → message = diagnostic) ∧
      ∀ statement batchSize, (ofDiagnostic message statement batchSize).message = message := by
  intro message
  refine ⟨fun hcode hquotes => ?_, fun hneither => ?_, fun _ _ => messageOf_messageOf diagnostic⟩
  · obtain ⟨typeName, property, hnames⟩ := exists_names_iff.mpr hquotes
    refine ⟨typeName, property, fun t p => ⟨hnames.unique, ?_⟩,
      messageOf_of_names (Text.contains_iff.mpr hcode) hnames⟩
    rintro ⟨rfl, rfl⟩
    exact hnames
  · exact messageOf_eq_self fun h => hneither ⟨Text.contains_iff.mp h.1, h.2⟩

/-- The diagnostic of a reference that is refused, and one whose quotes are not closed. -/
theorem message_clearer_creator :
    let refused := "[THW08] Invalid Write: the type 'identity' is not allowed to play " ++
      "'creator:created-by' here"
    let message := (ofDiagnostic refused "insert $x isa thing;" 1).message
    message = "[THW08] Referenced STIX objects of type 'identity' are not valid for the property " ++
        "'creator'" ∧
      (ofDiagnostic message "" 0).message = message ∧
      (ofDiagnostic "'' [THW08]" "" 0).message = "'' [THW08]" := by
  intro refused message
  obtain ⟨hclearer, -, hagain⟩ := message_clearer refused "insert $x isa thing;" 1
  obtain ⟨-, hkept, -⟩ := message_clearer "'' [THW08]" "" 0
  obtain ⟨typeName, property, hnames, hmessage⟩ :=
    hclearer (Text.contains_iff.mp (by decide +kernel)) (by decide +kernel)
  have hpair := (quotedPair?_of_names ((hnames _ _).mpr ⟨rfl, rfl⟩)).symm
  rw [show quotedPair? refused.toList = some ("identity", "creator") by decide +kernel] at hpair
  obtain ⟨htype, hproperty⟩ := Prod.mk.inj (Option.some.inj hpair)
  refine ⟨?_, hagain _ _, hkept fun h => absurd h.2 (by decide)⟩
  rw [show message = _ from hmessage, htype, hproperty]
  decide +kernel

end LoadingError

end ThreatGraph
