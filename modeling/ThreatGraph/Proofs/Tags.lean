import ThreatGraph.Proofs.Vocabulary

/-!
# Tags say what they name

A tag is cut at its first colon, so the name behind it may hold more of them and may look like a
tag itself. What cannot be told from a tag is a list of lists, and a type that is named by the
empty name. All other types are read off the tags that they are written as, and nothing else is
ever read off a tag (`ValueType.tags_round_trip`).

Both directions are by cases on the type: what comes before the first colon tells the kind, and it
has no colon itself, so that a tag is cut where it was joined (`Text.cut?_append`). Elements of
lists are read by a reader of their own, which accepts what the other one does, but for lists.
-/

namespace ThreatGraph

/-! ## Cutting at the first mark -/

namespace Text

/-- A text is cut at the first mark in it, as none stands before. -/
theorem cutList?_append {mark : Char} {before : List Char} (h : mark ∉ before)
    (after : List Char) : cutList? [mark] (before ++ mark :: after) = some (before, after) := by
  induction before with
  | nil => simp [cutList?, List.isPrefixOf?]
  | cons c rest ih =>
    obtain ⟨hc, hrest⟩ : ¬mark = c ∧ mark ∉ rest := by simpa using h
    rw [List.cons_append, cutList?]
    simp [List.isPrefixOf?, hc, ih hrest]

/-- A text is cut where its mark stands first. -/
theorem cut?_append {mark before : String} {c : Char} (hmark : mark.toList = [c])
    (h : c ∉ before.toList) (after : String) :
    cut? mark (before ++ mark ++ after) = some (before, after) := by
  simp [cut?, hmark, cutList?_append h]

end Text

namespace ValueType

/-! ## Types that can be read off a tag -/

/-- Names are not empty, and the elements of lists are no lists. -/
def Nameable : ValueType → Prop
  | .list element => element.isList = false ∧ element.Nameable
  | .composite name | .relation name | .keyValue name => name ≠ ""
  | .scalar _ | .dictionary | .empty | .roleplayer => True

variable {tag : String} {type : ValueType}

/-- A type that is read off the tag of an element can be named. -/
theorem nameable_of_ofElementTag? (h : ofElementTag? tag = some type) : type.Nameable := by
  rw [ofElementTag?] at h
  split at h
  · unfold ofWord? at h
    split at h
    all_goals cases h
    all_goals trivial
  · next kind name _ =>
    unfold ofNamed? at h
    split at h
    · cases h
    · next hname =>
      have hname : name ≠ "" := by simpa using hname
      split at h
      all_goals cases h
      all_goals exact hname

theorem nameable_of_ofTag? (h : ofTag? tag = some type) : type.Nameable := by
  rw [ofTag?] at h
  split at h
  · obtain ⟨element, helement, rfl⟩ := Option.map_eq_some_iff.mp h
    exact ⟨(tag_of_ofElementTag? helement).2, nameable_of_ofElementTag? helement⟩
  · exact nameable_of_ofElementTag? h

/-! ## Reading tags back -/

/-- What stands behind the first colon is the name, whatever it is. -/
theorem ofElementTag?_named (kind : String) {front : String} (hfront : kind ++ ":" = front)
    (hkind : ':' ∉ kind.toList) (name : String) :
    ofElementTag? (front ++ name) = ofNamed? kind name := by
  rw [← hfront, ofElementTag?, Text.cut?_append rfl hkind]

/-- Behind the word for lists stands the tag of the element. -/
theorem ofTag?_list (element : String) :
    ofTag? ("list:" ++ element) = (ofElementTag? element).map list := by
  have hcut : Text.cut? ":" ("list" ++ ":" ++ element) = some ("list", element) :=
    Text.cut?_append rfl (by decide) element
  rw [ofTag?, show "list:" = "list" ++ ":" by decide, hcut]
  rfl

/-- A tag that names no list is read as that of an element. -/
theorem ofTag?_of_ofElementTag? (h : ofElementTag? tag = some type) : ofTag? tag = some type := by
  rw [ofTag?]
  split
  · next element hcut => simp [ofElementTag?, hcut, ofNamed?] at h
  · exact h

/-- An element that can be named is read off its tag. -/
theorem ofElementTag?_tag (hlist : type.isList = false) (h : type.Nameable) :
    ofElementTag? type.tag = some type := by
  cases type with
  | scalar s => cases s <;> rfl
  | list => cases hlist
  | composite name =>
    have hname : ¬name.isEmpty = true := mt String.isEmpty_iff.mp h
    exact (ofElementTag?_named "composite" (by decide) (by decide) name).trans (if_neg hname)
  | relation name =>
    have hname : ¬name.isEmpty = true := mt String.isEmpty_iff.mp h
    exact (ofElementTag?_named "relation" (by decide) (by decide) name).trans (if_neg hname)
  | keyValue name =>
    have hname : ¬name.isEmpty = true := mt String.isEmpty_iff.mp h
    exact (ofElementTag?_named "key-value" (by decide) (by decide) name).trans (if_neg hname)
  | dictionary => rfl
  | empty => rfl
  | roleplayer => rfl

theorem ofTag?_tag (h : type.Nameable) : ofTag? type.tag = some type := by
  cases hlist : type.isList with
  | false => exact ofTag?_of_ofElementTag? (ofElementTag?_tag hlist h)
  | true =>
    cases type with
    | list element => rw [ValueType.tag, ofTag?_list, ofElementTag?_tag h.1 h.2, Option.map_some]
    | _ => cases hlist

/-- **Tags say what they name.** A type is read off a tag exactly if the tag is what the type is
written as, its names are not empty and the elements of lists in it are no lists. So the types with
such names are read off their tags, whatever else stands in the names, and a list of lists or a
type with an empty name is not read off the text that it is written as. -/
theorem tags_round_trip (tag : String) (type : ValueType) :
    (ofTag? tag = some type ↔ type.Nameable ∧ type.tag = tag) ∧
      (ofTag? type.tag = some type ↔ type.Nameable) := by
  refine ⟨⟨fun h => ⟨nameable_of_ofTag? h, tag_of_ofTag? h⟩, ?_⟩, nameable_of_ofTag?, ofTag?_tag⟩
  rintro ⟨hnameable, rfl⟩
  exact ofTag?_tag hnameable

-- the name looks like a tag itself, and the element of the second would be a list
example : ofTag? "list:composite:list:string" = some (.list (.composite "list:string")) ∧
    ofTag? "list:list:string" = none := by decide

end ValueType

end ThreatGraph
