import ThreatGraph.Graph.Quote
import ThreatGraph.Graph.Thing

/-!
# Names and values in statements

What may stand in a statement so that it can be read again: names of ASCII letters, digits, hyphens
and underscores, and as attribute values string literals of any text, and tokens, which are numbers,
truth values and datetimes.

A `Lexicon` says which words may be variables, types, attributes and roles. A thing is `Within` it
if its words are and its attribute values are values; it is made and added to in few ways, and stays
within the lexicon if what is added is.
-/

namespace ThreatGraph

/-- The characters of names. -/
def isNameChar (c : Char) : Bool := c.isAlphanum || c == '-' || c == '_'

/-- The characters of tokens. -/
def isTokenChar (c : Char) : Bool :=
  c.isAlphanum || c == '.' || c == ':' || c == '+' || c == '-'

/-- A name has characters, and only those of names. -/
def IsName (s : String) : Prop := s ≠ "" ∧ ∀ c ∈ s.toList, isNameChar c = true

/-- A token has characters, and only those of tokens. -/
def IsToken (s : String) : Prop := s ≠ "" ∧ ∀ c ∈ s.toList, isTokenChar c = true

/-- A value is the literal of a text, or a token. -/
def IsValue (s : String) : Prop := (∃ text, s = quote text) ∨ IsToken s

-- the characters are looked at in the text, not among all that there are

instance (s : String) : Decidable (IsName s) :=
  decidable_of_iff (s ≠ "" ∧ s.toList.all isNameChar = true) (by simp [IsName])

instance (s : String) : Decidable (IsToken s) :=
  decidable_of_iff (s ≠ "" ∧ s.toList.all isTokenChar = true) (by simp [IsToken])

theorem isValue_quote (text : String) : IsValue (quote text) := .inl ⟨text, rfl⟩

/-- What stands between the quotes of a literal. -/
def quoteBody (text : String) : List Char := text.toList.flatMap quoteChar

theorem toList_quote (text : String) : (quote text).toList = '"' :: (quoteBody text ++ ['"']) :=
  String.toList_ofList

/-- A value has characters. -/
theorem IsValue.ne_empty {s : String} (h : IsValue s) : s ≠ "" := by
  rcases h with ⟨text, rfl⟩ | htoken
  · intro hempty
    have hchars := toList_quote text
    rw [hempty] at hchars
    cases hchars
  · exact htoken.1

/-- No quote stands between the quotes of a literal. -/
theorem quoteBody_ne_quote (text : String) : ∀ c ∈ quoteBody text, (c != '"') = true := by
  intro c hc
  obtain ⟨source, -, hc⟩ := List.mem_flatMap.mp hc
  rw [quoteChar] at hc
  split at hc
  · simp_all
  · split at hc <;> simp_all

/-! ## Lexicons -/

/-- The words that may stand in a thing. -/
structure Lexicon where
  /-- the variables -/
  vars : String → Prop
  /-- the types -/
  types : String → Prop
  /-- the names of attributes -/
  attributes : String → Prop
  /-- the roles -/
  roles : String → Prop

namespace Thing

/-- The players by role; entities have none. -/
def roles : Thing → Multimap
  | .entity _ => []
  | .relation r => r.roles

/-- The words of a thing are those of a lexicon, and its attribute values are values. -/
structure Within (l : Lexicon) (t : Thing) : Prop where
  var : l.vars t.var
  typeName : l.types t.typeName
  attributes : ∀ pair ∈ t.attributes.pairs, l.attributes pair.1 ∧ IsValue pair.2
  players : ∀ pair ∈ t.roles.pairs, l.roles pair.1 ∧ l.vars pair.2

variable {l : Lexicon}

/-- An entity without attributes is within a lexicon that has its variable and its type. -/
theorem within_entity {var typeName : String} (hvar : l.vars var) (htype : l.types typeName) :
    (entity { var, typeName }).Within l where
  var := hvar
  typeName := htype
  attributes := fun _ h => absurd h List.not_mem_nil
  players := fun _ h => absurd h List.not_mem_nil

theorem within_relation {var typeName : String} (hvar : l.vars var) (htype : l.types typeName) :
    (relation { var, typeName }).Within l where
  var := hvar
  typeName := htype
  attributes := fun _ h => absurd h List.not_mem_nil
  players := fun _ h => absurd h List.not_mem_nil

end Thing

/-- Adding a value under a name of the lexicon leaves attributes within it. -/
theorem Attributes.add_within {P : String → Prop} {a : Attributes} {name value : String}
    (h : ∀ pair ∈ Multimap.pairs a, P pair.1 ∧ IsValue pair.2) (hname : P name)
    (hvalue : IsValue value) :
    ∀ pair ∈ Multimap.pairs (a.add name value), P pair.1 ∧ IsValue pair.2 := by
  intro pair hpair
  rw [add] at hpair
  split at hpair
  · exact h pair hpair
  · rcases Multimap.mem_pairs_add.mp hpair with hpair | rfl
    · exact h pair hpair
    · exact ⟨hname, hvalue⟩

namespace Thing.Within

variable {l : Lexicon} {name : String}

theorem addAttribute {t : Thing} {value : String} (h : t.Within l) (hname : l.attributes name)
    (hvalue : IsValue value) : (t.addAttribute name value).Within l := by
  cases t with
  | entity e =>
    exact ⟨h.var, h.typeName, Attributes.add_within h.attributes hname hvalue, h.players⟩
  | relation r =>
    exact ⟨h.var, h.typeName, Attributes.add_within h.attributes hname hvalue, h.players⟩

/-- A player that the lexicon allows can be added under a role that it has. -/
theorem addPlayer {r : Relation} {role player : String} (h : (Thing.relation r).Within l)
    (hrole : l.roles role) (hplayer : l.vars player) :
    (Thing.relation (r.addPlayer role player)).Within l := by
  refine ⟨h.var, h.typeName, h.attributes, fun pair hpair => ?_⟩
  rcases Multimap.mem_pairs_add.mp hpair with hpair | rfl
  · exact h.players pair hpair
  · exact ⟨hrole, hplayer⟩

/-- Several values of one attribute can be added to an entity. -/
theorem addAttributes_entity {values : List String} (hname : l.attributes name)
    (hvalues : ∀ value ∈ values, IsValue value) {e : Entity} (h : (Thing.entity e).Within l) :
    (Thing.entity (e.addAttributes name values)).Within l := by
  induction values generalizing e with
  | nil => exact h
  | cons value rest ih =>
    have hfirst := h.addAttribute hname (hvalues value List.mem_cons_self)
    exact ih (fun v hv => hvalues v (List.mem_cons_of_mem _ hv)) hfirst

theorem addAttributes_relation {values : List String} (hname : l.attributes name)
    (hvalues : ∀ value ∈ values, IsValue value) {r : Relation} (h : (Thing.relation r).Within l) :
    (Thing.relation (r.addAttributes name values)).Within l := by
  induction values generalizing r with
  | nil => exact h
  | cons value rest ih =>
    have hfirst := h.addAttribute hname (hvalues value List.mem_cons_self)
    exact ih (fun v hv => hvalues v (List.mem_cons_of_mem _ hv)) hfirst

end Thing.Within

end ThreatGraph
