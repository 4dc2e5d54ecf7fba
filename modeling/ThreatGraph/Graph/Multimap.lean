import ThreatGraph.Table

/-!
# Ordered multimaps

A multimap files any number of texts under a name. Names keep the order in which they came first,
and the texts of a name the order in which they were filed.
-/

namespace ThreatGraph

/-- Texts filed under names, names in the order in which they came first. -/
abbrev Multimap := Table (List String)

namespace Multimap

/-- Files `text` under `name`, after what is there already. -/
def add : Multimap → String → String → Multimap
  | [], name, text => [(name, [text])]
  | (other, texts) :: rest, name, text =>
    if other = name then (other, texts ++ [text]) :: rest
    else (other, texts) :: add rest name text

/-- What is filed under `name`. -/
def get? (m : Multimap) (name : String) : Option (List String) := Table.get? m name

/-- The pairs of a name and one of its texts, in order. -/
def pairs (m : Multimap) : List (String × String) :=
  m.flatMap fun (name, texts) => texts.map fun text => (name, text)

/-- Whether both file the same texts under the same names, whatever the order of the names. -/
def agrees (m other : Multimap) : Bool :=
  m.length == other.length && m.all fun (name, texts) => other.get? name == some texts

/-- Whether both have the same names. -/
def sameNames (m other : Multimap) : Bool :=
  m.length == other.length && m.all fun (name, _) => Table.contains other name

/-- What is filed under a name comes last of its texts, and those of other names stay as they are.
-/
theorem get?_add (m : Multimap) (name other text : String) :
    (m.add name text).get? other =
      if name = other then some ((m.get? name).getD [] ++ [text]) else m.get? other := by
  induction m with
  | nil => simp [add, get?, Table.get?_cons]
  | cons entry rest ih =>
    obtain ⟨key, texts⟩ := entry
    simp only [get?] at ih
    by_cases h : key = name
    · subst h
      simp only [add, if_true, get?, Table.get?_cons]
      split <;> simp
    · simp only [add, if_neg h, get?, Table.get?_cons, ih]
      by_cases hk : key = other
      · subst hk
        simp [Ne.symm h]
      · simp [hk]

theorem mem_pairs_add {m : Multimap} {name text : String} {pair : String × String} :
    pair ∈ (m.add name text).pairs ↔ pair ∈ m.pairs ∨ pair = (name, text) := by
  induction m with
  | nil => simp [add, pairs]
  | cons entry rest ih =>
    obtain ⟨other, texts⟩ := entry
    by_cases h : other = name
    · subst h
      simp only [add, if_true, pairs, List.flatMap_cons, List.map_append, List.mem_append,
        List.map_cons, List.map_nil, List.mem_singleton]
      exact or_right_comm
    · simp only [add, if_neg h, pairs, List.flatMap_cons, List.mem_append] at ih ⊢
      rw [ih, or_assoc]

end Multimap

end ThreatGraph
