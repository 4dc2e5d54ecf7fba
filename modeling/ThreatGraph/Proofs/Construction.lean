import Mathlib.Data.List.Nodup
import ThreatGraph.Graph.Statement

/-!
# Things as they are built

Things come into being without attributes and players, which are then added one by one. So no name
is filed twice and none is filed without a text (`Multimap.Proper`), and the pairs of a multimap,
in their order, say all there is to say about it (`Multimap.Proper.eq_of_pairs`).

Adding is followed one text at a time: names and their texts are kept apart (`names_add`,
`filed_add`), which makes `Proper` an invariant of the single steps and hence of everything in
`Entity.Built` and `Relation.Built`.
-/

namespace ThreatGraph

/-! ## Multimaps without repeated and empty names -/

namespace Multimap

/-- Every name stands once, and something is filed under it. -/
structure Proper (m : Multimap) : Prop where
  distinct : (Table.names m).Nodup
  filed : ∀ entry ∈ m, entry.2 ≠ []

/-- The multimap of pairs that are filed one after the other. -/
def ofPairs (pairs : List (String × String)) : Multimap :=
  pairs.foldl (fun m pair => m.add pair.1 pair.2) []

/-- The entry of texts that are filed under one name. Without texts there is none. -/
def filed? (texts : List String) : Option (List String) :=
  if texts.isEmpty then none else some texts

/-- Filing a text adds its name at the end, unless it is there. -/
theorem names_add (m : Multimap) (name text : String) :
    Table.names (m.add name text) =
      if name ∈ Table.names m then Table.names m else Table.names m ++ [name] := by
  induction m with
  | nil => rfl
  | cons entry rest ih =>
    obtain ⟨other, texts⟩ := entry
    by_cases h : other = name
    · subst h
      simp [add, Table.names]
    · have h' : ¬ name = other := fun e => h e.symm
      simp only [Table.names] at ih
      simp only [add, if_neg h, Table.names, List.map_cons, ih, List.mem_cons, h', false_or]
      by_cases hmem : name ∈ List.map Prod.fst rest <;> simp [hmem]

theorem filed_add {m : Multimap} (h : ∀ entry ∈ m, entry.2 ≠ []) (name text : String) :
    ∀ entry ∈ m.add name text, entry.2 ≠ [] := by
  induction m with
  | nil => simp [add]
  | cons first rest ih =>
    obtain ⟨other, texts⟩ := first
    intro entry hentry
    rw [add] at hentry
    split at hentry
    · rcases List.mem_cons.mp hentry with rfl | hentry
      · simp
      · exact h entry (List.mem_cons_of_mem _ hentry)
    · rcases List.mem_cons.mp hentry with rfl | hentry
      · exact h _ List.mem_cons_self
      · exact ih (fun e he => h e (List.mem_cons_of_mem _ he)) entry hentry

/-- A name that does not stand in the first part of a multimap is looked for in the second. -/
theorem append_add {m : Multimap} {name : String} (h : name ∉ Table.names m) (rest : Multimap)
    (text : String) : Multimap.add (m ++ rest) name text = m ++ Multimap.add rest name text := by
  induction m with
  | nil => rfl
  | cons entry others ih =>
    obtain ⟨other, texts⟩ := entry
    simp only [Table.names, List.map_cons, List.mem_cons, not_or] at h ih
    rw [List.cons_append, add, if_neg (Ne.symm h.1), ih h.2]
    rfl

/-- Texts of one name go behind the texts that it has. -/
theorem foldl_add_texts {m : Multimap} {name : String} (h : name ∉ Table.names m)
    (before texts : List String) :
    (texts.map fun text => (name, text)).foldl (fun m pair => m.add pair.1 pair.2)
        (m ++ [(name, before)]) = m ++ [(name, before ++ texts)] := by
  induction texts generalizing before with
  | nil => simp
  | cons text rest ih =>
    rw [List.map_cons, List.foldl_cons, append_add h]
    simp only [add, if_true]
    rw [ih, List.append_assoc]
    rfl

namespace Proper

variable {m m' : Multimap}

theorem nil : Proper [] where
  distinct := List.nodup_nil
  filed := by simp

/-- Filing a text repeats no name and leaves none without texts. -/
theorem add (h : m.Proper) (name text : String) : (m.add name text).Proper where
  distinct := by
    rw [names_add]
    split
    · exact h.distinct
    · next hname => exact List.nodup_append_comm.mp (List.nodup_cons.mpr ⟨hname, h.distinct⟩)
  filed := filed_add h.filed name text

/-- Filing the pairs again behind other names gives the multimap back. -/
theorem foldl_pairs (h : m.Proper) (before : Multimap)
    (hbefore : ∀ name ∈ Table.names m, name ∉ Table.names before) :
    m.pairs.foldl (fun m pair => m.add pair.1 pair.2) before = before ++ m := by
  -- entry by entry, where the entries so far are `before` and have other names
  induction m generalizing before with
  | nil => simp [pairs]
  | cons entry rest ih =>
    obtain ⟨name, texts⟩ := entry
    have hdistinct := h.distinct
    simp only [Table.names, List.map_cons, List.nodup_cons] at hdistinct
    have hname : name ∉ Table.names before := hbefore name List.mem_cons_self
    have hrest : Proper rest :=
      ⟨hdistinct.2, fun entry hentry => h.filed entry (List.mem_cons_of_mem _ hentry)⟩
    cases texts with
    | nil => exact absurd rfl (h.filed _ List.mem_cons_self)
    | cons text others =>
      have hfirst : Multimap.add before name text = before ++ [(name, [text])] := by
        have := append_add hname [] text
        rwa [List.append_nil] at this
      -- the name just filed is not among those that follow
      have hnext : ∀ other ∈ Table.names rest,
          other ∉ Table.names (before ++ [(name, text :: others)]) := by
        intro other hother hmem
        simp only [Table.names, List.map_append, List.map_cons, List.map_nil, List.mem_append,
          List.mem_singleton] at hmem
        rcases hmem with hmem | rfl
        · exact hbefore other (List.mem_cons_of_mem _ hother) hmem
        · exact hdistinct.1 hother
      have htexts := foldl_add_texts hname [text] others
      simp only [pairs] at ih ⊢
      rw [List.flatMap_cons, List.foldl_append, List.map_cons, List.foldl_cons, hfirst, htexts]
      change List.foldl _ (before ++ [(name, text :: others)]) _ = _
      rw [ih hrest _ hnext, List.append_assoc]
      rfl

theorem ofPairs_pairs (h : m.Proper) : ofPairs m.pairs = m :=
  h.foldl_pairs [] fun _ _ => List.not_mem_nil

/-- A look-up finds the texts of a name, or nothing if there are none. -/
theorem get?_eq (h : m.Proper) (name : String) :
    m.get? name = filed? ((m.get? name).getD []) := by
  cases hget : m.get? name with
  | none => rfl
  | some texts =>
    have hfiled : texts ≠ [] := h.filed _ (Table.mem_of_get? hget)
    rw [Option.getD_some, filed?, if_neg]
    rwa [List.isEmpty_iff]

/-- The pairs of a multimap say all about it. -/
theorem eq_of_pairs (h : m.Proper) (h' : m'.Proper) (hpairs : m.pairs = m'.pairs) : m = m' := by
  rw [← h.ofPairs_pairs, hpairs, h'.ofPairs_pairs]

end Proper

/-- Filing more pairs adds the texts of those that have the name. -/
theorem getD_foldl_add (pairs : List (String × String)) (m : Multimap) (name : String) :
    ((pairs.foldl (fun m pair => m.add pair.1 pair.2) m).get? name).getD [] =
      (m.get? name).getD [] ++ (pairs.filter fun pair => pair.1 = name).map Prod.snd := by
  induction pairs generalizing m with
  | nil => simp
  | cons pair rest ih =>
    rw [List.foldl_cons, ih, get?_add]
    by_cases h : pair.1 = name
    · simp [h]
    · simp [h]

theorem proper_foldl_add {m : Multimap} (h : m.Proper) (pairs : List (String × String)) :
    Proper (pairs.foldl (fun m pair => m.add pair.1 pair.2) m) := by
  induction pairs generalizing m with
  | nil => exact h
  | cons pair rest ih => exact ih (h.add pair.1 pair.2)

/-- A multimap that is built from pairs repeats no name and has texts for each. -/
theorem proper_ofPairs (pairs : List (String × String)) : (ofPairs pairs).Proper :=
  proper_foldl_add .nil pairs

/-- Pairs that are filed are found by their names, in order. -/
theorem get?_ofPairs (pairs : List (String × String)) (name : String) :
    (ofPairs pairs).get? name =
      filed? ((pairs.filter fun pair => pair.1 = name).map Prod.snd) := by
  rw [(proper_ofPairs pairs).get?_eq name]
  exact congrArg filed? (getD_foldl_add pairs [] name)

end Multimap

/-! ## Things that were built step by step -/

/-- How many play the role. -/
def Relation.playerCount (r : Relation) (role : String) : Nat := ((r.players? role).getD []).length

/-- An entity that was made and then given attribute values. -/
inductive Entity.Built : Entity → Prop where
  /-- it has no attributes at first -/
  | new (var typeName : String) : Built { var, typeName }
  | addAttribute {e : Entity} (name value : String) : Built e → Built (e.addAttribute name value)

/-- A relation that was made and then given attribute values and players. -/
inductive Relation.Built : Relation → Prop where
  /-- it has no attributes and no players at first -/
  | new (var typeName : String) : Built { var, typeName }
  | addAttribute {r : Relation} (name value : String) : Built r → Built (r.addAttribute name value)
  | addPlayer {r : Relation} (role player : String) : Built r → Built (r.addPlayer role player)

/-- A thing that was built step by step. -/
inductive Thing.Built : Thing → Prop where
  | entity {e : Entity} : e.Built → Built (.entity e)
  | relation {r : Relation} : r.Built → Built (.relation r)

/-- An attribute that is ignored changes nothing, and any other one is filed. -/
theorem Attributes.proper_add {a : Attributes} (h : Multimap.Proper a) (name value : String) :
    Multimap.Proper (a.add name value) := by
  rw [add]
  split
  · exact h
  · exact h.add name value

theorem Attributes.proper_addAll {a : Attributes} (h : Multimap.Proper a) (name : String)
    (values : List String) : Multimap.Proper (a.addAll name values) := by
  induction values generalizing a with
  | nil => exact h
  | cons value rest ih => exact ih (proper_add h name value)

/-- The attributes of an entity that was built step by step repeat no name. -/
theorem Entity.Built.proper {e : Entity} (h : e.Built) : Multimap.Proper e.attributes := by
  induction h with
  | new => exact .nil
  | addAttribute name value _ ih => exact Attributes.proper_add ih name value

theorem Relation.Built.proper {r : Relation} (h : r.Built) :
    Multimap.Proper r.attributes ∧ Multimap.Proper r.roles := by
  induction h with
  | new => exact ⟨.nil, .nil⟩
  | addAttribute name value _ ih => exact ⟨Attributes.proper_add ih.1 name value, ih.2⟩
  | addPlayer role player _ ih => exact ⟨ih.1, ih.2.add role player⟩

end ThreatGraph
