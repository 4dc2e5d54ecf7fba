import Mathlib.Data.List.Dedup
import ThreatGraph.Proofs.Equality

/-!
# What multimaps record

A multimap is built by filing pairs one after the other. What it is in the end can be told from the
pairs alone (`Multimap.Records`): which names it lists and in which order, and which texts each of
them has. The order of names is the invariant of a run (`Multimap.Firsts`); the rest is what
look-ups see.

Attributes pass over pairs that lack a name or a value, players of a relation are never passed over
(`Multimap.calls_recorded`).
-/

namespace ThreatGraph

namespace Multimap

/-! ## The order of names -/

/-- The names are those that were given, in the order in which each came first. -/
structure Firsts (names given : List String) : Prop where
  mem_iff (name : String) : name ∈ names ↔ name ∈ given
  inOrder : names.Pairwise fun a b => given.idxOf a < given.idxOf b

namespace Firsts

variable {names given : List String}

theorem nil : Firsts [] [] where
  mem_iff _ := Iff.rfl
  inOrder := .nil

/-- No name stands in two places, as it came first only once. -/
theorem nodup (h : Firsts names given) : names.Nodup := by
  refine h.inOrder.imp fun hlt heq => ?_
  rw [heq] at hlt
  exact Nat.lt_irrefl _ hlt

/-- A name that is given again changes nothing, and a new one goes last. -/
theorem concat (h : Firsts names given) (name : String) :
    Firsts (if name ∈ names then names else names ++ [name]) (given ++ [name]) := by
  -- what was given before keeps its place
  have hplace : ∀ a ∈ names, (given ++ [name]).idxOf a = given.idxOf a := fun a ha =>
    List.idxOf_append_of_mem ((h.mem_iff a).mp ha)
  have hkept : names.Pairwise fun a b => (given ++ [name]).idxOf a < (given ++ [name]).idxOf b := by
    refine h.inOrder.imp_of_mem fun {a b} ha hb hlt => ?_
    rw [hplace a ha, hplace b hb]
    exact hlt
  split
  · next hmem =>
    refine ⟨fun other => ?_, hkept⟩
    rw [h.mem_iff, List.mem_append, List.mem_singleton]
    refine ⟨.inl, fun hor => hor.elim id ?_⟩
    rintro rfl
    exact (h.mem_iff _).mp hmem
  · next hnew =>
    have hnew : name ∉ given := fun hmem => hnew ((h.mem_iff name).mpr hmem)
    refine ⟨fun other => ?_, List.pairwise_append.mpr ⟨hkept, List.pairwise_singleton _ _, ?_⟩⟩
    · rw [List.mem_append, List.mem_append, h.mem_iff]
    · intro a ha b hb
      obtain rfl := List.mem_singleton.mp hb
      rw [hplace a ha, List.idxOf_append_of_notMem hnew]
      exact Nat.lt_add_right _ (List.idxOf_lt_length_of_mem ((h.mem_iff a).mp ha))

end Firsts

/-- Filing pairs keeps the names in the order in which they came first. -/
theorem firsts_foldl_add {m : Multimap} {given : List String} (h : Firsts (Table.names m) given)
    (pairs : List (String × String)) :
    Firsts (Table.names (pairs.foldl (fun m pair => Multimap.add m pair.1 pair.2) m))
      (given ++ pairs.map Prod.fst) := by
  induction pairs generalizing m given with
  | nil => simpa using h
  | cons pair rest ih =>
    have hfirst : Firsts (Table.names (m.add pair.1 pair.2)) (given ++ [pair.1]) := by
      rw [names_add]
      exact h.concat pair.1
    simpa using ih hfirst

/-- Names of what was filed stand in the order in which each came first. -/
theorem firsts_ofPairs (pairs : List (String × String)) :
    Firsts (Table.names (ofPairs pairs)) (pairs.map Prod.fst) := by
  simpa [ofPairs] using firsts_foldl_add (m := []) .nil pairs

/-! ## What is recorded -/

/-- The texts that the pairs have for a name, in their order. -/
def textsFor (pairs : List (String × String)) (name : String) : List String :=
  (pairs.filter fun pair => pair.1 = name).map Prod.snd

/-- The multimap says what the pairs say that were filed one after the other. -/
structure Records (m : Multimap) (pairs : List (String × String)) : Prop where
  /-- no name is listed twice -/
  distinct : (Table.names m).Nodup
  /-- names are listed in the order in which they came first -/
  firsts : Firsts (Table.names m) (pairs.map Prod.fst)
  /-- with each name its texts are listed, of which there is one at least -/
  listed : ∀ entry ∈ m, entry.2 = textsFor pairs entry.1 ∧ entry.2 ≠ []
  /-- the texts of a name are found, and nothing is found if it has none -/
  found (name : String) : m.get? name = filed? (textsFor pairs name)
  /-- there are as many entries as different names -/
  counted : m.length = (pairs.map Prod.fst).dedup.length
  /-- there is no entry only if no pair was filed -/
  isEmpty_iff : m.isEmpty = true ↔ pairs = []

/-- What was filed is what is recorded, and nothing else. -/
theorem records_ofPairs (pairs : List (String × String)) : (ofPairs pairs).Records pairs := by
  have hproper := proper_ofPairs pairs
  have hfirsts := firsts_ofPairs pairs
  have hdistinct := hfirsts.nodup
  have hfound := get?_ofPairs pairs
  have hperm : (Table.names (ofPairs pairs)).Perm (pairs.map Prod.fst).dedup := by
    refine (List.perm_ext_iff_of_nodup hdistinct (List.nodup_dedup _)).mpr fun name => ?_
    rw [hfirsts.mem_iff, List.mem_dedup]
  have hlength : (ofPairs pairs).length = (Table.names (ofPairs pairs)).length :=
    (List.length_map _).symm
  refine ⟨hdistinct, hfirsts, fun entry hentry => ⟨?_, hproper.filed entry hentry⟩, hfound,
    hlength.trans hperm.length_eq, ?_⟩
  · have hget := (hfound entry.1).symm.trans ((Table.get?_eq_some_iff hdistinct).mpr hentry)
    rw [filed?] at hget
    split at hget
    · cases hget
    · exact (Option.some.inj hget).symm
  · rw [List.isEmpty_iff_length_eq_zero, hlength, hperm.length_eq, List.length_eq_zero_iff,
      List.dedup_eq_nil, List.map_eq_nil_iff]

end Multimap

/-! ## Calls that add something -/

/-- The pairs that are attributes: neither the name nor the value lacks characters. -/
def Attributes.accepted (pairs : List (String × String)) : List (String × String) :=
  pairs.filter fun pair => !(pair.1.isEmpty || pair.2.isEmpty)

/-- A relation to which players are added one after the other. -/
def Relation.withPlayers (r : Relation) (pairs : List (String × String)) : Relation :=
  pairs.foldl (fun r pair => r.addPlayer pair.1 pair.2) r

/-- Adding players to a relation files them under their roles. -/
theorem Relation.roles_withPlayers (r : Relation) (pairs : List (String × String)) :
    (r.withPlayers pairs).roles = pairs.foldl (fun m pair => m.add pair.1 pair.2) r.roles := by
  rw [withPlayers]
  induction pairs generalizing r with
  | nil => rfl
  | cons pair rest ih => exact ih (r.addPlayer pair.1 pair.2)

/-- Attributes are accepted unless their name or their value is empty. -/
theorem Attributes.mem_accepted {pairs : List (String × String)} {pair : String × String} :
    pair ∈ accepted pairs ↔ pair ∈ pairs ∧ pair.1 ≠ "" ∧ pair.2 ≠ "" := by
  simp [accepted]

/-- **Multimaps record the calls that build them.** Whatever attribute values are added, attributes
record those that have a name and a value, and none that lacks either. Whatever players are added to
a relation that had none, its roles record all of them. -/
theorem Multimap.calls_recorded (pairs : List (String × String)) :
    let a := Attributes.ofPairs pairs
    (a.Records (Attributes.accepted pairs) ∧
        ∀ entry ∈ a, entry.1 ≠ "" ∧ ∀ value ∈ entry.2, value ≠ "") ∧
      ∀ (var typeName : String) (attributes : Attributes),
        let r := Relation.withPlayers { var, typeName, attributes } pairs
        r.roles.Records pairs ∧
          (∀ role, r.players? role = filed? (textsFor pairs role)) ∧
          (r.hasRoles = true ↔ pairs ≠ []) := by
  intro a
  constructor
  · have hrecords : a.Records (Attributes.accepted pairs) := by
      rw [show a = _ from Attributes.ofPairs_eq pairs]
      exact records_ofPairs _
    refine ⟨hrecords, fun entry hentry => ?_⟩
    obtain ⟨htexts, hfiled⟩ := hrecords.listed entry hentry
    have hvalue : ∀ value ∈ entry.2, entry.1 ≠ "" ∧ value ≠ "" := by
      intro value hmem
      rw [htexts, textsFor, List.mem_map] at hmem
      obtain ⟨pair, hpair, rfl⟩ := hmem
      obtain ⟨hpair, hname⟩ := List.mem_filter.mp hpair
      rw [← of_decide_eq_true hname]
      exact (Attributes.mem_accepted.mp hpair).2
    -- a name is listed only because some value was accepted for it
    obtain ⟨value, hmem⟩ := List.exists_mem_of_ne_nil _ hfiled
    exact ⟨(hvalue value hmem).1, fun value hmem => (hvalue value hmem).2⟩
  · intro var typeName attributes r
    have hroles : r.roles = ofPairs pairs := Relation.roles_withPlayers _ pairs
    have hrecords : r.roles.Records pairs := hroles ▸ records_ofPairs pairs
    refine ⟨hrecords, hrecords.found, ?_⟩
    rw [Relation.hasRoles, Bool.not_eq_true', ← Bool.not_eq_true, hrecords.isEmpty_iff]

/-- Names keep the place at which they came first, though more values come for them later. -/
example :
    Attributes.ofPairs [("alias", "\"a\""), ("name", ""), ("name", "\"n\""), ("", "\"x\""),
      ("alias", "\"b\"")] = [("alias", ["\"a\"", "\"b\""]), ("name", ["\"n\""])] := by
  decide

end ThreatGraph
