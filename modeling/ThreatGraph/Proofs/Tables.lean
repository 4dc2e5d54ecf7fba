import Mathlib.Data.List.Nodup
import ThreatGraph.Table

/-!
# Tables that repeat no name

A look-up sees the first entry of a name. Where no name is repeated it sees every entry, so it says
what the entries are and does not hang on their order (`get?_perm`). Tables that are put together
entry by entry, where a later entry replaces an earlier one, repeat no name (`nodup_ofPairs`).

Both ways to change a table are covered: setting an entry, which replaces it in place or appends it,
and taking one out, where the last entry moves into its place (`swapErase_perm`).
-/

namespace ThreatGraph.Table

variable {α : Type} {t t' : Table α} {name : String} {a : α}

/-- Something is found exactly under the names of a table. -/
theorem isSome_get?_iff : (t.get? name).isSome = true ↔ name ∈ t.names := by
  induction t with
  | nil => simp [names]
  | cons entry rest ih =>
    rw [get?_cons, names, List.map_cons, List.mem_cons]
    by_cases h : entry.1 = name
    · simp [h]
    · rw [if_neg h, ih]
      exact ⟨.inr, fun hor => hor.resolve_left (Ne.symm h)⟩

theorem contains_iff : t.contains name = true ↔ name ∈ t.names := isSome_get?_iff

/-- Nothing is found exactly under other names. -/
theorem get?_eq_none_iff : t.get? name = none ↔ name ∉ t.names := by
  rw [← Option.not_isSome_iff_eq_none, isSome_get?_iff]

/-- A name has an entry. -/
theorem mem_names_iff : name ∈ t.names ↔ ∃ a, (name, a) ∈ t := by
  simp [names]

/-- The entries of a table that repeats no name are what look-ups see. -/
theorem get?_eq_some_iff (h : t.names.Nodup) : t.get? name = some a ↔ (name, a) ∈ t := by
  refine ⟨mem_of_get?, fun hmem => ?_⟩
  induction t with
  | nil => exact absurd hmem List.not_mem_nil
  | cons entry rest ih =>
    obtain ⟨hfirst, hrest⟩ := List.nodup_cons.mp h
    rw [get?_cons]
    rcases List.mem_cons.mp hmem with rfl | hmem
    · exact if_pos rfl
    · have hne : entry.1 ≠ name := fun heq =>
        hfirst (heq ▸ mem_names_iff.mpr ⟨a, hmem⟩)
      rw [if_neg hne, ih hrest hmem]

/-- Look-ups do not hang on the order of entries. -/
theorem get?_perm (h : t.names.Nodup) (hperm : t.Perm t') (name : String) :
    t.get? name = t'.get? name := by
  have h' : t'.names.Nodup := (hperm.map Prod.fst).nodup_iff.mp h
  refine Option.ext fun a => ?_
  rw [get?_eq_some_iff h, get?_eq_some_iff h', hperm.mem_iff]

/-- A name that is new can be added without repeating one. -/
theorem nodup_concat (h : t.names.Nodup) (hname : name ∉ t.names) (a : α) :
    (names (t ++ [(name, a)])).Nodup := by
  rw [names, List.map_append]
  exact List.nodup_append_comm.mp (List.nodup_cons.mpr ⟨hname, h⟩)

/-- What comes later is not there yet. -/
theorem not_mem_names_of_nodup (h : (names (t ++ (name, a) :: t')).Nodup) : name ∉ t.names := by
  rw [names, List.map_append, List.map_cons] at h
  exact fun hmem => (List.nodup_append.mp h).2.2 _ hmem _ List.mem_cons_self rfl

theorem nodup_set (h : t.names.Nodup) (name : String) (a : α) : (t.set name a).names.Nodup := by
  rw [names_set]
  split
  · exact h
  · next hname =>
    have hconcat := nodup_concat h hname a
    rwa [names, List.map_append] at hconcat

/-- A table that is made of pairs repeats no name, as the last of several entries stands. -/
theorem nodup_ofPairs (pairs : List (String × α)) : (ofPairs pairs).names.Nodup := by
  have hfold : ∀ t : Table α, t.names.Nodup →
      (names (pairs.foldl (fun t entry => t.set entry.1 entry.2) t)).Nodup := by
    induction pairs with
    | nil => exact fun _ ht => ht
    | cons pair rest ih => exact fun t ht => ih _ (nodup_set ht pair.1 pair.2)
  exact hfold [] List.nodup_nil

/-- What is in the table after a name was set is its entry, or was there before. -/
theorem mem_set {entry : String × α} (h : entry ∈ t.set name a) :
    entry = (name, a) ∨ entry ∈ t := by
  induction t with
  | nil => exact .inl (List.mem_singleton.mp h)
  | cons first rest ih =>
    rw [set] at h
    split at h
    · rcases List.mem_cons.mp h with rfl | h
      · exact .inl rfl
      · exact .inr (List.mem_cons_of_mem _ h)
    · rcases List.mem_cons.mp h with rfl | h
      · exact .inr List.mem_cons_self
      · exact (ih h).imp_right (List.mem_cons_of_mem _)

/-- No entry is made up. -/
theorem mem_ofPairs {pairs : List (String × α)} {entry : String × α} (h : entry ∈ ofPairs pairs) :
    entry ∈ pairs := by
  have hfold : ∀ t : Table α, entry ∈ pairs.foldl (fun t entry => t.set entry.1 entry.2) t →
      entry ∈ t ∨ entry ∈ pairs := by
    clear h
    induction pairs with
    | nil => exact fun _ ht => .inl ht
    | cons pair rest ih =>
      intro t ht
      rcases ih _ ht with hset | hrest
      · rcases mem_set hset with rfl | hmem
        · exact .inr List.mem_cons_self
        · exact .inl hmem
      · exact .inr (List.mem_cons_of_mem _ hrest)
  exact (hfold [] h).resolve_left List.not_mem_nil

/-- Nothing changes if an entry is set to what it is. -/
theorem set_eq_self (h : t.get? name = some a) : t.set name a = t := by
  induction t with
  | nil => cases h
  | cons entry rest ih =>
    rw [get?_cons] at h
    rw [set]
    split
    · next hname =>
      rw [if_pos hname] at h
      rw [← hname, ← Option.some.inj h]
    · next hname =>
      rw [if_neg hname] at h
      rw [ih h]

/-- A new entry goes last. -/
theorem set_eq_append (h : t.get? name = none) (a : α) : t.set name a = t ++ [(name, a)] := by
  induction t with
  | nil => rfl
  | cons entry rest ih =>
    rw [get?_cons] at h
    rw [set]
    split
    · next hname =>
      rw [if_pos hname] at h
      cases h
    · next hname =>
      rw [if_neg hname] at h
      rw [ih h, List.cons_append]

/-- Of two entries that are set the later one stays. -/
theorem set_set (t : Table α) (name : String) (a b : α) :
    (t.set name a).set name b = t.set name b := by
  induction t with
  | nil => exact if_pos rfl
  | cons entry rest ih =>
    by_cases hname : entry.1 = name
    · simp only [set, if_pos hname, if_true]
    · simp only [set, if_neg hname, ih]

/-! ## Entries that are taken out -/

/-- There is nothing to leave out under a name that is not there. -/
theorem filter_ne_eq_self (h : name ∉ t.names) : (t.filter fun entry => entry.1 ≠ name) = t := by
  apply List.filter_eq_self.mpr
  intro entry hentry
  exact decide_eq_true fun hname => h (hname ▸ List.mem_map_of_mem hentry)

theorem map_replace_eq_self (h : name ∉ t.names) (last : String × α) :
    (t.map fun entry => if entry.1 = name then last else entry) = t := by
  have hsame : ∀ entry ∈ t, (if entry.1 = name then last else entry) = entry := by
    intro entry hentry
    exact if_neg fun hname : entry.1 = name => h (hname ▸ List.mem_map_of_mem hentry)
  exact (List.map_congr_left hsame).trans (List.map_id t)

theorem swapErase_eq_self (h : name ∉ t.names) : t.swapErase name = t := by
  unfold swapErase
  split
  · next hnone => exact (List.getLast?_eq_none_iff.mp hnone).symm
  · exact if_neg fun hname => h (contains_iff.mp hname)

/-- An entry that is replaced is taken out, and the one that replaces it is put in. -/
theorem map_replace_perm (h : t.names.Nodup) (hname : name ∈ t.names) (last : String × α) :
    (t.map fun entry => if entry.1 = name then last else entry).Perm
      ((t.filter fun entry => entry.1 ≠ name) ++ [last]) := by
  obtain ⟨a, ha⟩ := mem_names_iff.mp hname
  obtain ⟨before, after, rfl⟩ := List.append_of_mem ha
  have hbefore := not_mem_names_of_nodup h
  have hafter : name ∉ names after := by
    rw [names, List.map_append, List.map_cons] at h
    exact (List.nodup_cons.mp (List.nodup_append.mp h).2.1).1
  have hleft : ((before ++ (name, a) :: after).filter fun entry => entry.1 ≠ name) =
      before ++ after := by
    rw [List.filter_append, filter_ne_eq_self hbefore, List.filter_cons, filter_ne_eq_self hafter]
    simp
  rw [List.map_append, List.map_cons, if_pos rfl, map_replace_eq_self hbefore,
    map_replace_eq_self hafter, hleft]
  exact List.perm_middle.trans (List.perm_append_singleton _ _).symm

/-- What is left are the other entries, though the last one may stand in the gap. -/
theorem swapErase_perm (h : t.names.Nodup) (name : String) :
    (t.swapErase name).Perm (t.filter fun entry => entry.1 ≠ name) := by
  by_cases hname : name ∈ t.names
  · rcases List.eq_nil_or_concat t with rfl | ⟨init, last, rfl⟩
    · exact .nil
    rw [List.concat_eq_append] at h hname ⊢
    rw [swapErase, List.getLast?_concat]
    dsimp only
    rw [if_pos (contains_iff.mpr hname), List.dropLast_concat, List.filter_append]
    rw [names, List.map_append, List.mem_append] at hname
    by_cases hlast : last.1 = name
    -- there is no gap
    · obtain rfl := hlast
      have hinit := not_mem_names_of_nodup h
      rw [map_replace_eq_self hinit, filter_ne_eq_self hinit]
      simp
    · have hinit : name ∈ names init := hname.resolve_right fun hmem =>
        hlast (List.mem_singleton.mp hmem).symm
      have hkept : ([last].filter fun entry => entry.1 ≠ name) = [last] := by simp [hlast]
      rw [hkept]
      rw [names, List.map_append] at h
      exact map_replace_perm (List.nodup_append.mp h).1 hinit last
  · rw [swapErase_eq_self hname, filter_ne_eq_self hname]

theorem nodup_swapErase (h : t.names.Nodup) (name : String) : (t.swapErase name).names.Nodup := by
  have hperm := (swapErase_perm h name).map Prod.fst
  exact hperm.nodup_iff.mpr (h.sublist (List.filter_sublist.map Prod.fst))

/-- What was taken out is not found any more, and all else is. -/
theorem get?_swapErase (h : t.names.Nodup) (name other : String) :
    (t.swapErase name).get? other = if other = name then none else t.get? other := by
  ext a
  rw [get?_eq_some_iff (nodup_swapErase h name), (swapErase_perm h name).mem_iff, List.mem_filter]
  split
  · next heq => simp [heq]
  · next hne => simp [hne, get?_eq_some_iff h]

theorem mem_names_swapErase (h : t.names.Nodup) (name other : String) :
    other ∈ (t.swapErase name).names ↔ other ∈ t.names ∧ other ≠ name := by
  rw [← isSome_get?_iff, ← isSome_get?_iff, get?_swapErase h]
  split
  · next heq => simp [heq]
  · next hne => simp [hne]

end ThreatGraph.Table
