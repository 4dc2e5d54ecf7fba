/-!
# Tables: named entries in order

A table is an association list. Names keep the place at which they first came, which is the
order in which a table is written out again; a later entry of the same name replaces the
earlier one there. Look-ups see the first entry of a name, so on tables built by `set` they
see the only one.
-/

namespace ThreatGraph

/-- Named entries in the order in which their names first came. -/
abbrev Table (α : Type) := List (String × α)

namespace Table

variable {α : Type}

/-- The entry filed under `name`. -/
def get? (t : Table α) (name : String) : Option α := t.lookup name

/-- Whether an entry is filed under `name`. -/
def contains (t : Table α) (name : String) : Bool := (t.get? name).isSome

/-- The names in order. -/
def names (t : Table α) : List String := t.map Prod.fst

/-- Files `value` under `name`. A name that is there keeps its place, a new one goes last. -/
def set : Table α → String → α → Table α
  | [], name, value => [(name, value)]
  | (other, old) :: rest, name, value =>
    if other = name then (name, value) :: rest else (other, old) :: set rest name value

/-- The table of `pairs`, where a repeated name has the last of its entries. -/
def ofPairs (pairs : List (String × α)) : Table α :=
  pairs.foldl (fun t entry => t.set entry.1 entry.2) []

/-- Takes the entry of `name` out and moves the last entry into the gap. -/
def swapErase (t : Table α) (name : String) : Table α :=
  match t.getLast? with
  | none => []
  | some last =>
    if t.contains name then
      t.dropLast.map fun entry => if entry.1 = name then last else entry
    else t

/-! ## Look-ups -/

@[simp] theorem get?_nil (name : String) : get? ([] : Table α) name = none := rfl

/-- What is looked for is the first entry or is found behind it. -/
theorem get?_cons (entry : String × α) (t : Table α) (name : String) :
    get? (entry :: t) name = if entry.1 = name then some entry.2 else t.get? name := by
  obtain ⟨other, value⟩ := entry
  by_cases h : other = name
  · subst h; simp [get?]
  · have : (name == other) = false := by simpa using fun e => h e.symm
    simp [get?, List.lookup_cons, this, h]

/-- What is found is an entry of the table. -/
theorem mem_of_get? {t : Table α} {name : String} {a : α} (h : t.get? name = some a) :
    (name, a) ∈ t := by
  induction t with
  | nil => cases h
  | cons entry rest ih =>
    rw [get?_cons] at h
    split at h
    · next hname =>
      obtain rfl := Option.some.inj h
      rw [← hname]
      exact List.mem_cons_self
    · exact List.mem_cons_of_mem _ (ih h)

/-- What is set is found, and nothing else is found differently. -/
theorem get?_set (t : Table α) (name other : String) (value : α) :
    (t.set name value).get? other = if name = other then some value else t.get? other := by
  induction t with
  | nil => simp [set, get?_cons]
  | cons entry rest ih =>
    obtain ⟨key, old⟩ := entry
    by_cases h : key = name
    · subst h
      simp only [set, if_true, get?_cons]
      split <;> rfl
    · simp only [set, if_neg h, get?_cons, ih]
      by_cases hk : key = other
      · subst hk
        simp [Ne.symm h]
      · simp [hk]

/-- Setting a name adds it at the end, unless it is there. -/
theorem names_set (t : Table α) (name : String) (value : α) :
    (t.set name value).names = if name ∈ t.names then t.names else t.names ++ [name] := by
  induction t with
  | nil => simp [set, names]
  | cons entry rest ih =>
    obtain ⟨key, old⟩ := entry
    by_cases h : key = name
    · subst h; simp [set, names]
    · have h' : ¬ name = key := fun e => h e.symm
      simp only [names] at ih
      simp only [set, if_neg h, names, List.map_cons, ih, List.mem_cons, h', false_or]
      by_cases hm : name ∈ List.map Prod.fst rest <;> simp [hm]

end Table

end ThreatGraph
