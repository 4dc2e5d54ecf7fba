import ThreatGraph.Proofs.Success

/-!
# Renaming variables

Nothing that a conversion does hangs on what a variable is called. A conversion that starts with
other variables takes the same way, fails with the same defect if it fails, and else gives the
same result up to the names (`convertValue_follows`, `Subject.property_follows`).

The other names come from a `Shift`: from some number on, every variable moves by a fixed number
of places, as it does when a computation before has used up that many variables in vain.
-/

namespace ThreatGraph

/-! ## Renaming in graphs and drafts -/

/-- The reference with another variable. -/
def Reference.rename (ρ : String → String) (r : Reference) : Reference :=
  { r with var := r.var.map ρ }

/-- The multimap with other texts under the same names. -/
def Multimap.mapTexts (ρ : String → String) (m : Multimap) : Multimap :=
  m.map fun entry => (entry.1, entry.2.map ρ)

/-- The entity under another variable. -/
def Entity.rename (ρ : String → String) (e : Entity) : Entity := { e with var := ρ e.var }

/-- The relation under another variable, with its players renamed too. -/
def Relation.rename (ρ : String → String) (r : Relation) : Relation :=
  { r with var := ρ r.var, roles := r.roles.mapTexts ρ }

/-- The thing under another variable. -/
def Thing.rename (ρ : String → String) : Thing → Thing
  | .entity e => .entity (e.rename ρ)
  | .relation r => .relation (r.rename ρ)

/-- The statement about renamed things. -/
def Statement.rename (ρ : String → String) (s : Statement) : Statement :=
  ⟨s.matched.map (Thing.rename ρ), s.inserted.map (Thing.rename ρ)⟩

/-- The statements, each of them renamed. -/
def OrderedStatements.rename (ρ : String → String) (s : OrderedStatements) :
    OrderedStatements where
  entities := s.entities.map (Statement.rename ρ)
  relations := s.relations.map (Statement.rename ρ)
  embedded := s.embedded.map (Statement.rename ρ)

/-- The helper with its tie, both renamed. -/
def Helper.rename (ρ : String → String) (h : Helper) : Helper :=
  ⟨h.entity.rename ρ, h.relation.rename ρ⟩

/-- The link with both its ends, all renamed. -/
def Link.rename (ρ : String → String) (l : Link) : Link :=
  ⟨l.owner.rename ρ, l.target.rename ρ, l.relation.rename ρ⟩

/-- The helpers and links, each of them renamed. -/
def Attachments.rename (ρ : String → String) (a : Attachments) : Attachments :=
  ⟨a.helpers.map (Helper.rename ρ), a.links.map (Link.rename ρ)⟩

/-- The main thing with its players, all renamed. -/
def MainThing.rename (ρ : String → String) : MainThing → MainThing
  | .entity e => .entity (e.rename ρ)
  | .relation r players => .relation (r.rename ρ) (players.map (Entity.rename ρ))

/-- The draft with everything in it renamed. -/
def Draft.rename (ρ : String → String) (d : Draft) : Draft where
  toAttachments := d.toAttachments.rename ρ
  main := d.main.map (MainThing.rename ρ)

/-- What is converted for a renamed object. -/
def Owner.rename (ρ : String → String) (o : Owner) : Owner :=
  { o with reference := o.reference.rename ρ }

/-- The conversion of a value, renamed. -/
def Converted.rename (ρ : String → String) (c : Converted) : Converted :=
  { c with attachments := c.attachments.rename ρ }

/-- The conversion of several values, renamed. -/
def Gathered.rename (ρ : String → String) (g : Gathered) : Gathered :=
  { g with attachments := g.attachments.rename ρ }

/-- The conversion of properties, renamed. -/
def Collected.rename (ρ : String → String) (c : Collected) : Collected :=
  { c with attachments := c.attachments.rename ρ }

section Laws

variable (ρ : String → String)

/-- A text can be changed before it is added or afterwards. -/
@[simp] theorem Multimap.mapTexts_add (m : Multimap) (name text : String) :
    (m.add name text).mapTexts ρ = (m.mapTexts ρ).add name (ρ text) := by
  induction m with
  | nil => rfl
  | cons entry rest ih =>
    obtain ⟨other, texts⟩ := entry
    by_cases h : other = name
    · simp [add, mapTexts, h]
    · simp only [mapTexts] at ih
      simp [add, mapTexts, h, ih]

/-- What an entity has is no variable, and stays as it is. -/
@[simp] theorem Entity.rename_addAttribute (e : Entity) (name value : String) :
    (e.addAttribute name value).rename ρ = (e.rename ρ).addAttribute name value := rfl

@[simp] theorem Entity.rename_addAttributes (e : Entity) (name : String) (values : List String) :
    (e.addAttributes name values).rename ρ = (e.rename ρ).addAttributes name values := rfl

@[simp] theorem Relation.rename_addAttribute (r : Relation) (name value : String) :
    (r.addAttribute name value).rename ρ = (r.rename ρ).addAttribute name value := rfl

@[simp] theorem Relation.rename_addAttributes (r : Relation) (name : String)
    (values : List String) :
    (r.addAttributes name values).rename ρ = (r.rename ρ).addAttributes name values := rfl

/-- A player is a variable. -/
@[simp] theorem Relation.rename_addPlayer (r : Relation) (role player : String) :
    (r.addPlayer role player).rename ρ = (r.rename ρ).addPlayer role (ρ player) := by
  simp [addPlayer, rename]

/-- A tie names three variables: its own and those of both its ends. -/
@[simp] theorem HelperRelation.rename_tie (t : HelperRelation) (var owner helper : String) :
    (t.tie var owner helper).rename ρ = t.tie (ρ var) (ρ owner) (ρ helper) := by
  simp [tie, Relation.rename, Relation.addPlayer, Multimap.mapTexts, Multimap.add]
  split <;> simp

/-- What is attached is renamed one by one. -/
theorem Attachments.rename_append (a b : Attachments) :
    (a ++ b).rename ρ = a.rename ρ ++ b.rename ρ := by
  change Attachments.rename ρ (a.append b) = (a.rename ρ).append (b.rename ρ)
  simp [append, rename]

@[simp] theorem Attachments.isEmpty_rename (a : Attachments) :
    (a.rename ρ).isEmpty = a.isEmpty := by
  simp [isEmpty, rename]

/-- What is collected is renamed part by part. -/
theorem Collected.rename_append (a b : Collected) :
    (a ++ b).rename ρ = a.rename ρ ++ b.rename ρ := by
  change Collected.rename ρ (a.append b) = (a.rename ρ).append (b.rename ρ)
  simp [append, rename, Attachments.rename_append]

/-- Several attributes have no variables to rename either. -/
theorem Entity.rename_foldl_addAttributes (attributes : List (String × List String)) (e : Entity) :
    (attributes.foldl (fun e a => e.addAttributes a.1 a.2) e).rename ρ =
      attributes.foldl (fun e a => e.addAttributes a.1 a.2) (e.rename ρ) := by
  induction attributes generalizing e with
  | nil => rfl
  | cons a rest ih => simp only [List.foldl_cons, ih, rename_addAttributes]

end Laws

/-! ## Computations that follow one another -/

/-- A renaming that moves every variable from a number on by the same number of places, and takes
no text for no variable at all. -/
structure Shift where
  /-- what becomes of a name -/
  rename : String → String
  /-- the number of the first variable that moves -/
  start : Nat
  /-- the number of places -/
  width : Nat
  rename_nameOf : ∀ n, start ≤ n → rename (Variables.nameOf n) = Variables.nameOf (n + width)
  isEmpty_rename : ∀ x, (rename x).isEmpty = x.isEmpty

namespace Shift

/-- The supply with as many more variables handed out as the shift has places. -/
def move (σ : Shift) (v : Variables) : Variables := ⟨v.issued + σ.width⟩

/-- No variable moves. -/
def still : Shift where
  rename := id
  start := 0
  width := 0
  rename_nameOf _ _ := rfl
  isEmpty_rename _ := rfl

/-- Renaming what is known of an object is knowing it under the new name. -/
theorem rename_known (σ : Shift) (stixId typeName : Option String) (var : String) :
    (Reference.known stixId (some var) typeName).rename σ.rename =
      .known stixId (some (σ.rename var)) typeName := by
  simp only [Reference.known, Reference.rename, Option.filter_some, σ.isEmpty_rename]
  cases var.isEmpty <;> rfl

end Shift

namespace Naming

variable {ε ε' α α' β β' : Type} {σ : Shift} {f : α → α'} {g : β → β'}

/-- From any supply beyond the start of the shift, `y` does on the moved supply what `x` does on
the supply itself, but for `f` on the result. Neither takes a variable back. -/
def Follows (σ : Shift) (f : α → α') (x : Naming ε α) (y : Naming ε α') : Prop :=
  ∀ v, σ.start ≤ v.issued →
    v.issued ≤ (x.outcome v).2.issued ∧
      y.outcome (σ.move v) = ((x.outcome v).1.map f, σ.move (x.outcome v).2)

namespace Follows

theorem pure (a : α) : Follows σ f (pure a : Naming ε α) (pure (f a)) :=
  fun v _ => ⟨Nat.le_refl v.issued, rfl⟩

theorem pure_of {a : α} {b : α'} (h : f a = b) :
    Follows σ f (Pure.pure a : Naming ε α) (Pure.pure b) := h ▸ pure a

theorem throw (e : ε) : Follows σ f (throw e : Naming ε α) (throw e) :=
  fun v _ => ⟨Nat.le_refl v.issued, rfl⟩

theorem error (e : ε) : Follows σ f (ofExcept (.error e)) (ofExcept (.error e)) := .throw e

/-- The next variable is that of the moved supply, which the shift has renamed it to. -/
theorem fresh : Follows σ σ.rename (fresh : Naming ε String) fresh := by
  intro v hv
  refine ⟨Nat.le_succ v.issued, ?_⟩
  simp only [outcome_fresh, Except.map, σ.rename_nameOf v.issued hv]
  simp only [Shift.move, Nat.add_right_comm]

/-- Steps that follow steps follow them one after the other. -/
theorem bind {x : Naming ε α} {y : Naming ε α'} {k : α → Naming ε β} {l : α' → Naming ε β'}
    (hxy : Follows σ f x y) (hkl : ∀ a, Follows σ g (k a) (l (f a))) :
    Follows σ g (x >>= k) (y >>= l) := by
  intro v hv
  obtain ⟨hle, hy⟩ := hxy v hv
  -- the second part starts on supplies that are as far apart as those of the first
  rw [outcome_bind, outcome_bind, hy]
  rcases hx : x.outcome v with ⟨e | a, u⟩ <;> simp only [hx] at hle ⊢
  · exact ⟨hle, rfl⟩
  · obtain ⟨hle', hl⟩ := hkl a u (Nat.le_trans hv hle)
    exact ⟨Nat.le_trans hle hle', hl⟩

/-- What `y` succeeds with comes from what `x` succeeds with. -/
theorem ok_of_move {x : Naming ε α} {y : Naming ε α'} {v w : Variables} {b : α'}
    (hxy : Follows σ f x y) (hv : σ.start ≤ v.issued)
    (hy : y.outcome (σ.move v) = (.ok b, w)) :
    ∃ a u, x.outcome v = (.ok a, u) ∧ v.issued ≤ u.issued ∧ f a = b ∧ w = σ.move u := by
  obtain ⟨hle, hmap⟩ := hxy v hv
  rw [hy] at hmap
  rcases hx : x.outcome v with ⟨e | a, u⟩ <;> simp only [hx] at hle hmap
  · simp [Except.map] at hmap
  · obtain ⟨hok, hw⟩ := Prod.mk.inj hmap
    exact ⟨a, u, rfl, hle, (Except.ok.inj hok).symm, hw⟩

/-- A result without variables is the same in both, so that only what comes behind it has to follow.
-/
theorem ofExcept_bind {result : Except ε α} {k : α → Naming ε β} {l : α → Naming ε β'}
    (hkl : ∀ a, Follows σ g (k a) (l a)) :
    Follows σ g (ofExcept result >>= k) (ofExcept result >>= l) := by
  cases result with
  | error e => exact .throw e
  | ok a => exact hkl a

/-- A failure that is put as another follows one that is put so as well. -/
theorem mapError {x : Naming ε α} {y : Naming ε α'} (e : ε → ε') (hxy : Follows σ f x y) :
    Follows σ f (x.mapError e) (y.mapError e) := by
  intro v hv
  obtain ⟨hle, hy⟩ := hxy v hv
  refine ⟨hle, ?_⟩
  rw [outcome_mapError, outcome_mapError, hy]
  rcases x.outcome v with ⟨e | a, u⟩ <;> rfl

/-- A failure that is caught is caught in both, with what either of them has drawn up to there. -/
theorem attempt {x : Naming ε α} {y : Naming ε α'} (hxy : Follows σ f x y) :
    Follows σ (Except.map f) (x.attempt : Naming ε' _) y.attempt := by
  intro v hv
  obtain ⟨hle, hy⟩ := hxy v hv
  refine ⟨hle, ?_⟩
  rw [outcome_attempt, outcome_attempt, hy]
  rfl

end Follows

end Naming

/-! ## Conversions under a shift -/

open Naming

variable (σ : Shift) (m : Mapping)

/-- An object that is matched is matched by the moved variable. -/
theorem Reference.matchEntity_follows (r : Reference) :
    Follows σ (Entity.rename σ.rename) r.matchEntity (r.rename σ.rename).matchEntity :=
  .ofExcept_bind fun _ => .ofExcept_bind fun _ => .bind .fresh fun _ => .pure _

theorem matched_follows (r : Reference) :
    Follows σ (Entity.rename σ.rename) (matched r) (matched (r.rename σ.rename)) :=
  .mapError _ (r.matchEntity_follows σ)

@[simp] theorem Attachments.rename_link (ρ : String → String) (owner target : Entity)
    (relation : Relation) :
    (link owner target relation).rename ρ =
      link (owner.rename ρ) (target.rename ρ) (relation.rename ρ) := rfl

@[simp] theorem Attachments.rename_helper (ρ : String → String) (entity : Entity)
    (relation : Relation) :
    (helper entity relation).rename ρ = helper (entity.rename ρ) (relation.rename ρ) := rfl

/-- Both ends of a link are renamed: the owner as it is known, the target as it is matched. -/
theorem convertLink_follows (owner : Owner) (typeName id targetType : String) :
    Follows σ (Attachments.rename σ.rename) (convertLink m owner typeName id targetType)
      (convertLink m (owner.rename σ.rename) typeName id targetType) := by
  rw [convertLink]
  refine .ofExcept_bind fun roles => .ofExcept_bind fun supertype => ?_
  refine .bind (matched_follows σ _) fun target => ?_
  refine .bind (matched_follows σ _) fun ownerEntity => .bind .fresh fun var => .pure_of ?_
  rw [Attachments.rename_link, Relation.rename_addPlayer, Relation.rename_addPlayer]
  rfl

/-- The entity of a key has a moved variable. -/
theorem keyEntity_follows (schema : String) (k : KeyValueMapping) (key : String) :
    Follows σ (Entity.rename σ.rename) (keyEntity schema k key) (keyEntity schema k key) := by
  rw [keyEntity]
  cases k.keys.get? key with
  | none =>
    cases k.custom with
    | none => exact .error _
    | some custom => exact .bind .fresh fun _ => .pure _
  | some typeName => exact .bind .fresh fun _ => .pure _

/-- Whether a value is literals only does not depend on variables. -/
theorem onlyLiterals_rename (type : ValueType) (c : Converted) :
    onlyLiterals type (c.rename σ.rename) = onlyLiterals type c := by
  simp [onlyLiterals, Converted.rename]

/-- What an owner lacks it lacks under any name, and else its variable is renamed. -/
theorem requireVar_follows {g : β → β'} (r : Reference)
    {k : String → Naming PropertyDefect β} {l : String → Naming PropertyDefect β'}
    (hkl : ∀ a, Follows σ g (k a) (l (σ.rename a))) :
    Follows σ g (ofReference r.requireVar >>= k)
      (ofReference (r.rename σ.rename).requireVar >>= l) := by
  rw [Reference.requireVar, Reference.rename]
  cases r.var with
  | none => exact .throw _
  | some var => exact hkl var

mutual

/-- Renaming the owner of a value renames what the value is converted to, and changes nothing
else. -/
theorem convertValue_follows (owner : Owner) : ∀ (type : ValueType) (raw : Json),
    Follows σ (Converted.rename σ.rename) (convertValue m owner type raw)
      (convertValue m (owner.rename σ.rename) type raw)
  | .empty, _ => by
    simp only [convertValue]
    exact .pure _
  | .roleplayer, _ => by
    simp only [convertValue]
    exact .pure _
  | .scalar s, raw => by
    simp only [convertValue]
    exact .ofExcept_bind fun _ => .pure _
  | .list element, raw => by
    cases raw with
    | array items =>
      simp only [convertValue]
      exact .ofExcept_bind fun _ => convertItems_follows owner element items
    | _ =>
      simp only [convertValue]
      exact .error _
  | .relation typeName, raw => by
    cases raw with
    | string id =>
      simp only [convertValue]
      cases Stix.typeOfId? id with
      | none => exact .error _
      | some targetType =>
        exact .bind (convertLink_follows σ m owner typeName id targetType) fun _ => .pure _
    | _ =>
      simp only [convertValue]
      exact .error _
  | .composite schema, raw => by
    cases raw with
    | object fields =>
      simp only [convertValue]
      refine .ofExcept_bind fun composite => .bind .fresh fun var => ?_
      -- the new entity owns the fields, and is known by its renamed variable there
      rw [← σ.rename_known]
      refine .bind (convertFields_follows schema _ fields) fun gathered => ?_
      refine requireVar_follows σ _ fun ownerVar => .bind .fresh fun tieVar => .pure_of ?_
      simp only [Converted.rename, Attachments.rename_append, Attachments.rename_helper,
        HelperRelation.rename_tie, Entity.rename_foldl_addAttributes]
      rfl
    | _ =>
      simp only [convertValue]
      exact .error _
  | .keyValue schema, raw => by
    cases raw with
    | object pairs =>
      simp only [convertValue]
      refine .ofExcept_bind fun k => requireVar_follows σ _ fun ownerVar => ?_
      exact .bind (convertPairs_follows owner ownerVar schema k pairs) fun _ => .pure _
    | _ =>
      simp only [convertValue]
      exact .error _
  | .dictionary, raw => by
    cases raw with
    | object entries =>
      simp only [convertValue]
      refine requireVar_follows σ _ fun ownerVar => ?_
      exact .bind (convertEntries_follows owner ownerVar entries) fun _ => .pure _
    | _ =>
      simp only [convertValue]
      exact .error _

/-- Items of a list follow one after the other. -/
theorem convertItems_follows (owner : Owner) (element : ValueType) : ∀ items : List Json,
    Follows σ (Converted.rename σ.rename) (convertItems m owner element items)
      (convertItems m (owner.rename σ.rename) element items)
  | [] => by
    simp only [convertItems]
    exact .pure _
  | item :: rest => by
    simp only [convertItems]
    refine .bind (convertValue_follows owner element item) fun first => ?_
    refine .bind (convertItems_follows owner element rest) fun others => .pure_of ?_
    simp only [Converted.rename, Attachments.rename_append]

/-- So do the fields of a nested object, whose own variable is moved too. -/
theorem convertFields_follows (schema : String) (self : Reference) :
    ∀ fields : List (String × Json),
      Follows σ (Gathered.rename σ.rename) (convertFields m schema self fields)
        (convertFields m schema (self.rename σ.rename) fields)
  | [] => by
    simp only [convertFields]
    exact .pure _
  | (field, raw) :: rest => by
    simp only [convertFields]
    refine .ofExcept_bind fun info => ?_
    refine .bind (convertValue_follows ⟨self, info.name⟩ info.valueType raw) fun first => ?_
    refine .bind (convertFields_follows schema self rest) fun others => .pure_of ?_
    simp only [Gathered.rename, Converted.rename, Attachments.rename_append]

/-- Every pair draws a variable for its helper and one for the tie. -/
theorem convertPairs_follows (owner : Owner) (ownerVar schema : String) (k : KeyValueMapping) :
    ∀ pairs : List (String × Json),
      Follows σ (Attachments.rename σ.rename) (convertPairs m owner ownerVar schema k pairs)
        (convertPairs m (owner.rename σ.rename) (σ.rename ownerVar) schema k pairs)
  | [] => by
    simp only [convertPairs]
    exact .pure _
  | (key, raw) :: rest => by
    simp only [convertPairs]
    refine .bind (convertValue_follows owner k.valueType raw) fun converted => ?_
    rw [onlyLiterals_rename]
    refine .ofExcept_bind fun literals => .bind (keyEntity_follows σ schema k key) fun entity => ?_
    refine .bind .fresh fun tieVar => ?_
    refine .bind (convertPairs_follows owner ownerVar schema k rest) fun others => .pure_of ?_
    simp only [Attachments.rename_append, Attachments.rename_helper, HelperRelation.rename_tie,
      Entity.rename_addAttributes]
    rfl

/-- Entries draw their variables as pairs do, under the type that is read off each of them. -/
theorem convertEntries_follows (owner : Owner) (ownerVar : String) :
    ∀ entries : List (String × Json),
      Follows σ (Attachments.rename σ.rename) (convertEntries m owner ownerVar entries)
        (convertEntries m (owner.rename σ.rename) (σ.rename ownerVar) entries)
  | [] => by
    simp only [convertEntries]
    exact .pure _
  | (key, raw) :: rest => by
    simp only [convertEntries]
    refine .ofExcept_bind fun type => .ofExcept_bind fun _ => .ofExcept_bind fun item => ?_
    refine .bind (convertValue_follows owner type raw) fun converted => ?_
    rw [onlyLiterals_rename]
    refine .ofExcept_bind fun literals => .bind .fresh fun var => .bind .fresh fun tieVar => ?_
    refine .bind (convertEntries_follows owner ownerVar rest) fun others => .pure_of ?_
    simp only [Attachments.rename_append, Attachments.rename_helper, HelperRelation.rename_tie,
      Entity.rename_addAttributes, Entity.rename_addAttribute, Relation.rename_addAttribute]
    rfl

end

namespace Subject

variable (s : Subject) (self : Reference)

/-- A property follows, whether it is converted, skipped or fails. -/
theorem property_follows (label : String) (info : Option AttributeInfo) (raw : Json) :
    Follows σ (Collected.rename σ.rename) (s.property self label info raw)
      (s.property (self.rename σ.rename) label info raw) := by
  cases info with
  | none => exact .pure _
  | some i =>
    have hvalue := convertValue_follows σ s.mapping ⟨self, i.name⟩ i.valueType raw
    refine .bind hvalue.attempt fun result => ?_
    cases result with
    -- the defect is the same, and a report has no variables
    | error defect =>
      change Follows σ _ (if s.strict then _ else _) (if s.strict then _ else _)
      cases s.strict with
      | true => exact .throw _
      | false => exact .pure _
    | ok converted => exact .pure _

/-- Renaming the owner of properties renames what they are converted to, and changes nothing
else: the same ones are skipped for the same reasons. -/
theorem propertiesBy_follows (entry : String → Except MappingDefect (Option AttributeInfo))
    (label : String → String) : ∀ members : Members,
    Follows σ (Collected.rename σ.rename) (s.propertiesBy self entry label members)
      (s.propertiesBy (self.rename σ.rename) entry label members)
  | [] => .pure _
  | (name, raw) :: rest => by
    refine .ofExcept_bind fun info => ?_
    refine .bind (property_follows σ s self (label name) info raw) fun first => ?_
    refine .bind (propertiesBy_follows entry label rest) fun others => .pure_of ?_
    exact first.rename_append σ.rename others

end Subject

/-! ## Statements of a renamed draft -/

section Statements

variable (ρ : String → String)

/-- Statements that are joined are renamed one by one. -/
theorem Statement.rename_append (s t : Statement) :
    (s ++ t).rename ρ = s.rename ρ ++ t.rename ρ := by
  change (s.append t).rename ρ = (s.rename ρ).append (t.rename ρ)
  simp [append, rename]

/-- Renaming makes no statement empty. -/
theorem Statement.nonempty?_rename (s : Statement) :
    (s.rename ρ).nonempty? = s.nonempty?.map (rename ρ) := by
  unfold nonempty?
  by_cases h : s.isEmpty = true
  · have hrename : (s.rename ρ).isEmpty = true := by simpa [isEmpty, rename] using h
    rw [if_pos h, if_pos hrename]
    rfl
  · have hrename : ¬ (s.rename ρ).isEmpty = true := by simpa [isEmpty, rename] using h
    rw [if_neg h, if_neg hrename]
    rfl

/-- The statement of the main thing is renamed with it. -/
theorem MainThing.statement_rename (main : MainThing) :
    (main.rename ρ).statement = main.statement.rename ρ := by
  cases main <;> simp [rename, statement, Statement.rename, Thing.rename, Function.comp_def]

/-- Helpers and their ties are renamed where they stand. -/
theorem Attachments.helperStatement_rename (a : Attachments) :
    (a.rename ρ).helperStatement = a.helperStatement.rename ρ := by
  simp [helperStatement, rename, Statement.rename, List.flatMap_map, List.map_flatMap,
    Helper.rename, Thing.rename]

theorem Attachments.linkStatement_rename (a : Attachments) :
    (a.rename ρ).linkStatement = a.linkStatement.rename ρ := by
  simp [linkStatement, rename, Statement.rename, List.flatMap_map, List.map_flatMap,
    Link.rename, Thing.rename, Function.comp_def]

/-- A renamed draft is ordered as the draft itself. -/
theorem Draft.order_rename (d : Draft) :
    (d.rename ρ).order = d.order.map (OrderedStatements.rename ρ) := by
  obtain ⟨attachments, main⟩ := d
  have hlinks : (attachments.rename ρ).linkStatement.nonempty? =
      attachments.linkStatement.nonempty?.map (Statement.rename ρ) := by
    rw [Attachments.linkStatement_rename, Statement.nonempty?_rename]
  have hmain (main : MainThing) :
      (main.rename ρ).statement ++ (attachments.rename ρ).helperStatement =
        (main.statement ++ attachments.helperStatement).rename ρ := by
    rw [main.statement_rename, Attachments.helperStatement_rename, Statement.rename_append]
  rcases main with _ | ⟨e⟩ | ⟨r, players⟩
  · by_cases h : attachments.isEmpty = true
    · simp [order_eq, rename, isEmpty, h, Except.map, OrderedStatements.rename]
    · simp [order_eq, rename, isEmpty, h, Except.map]
  · simp only [order_eq, rename, Option.map_some, MainThing.rename, Except.map,
      OrderedStatements.rename, hlinks, ← hmain (.entity e), Option.map_none]
  · simp only [order_eq, rename, Option.map_some, MainThing.rename, Except.map,
      OrderedStatements.rename, hlinks, ← hmain (.relation r players), Option.map_none]

end Statements

end ThreatGraph
