import Mathlib.Data.List.Perm.Subperm
import ThreatGraph.Proofs.Success

/-!
# How attachments come about

The helpers and links of a value are built in few ways, whatever the value: nothing, one after the
other, a link between two matched entities, and a helper that is tied to its owner and may itself
own further attachments. `Attached` says so, with the supply before and after, and
`convertValue_attached` says that conversions build nothing else. What helpers and links have in
common is then an induction over `Attached`:

* every variable that is handed out is the variable of exactly one thing (`vars_perm`);
* a helper is tied to its owner or to another helper, a link to the two entities that it matches
  (`inReach`).
-/

namespace ThreatGraph

open Variables (nameOf between)

/-! ## Variables and players -/

/-- The variables that play roles, role by role. -/
def Relation.allPlayers (r : Relation) : List String := r.roles.pairs.map Prod.snd

/-- The variables of the helpers, of their ties, and of the links with their ends. -/
def Attachments.vars (a : Attachments) : List String :=
  (a.helpers.flatMap fun h => [h.entity.var, h.relation.var]) ++
    a.links.flatMap fun l => [l.owner.var, l.target.var, l.relation.var]

/-- Every player is in reach: a helper's tie joins the object of `r` or helpers, a link the
entities that it matches. -/
structure Attachments.InReach (r : Reference) (a : Attachments) : Prop where
  helpers : ∀ h ∈ a.helpers, ∀ x ∈ h.relation.allPlayers,
    r.var = some x ∨ ∃ other ∈ a.helpers, other.entity.var = x
  links : ∀ l ∈ a.links, ∀ x ∈ l.relation.allPlayers, x = l.owner.var ∨ x = l.target.var

@[simp] theorem Relation.allPlayers_addAttribute (r : Relation) (name value : String) :
    (r.addAttribute name value).allPlayers = r.allPlayers := rfl

@[simp] theorem Relation.allPlayers_addAttributes (r : Relation) (name : String)
    (values : List String) : (r.addAttributes name values).allPlayers = r.allPlayers := rfl

/-- A tie has two players, its owner first. -/
@[simp] theorem HelperRelation.allPlayers_tie (t : HelperRelation) (var owner helper : String) :
    (t.tie var owner helper).allPlayers = [owner, helper] := by
  by_cases h : t.ownerRole = t.helperRole
  · simp [tie, Relation.addPlayer, Relation.allPlayers, Multimap.add, Multimap.pairs, h]
  · simp [tie, Relation.addPlayer, Relation.allPlayers, Multimap.add, Multimap.pairs, h]

@[simp] theorem Entity.var_addAttribute (e : Entity) (name value : String) :
    (e.addAttribute name value).var = e.var := rfl

@[simp] theorem Entity.var_addAttributes (e : Entity) (name : String) (values : List String) :
    (e.addAttributes name values).var = e.var := rfl

@[simp] theorem Entity.var_foldl_addAttributes (attributes : List (String × List String))
    (e : Entity) : (attributes.foldl (fun e a => e.addAttributes a.1 a.2) e).var = e.var := by
  induction attributes generalizing e with
  | nil => rfl
  | cons a rest ih => rw [List.foldl_cons, ih, var_addAttributes]

theorem Attachments.append_nil (a : Attachments) : a ++ {} = a := by
  change a.append {} = a
  simp [append]

/-- The variables of attachments are those of their parts. -/
theorem Attachments.vars_append (a b : Attachments) : (a ++ b).vars.Perm (a.vars ++ b.vars) := by
  change (Attachments.append a b).vars.Perm _
  simp only [append, vars, List.flatMap_append, List.append_assoc]
  refine List.Perm.append_left _ ?_
  rw [← List.append_assoc, ← List.append_assoc]
  exact List.Perm.append_right _ List.perm_append_comm

theorem Attachments.InReach.append {r : Reference} {a b : Attachments} (ha : a.InReach r)
    (hb : b.InReach r) : (a ++ b).InReach r := by
  constructor
  · intro h hh x hx
    rcases List.mem_append.mp hh with hh | hh
    · exact (ha.helpers h hh x hx).imp_right fun ⟨other, hother, hx⟩ =>
        ⟨other, List.mem_append_left _ hother, hx⟩
    · exact (hb.helpers h hh x hx).imp_right fun ⟨other, hother, hx⟩ =>
        ⟨other, List.mem_append_right _ hother, hx⟩
  · intro l hl x hx
    rcases List.mem_append.mp hl with hl | hl
    · exact ha.links l hl x hx
    · exact hb.links l hl x hx

/-! ## The ways to build attachments -/

/-- `Attached r v a w`: values that belong to the object of `r` can have the attachments `a`, and
the supply `v` becomes `w` on the way. -/
inductive Attached : Reference → Variables → Attachments → Variables → Prop where
  /-- a value may have no attachments -/
  | nothing (r : Reference) (v : Variables) : Attached r v {} v
  /-- values come one after the other -/
  | append {r : Reference} {u v w : Variables} {a b : Attachments} :
    Attached r u a v → Attached r v b w → Attached r u (a ++ b) w
  /-- a link matches its target, then its owner, and joins them -/
  | link {r : Reference} {v : Variables} {owner target : Entity} {relation : Relation} :
    target.var = nameOf v.issued → owner.var = nameOf (v.issued + 1) →
    relation.var = nameOf (v.issued + 2) → relation.allPlayers = [owner.var, target.var] →
    Attached r v (.link owner target relation) ⟨v.issued + 3⟩
  /-- a helper owns what is inside its value, and is tied to its owner last -/
  | helper {r self : Reference} {v w : Variables} {inside : Attachments} {ownerVar : String}
    {entity : Entity} {tie : Relation} :
    entity.var = nameOf v.issued → self.var = some entity.var →
    Attached self ⟨v.issued + 1⟩ inside w →
    r.var = some ownerVar → tie.var = nameOf w.issued →
    tie.allPlayers = [ownerVar, entity.var] →
    Attached r v (.helper entity tie ++ inside) ⟨w.issued + 1⟩

namespace Attached

variable {r : Reference} {v w : Variables} {a : Attachments}

/-- Attaching something takes no variables back. -/
theorem le (h : Attached r v a w) : v.issued ≤ w.issued := by
  induction h with
  | nothing => exact Nat.le_refl _
  | append _ _ ha hb => exact Nat.le_trans ha hb
  | link => exact Nat.le_add_right _ _
  | helper _ _ _ _ _ _ ih =>
    exact Nat.le_trans (Nat.le_of_succ_le ih) (Nat.le_succ _)

/-- What is handed out on the way are the variables of the helpers and links, each once. -/
theorem vars_perm (h : Attached r v a w) : a.vars.Perm (between v w) := by
  induction h with
  | nothing => simp [Attachments.vars]
  | @append r u v w a b ha hb iha ihb =>
    rw [← Variables.between_append ha.le hb.le]
    exact (a.vars_append b).trans (iha.append ihb)
  | @link r v owner target relation htarget howner hrelation _ =>
    have hvars : between v ⟨v.issued + 3⟩ = [target.var, owner.var, relation.var] := by
      simp [between, List.range'_succ, htarget, howner, hrelation]
    -- the target is matched before the owner, but comes after it in `vars`
    rw [hvars]
    exact List.Perm.swap _ _ _
  | @helper r self v w inside ownerVar entity tie hentity _ hinside _ htie _ ih =>
    -- the entity is drawn first and its tie last, with all that is inside between them
    have hfirst : between v ⟨v.issued + 1⟩ = [entity.var] := by simp [between, hentity]
    have hlast : between w ⟨w.issued + 1⟩ = [tie.var] := by simp [between, htie]
    have hle : v.issued + 1 ≤ w.issued := hinside.le
    rw [← Variables.between_append (v := ⟨v.issued + 1⟩) (Nat.le_succ _) (Nat.le_succ_of_le hle),
      ← Variables.between_append hle (Nat.le_succ _), hfirst, hlast]
    refine (Attachments.vars_append _ _).trans ?_
    refine List.Perm.cons _ ?_
    exact (ih.cons tie.var).trans (List.perm_append_singleton _ _).symm

/-- Without helpers and links no variable is handed out. -/
theorem eq_of_nothing (h : Attached r v {} w) : v = w := by
  have hlen := h.vars_perm.length_eq
  have hle := h.le
  simp only [Attachments.vars, between, List.flatMap_nil, List.append_nil, List.length_nil,
    List.length_map, List.length_range'] at hlen
  obtain ⟨n⟩ := v
  obtain ⟨k⟩ := w
  simp only [Variables.mk.injEq] at hlen hle ⊢
  omega

/-- Whatever is attached, its players are the object or what is attached with it. -/
theorem inReach (h : Attached r v a w) : a.InReach r := by
  induction h with
  | nothing =>
    exact ⟨fun _ hh => absurd hh List.not_mem_nil, fun _ hl => absurd hl List.not_mem_nil⟩
  | append _ _ iha ihb => exact iha.append ihb
  | link _ _ _ hplayers =>
    refine ⟨fun _ hh => absurd hh List.not_mem_nil, fun l hl x hx => ?_⟩
    obtain rfl := List.mem_singleton.mp hl
    rw [hplayers] at hx
    simpa using hx
  | @helper r self v w inside ownerVar entity tie _ hself _ hvar _ hplayers ih =>
    refine ⟨fun h hh x hx => ?_, ih.links⟩
    rcases List.mem_cons.mp hh with rfl | hh
    · rw [hplayers] at hx
      rcases List.mem_cons.mp hx with rfl | hx
      · exact .inl hvar
      · exact .inr ⟨_, List.mem_cons_self, (List.mem_singleton.mp hx).symm⟩
    -- a helper inside is tied to the new helper or to another one inside
    · rcases ih.helpers h hh x hx with hx | ⟨other, hother, rfl⟩
      · exact .inr ⟨_, List.mem_cons_self, Option.some.inj (hself.symm.trans hx)⟩
      · exact .inr ⟨other, List.mem_cons_of_mem _ hother, rfl⟩

end Attached

/-! ## What conversions build -/

open Naming

variable {m : Mapping} {v w : Variables}

/-- A link is attached to the object that refers. -/
theorem convertLink_attached {owner : Owner} {typeName id targetType : String} {a : Attachments}
    (h : (convertLink m owner typeName id targetType).outcome v = (.ok a, w)) :
    Attached owner.reference v a w := by
  obtain ⟨ownerRole, targetRole, supertype, ownerType, ownerId, -, -, -, -, rfl, rfl⟩ :=
    convertLink_ok h
  exact .link rfl rfl rfl (HelperRelation.allPlayers_tie ..)

/-- The entity of a key takes the next variable. -/
theorem keyEntity_var {schema key : String} {k : KeyValueMapping} {e : Entity}
    (h : (keyEntity schema k key).outcome v = (.ok e, w)) :
    e.var = nameOf v.issued ∧ w = ⟨v.issued + 1⟩ := by
  obtain ⟨hentity, rfl⟩ := keyEntity_ok h
  rcases hentity with ⟨typeName, -, rfl⟩ | ⟨custom, -, -, rfl⟩ <;> exact ⟨rfl, rfl⟩

/-- A helper for a single pair or entry owns nothing. -/
theorem Attached.leaf {r : Reference} {ownerVar : String} {entity : Entity} {tie : Relation}
    (hentity : entity.var = nameOf v.issued) (hvar : r.var = some ownerVar)
    (htie : tie.var = nameOf (v.issued + 1)) (hplayers : tie.allPlayers = [ownerVar, entity.var]) :
    Attached r v (.helper entity tie) ⟨v.issued + 2⟩ := by
  have hinside : Attached ⟨none, some entity.var, none⟩ ⟨v.issued + 1⟩ {} ⟨v.issued + 1⟩ :=
    .nothing _ _
  have h := Attached.helper hentity rfl hinside hvar htie hplayers
  rwa [Attachments.append_nil] at h

mutual

/-- The attachments of a value that is converted are built in the ways of `Attached`. -/
theorem convertValue_attached {owner : Owner} : ∀ (type : ValueType) (raw : Json) {v w : Variables}
    {c : Converted}, (convertValue m owner type raw).outcome v = (.ok c, w) →
      Attached owner.reference v c.attachments w
  | .empty, _, v, w, c, h => by
    simp only [convertValue, pure_eq_ok] at h
    obtain ⟨rfl, rfl⟩ := h
    exact .nothing _ _
  | .roleplayer, _, v, w, c, h => by
    simp only [convertValue, pure_eq_ok] at h
    obtain ⟨rfl, rfl⟩ := h
    exact .nothing _ _
  | .scalar s, raw, v, w, c, h => by
    obtain ⟨literal, -, rfl, rfl⟩ := convertValue_scalar_ok h
    exact .nothing _ _
  | .list element, .array items, v, w, c, h => by
    obtain ⟨_, ⟨⟩, -, hitems⟩ := convertValue_list_ok h
    exact convertItems_attached element items hitems
  | .relation typeName, raw, v, w, c, h => by
    obtain ⟨id, targetType, a, -, -, hlink, rfl⟩ := convertValue_relation_ok h
    exact convertLink_attached hlink
  | .composite schema, .object fields, v, w, c, h => by
    obtain ⟨_, composite, gathered, ownerVar, u, ⟨⟩, -, hfields, hvar, rfl, rfl⟩ :=
      convertValue_composite_ok h
    -- the attributes of the fields are added to the entity, which does not touch its variable
    refine .helper (Entity.var_foldl_addAttributes ..) ?_ (convertFields_attached fields hfields)
      hvar rfl ?_
    · rw [Entity.var_foldl_addAttributes, Reference.known_nameOf]
    · rw [Entity.var_foldl_addAttributes, HelperRelation.allPlayers_tie]
  | .keyValue schema, .object pairs, v, w, c, h => by
    obtain ⟨_, k, ownerVar, a, ⟨⟩, -, hvar, hpairs, rfl⟩ := convertValue_keyValue_ok h
    exact convertPairs_attached hvar pairs hpairs
  | .dictionary, .object entries, v, w, c, h => by
    obtain ⟨_, ownerVar, a, ⟨⟩, hvar, hentries, rfl⟩ := convertValue_dictionary_ok h
    exact convertEntries_attached hvar entries hentries

/-- What items of a list attach is attached to the owner of the list. -/
theorem convertItems_attached {owner : Owner} (element : ValueType) : ∀ (items : List Json)
    {v w : Variables} {c : Converted},
    (convertItems m owner element items).outcome v = (.ok c, w) →
      Attached owner.reference v c.attachments w
  | [], v, w, c, h => by
    simp only [convertItems, pure_eq_ok] at h
    obtain ⟨rfl, rfl⟩ := h
    exact .nothing _ _
  | item :: rest, v, w, c, h => by
    obtain ⟨first, others, u, hfirst, hothers, rfl⟩ := convertItems_cons_ok h
    exact .append (convertValue_attached element item hfirst)
      (convertItems_attached element rest hothers)

/-- What fields of a nested object attach is attached to the helper that this object becomes. -/
theorem convertFields_attached {schema : String} {self : Reference} :
    ∀ (fields : List (String × Json)) {v w : Variables} {g : Gathered},
      (convertFields m schema self fields).outcome v = (.ok g, w) →
        Attached self v g.attachments w
  | [], v, w, g, h => by
    simp only [convertFields, pure_eq_ok] at h
    obtain ⟨rfl, rfl⟩ := h
    exact .nothing _ _
  | (field, raw) :: rest, v, w, g, h => by
    obtain ⟨info, first, others, u, -, hfirst, hothers, rfl⟩ := convertFields_cons_ok h
    exact .append (convertValue_attached info.valueType raw hfirst)
      (convertFields_attached rest hothers)

/-- What pairs attach is attached to their owner. -/
theorem convertPairs_attached {owner : Owner} {ownerVar schema : String} {k : KeyValueMapping}
    (hvar : owner.reference.var = some ownerVar) : ∀ (pairs : List (String × Json))
    {v w : Variables} {a : Attachments},
    (convertPairs m owner ownerVar schema k pairs).outcome v = (.ok a, w) →
      Attached owner.reference v a w
  | [], v, w, a, h => by
    simp only [convertPairs, pure_eq_ok] at h
    obtain ⟨rfl, rfl⟩ := h
    exact .nothing _ _
  | (key, raw) :: rest, v, w, a, h => by
    obtain ⟨converted, entity, others, u, u', hvalue, hempty, hentity, hothers, rfl⟩ :=
      convertPairs_cons_ok h
    -- a value without attachments has drawn nothing
    have hnone := convertValue_attached k.valueType raw hvalue
    rw [hempty] at hnone
    obtain rfl := hnone.eq_of_nothing
    obtain ⟨hname, rfl⟩ := keyEntity_var hentity
    refine .append (.leaf hname hvar rfl ?_) (convertPairs_attached hvar rest hothers)
    exact HelperRelation.allPlayers_tie ..

/-- What entries of a dictionary attach is attached to its owner. -/
theorem convertEntries_attached {owner : Owner} {ownerVar : String}
    (hvar : owner.reference.var = some ownerVar) : ∀ (entries : List (String × Json))
    {v w : Variables} {a : Attachments},
    (convertEntries m owner ownerVar entries).outcome v = (.ok a, w) →
      Attached owner.reference v a w
  | [], v, w, a, h => by
    simp only [convertEntries, pure_eq_ok] at h
    obtain ⟨rfl, rfl⟩ := h
    exact .nothing _ _
  | (key, raw) :: rest, v, w, a, h => by
    obtain ⟨type, item, converted, others, u, -, -, -, hvalue, hempty, hothers, rfl⟩ :=
      convertEntries_cons_ok h
    have hnone := convertValue_attached type raw hvalue
    rw [hempty] at hnone
    obtain rfl := hnone.eq_of_nothing
    refine .append (.leaf rfl hvar rfl ?_) (convertEntries_attached hvar rest hothers)
    rw [Relation.allPlayers_addAttribute, HelperRelation.allPlayers_tie]
    rfl

end

end ThreatGraph
