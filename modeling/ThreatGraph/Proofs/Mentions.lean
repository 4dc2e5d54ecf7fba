import ThreatGraph.Proofs.RolePlayers

/-!
# Links for references

A property whose value is a reference, or a list of references, mentions other objects
(`Subject.mentions`). For each mention there is one link, in order: it matches the object itself
and the object that is mentioned, one after the other, and joins the two in a relation under the
roles that the property is named by (`convertObject_links`). There are no other links. In
particular nested objects have none, as they are no objects that could be matched.

The links of a value are compared with its references by induction over the value, in pairs
(`convertValue_links`), then gathered over the properties (`mentions_links`). That the statement has
them in this order is a matter of places: the ends of the link at `i` are matched at `2 * i` and
behind it (`linkStatement_getElem?`).
-/

namespace ThreatGraph

open Naming

/-! ## References in values -/

/-- The references in a value that is converted under a type: the type of the relation for each,
and the identifier. -/
def ValueType.references : ValueType → Json → List (String × String)
  | .relation typeName, .string id => [(typeName, id)]
  | .list element, .array items => items.flatMap element.references
  | _, _ => []

/-- The relation joins the two under the roles that the name is made of, the owner first. -/
def Relation.JoinsAs (r : Relation) (name : String) (owner target : Entity) : Prop :=
  ∃ ownerRole targetRole, Stix.rolePair? name = some (ownerRole, targetRole) ∧
    r.roles = Multimap.ofPairs [(ownerRole, owner.var), (targetRole, target.var)]

/-- The link joins what is known of the owner to the object that is referred to. -/
structure Mapping.Links (m : Mapping) (owner : Owner) (reference : String × String) (l : Link) :
    Prop where
  ofType : l.relation.typeName = reference.1
  attributes : l.relation.attributes = []
  joins : l.relation.JoinsAs owner.attributeName l.owner l.target
  ownerType : owner.reference.typeName = some l.owner.typeName
  ownerId : ∃ id, owner.reference.stixId = some id ∧
    l.owner.attributes = [(idAttribute, [quote id])]
  target : m.Refers reference.2 l.target

section Values

variable {m : Mapping} {owner : Owner}

theorem convertLink_links {typeName id targetType : String} {v w : Variables} {a : Attachments}
    (htype : Stix.typeOfId? id = some targetType)
    (h : (convertLink m owner typeName id targetType).outcome v = (.ok a, w)) :
    List.Forall₂ (m.Links owner) [(typeName, id)] a.links := by
  obtain ⟨ownerRole, targetRole, supertype, ownerType, ownerId, hroles, hsupertype, hownerType,
    hownerId, rfl, -⟩ := convertLink_ok h
  apply List.Forall₂.cons _ .nil
  exact
    { ofType := rfl
      attributes := rfl
      joins := ⟨ownerRole, targetRole, hroles, rfl⟩
      ownerType := hownerType
      ownerId := ⟨ownerId, hownerId, Entity.attributes_matching ..⟩
      target := Mapping.refers_matching htype hsupertype _ }

/-- What has no identifier is not linked. -/
theorem links_eq_nil {references : List (String × String)} {links : List Link}
    (hnone : owner.reference.stixId = none) (h : List.Forall₂ (m.Links owner) references links) :
    links = [] := by
  cases h with
  | nil => rfl
  | cons hlink _ =>
    obtain ⟨id, hid, -⟩ := hlink.ownerId
    cases hnone.symm.trans hid

/-- Pairs have no links, as their values are literals. -/
theorem convertPairs_links {ownerVar schema : String} {k : KeyValueMapping}
    {pairs : List (String × Json)} {v w : Variables} {a : Attachments}
    (h : (convertPairs m owner ownerVar schema k pairs).outcome v = (.ok a, w)) :
    a.links = [] := by
  induction pairs generalizing v a with
  | nil =>
    simp only [convertPairs, pure_eq_ok] at h
    obtain ⟨rfl, -⟩ := h
    rfl
  | cons pair rest ih =>
    obtain ⟨converted, entity, others, u, u', -, -, -, hothers, rfl⟩ := convertPairs_cons_ok h
    have hrest : others.links = [] := ih hothers
    exact hrest

theorem convertEntries_links {ownerVar : String} {entries : List (String × Json)}
    {v w : Variables} {a : Attachments}
    (h : (convertEntries m owner ownerVar entries).outcome v = (.ok a, w)) : a.links = [] := by
  induction entries generalizing v a with
  | nil =>
    simp only [convertEntries, pure_eq_ok] at h
    obtain ⟨rfl, -⟩ := h
    rfl
  | cons entry rest ih =>
    obtain ⟨type, item, converted, others, u, -, -, -, -, -, hothers, rfl⟩ :=
      convertEntries_cons_ok h
    have hrest : others.links = [] := ih hothers
    exact hrest

mutual

/-- The links of a value are those for its references, in order. -/
theorem convertValue_links {owner : Owner} : ∀ (type : ValueType) (raw : Json) {v w : Variables}
    {c : Converted}, (convertValue m owner type raw).outcome v = (.ok c, w) →
      List.Forall₂ (m.Links owner) (type.references raw) c.attachments.links
  | .empty, _, v, w, c, h => by
    simp only [convertValue, pure_eq_ok] at h
    obtain ⟨rfl, -⟩ := h
    exact .nil
  | .roleplayer, _, v, w, c, h => by
    simp only [convertValue, pure_eq_ok] at h
    obtain ⟨rfl, -⟩ := h
    exact .nil
  | .scalar s, raw, v, w, c, h => by
    obtain ⟨literal, -, rfl, -⟩ := convertValue_scalar_ok h
    exact .nil
  | .list element, .array items, v, w, c, h => by
    obtain ⟨_, ⟨⟩, -, hitems⟩ := convertValue_list_ok h
    exact convertItems_links element items hitems
  | .relation typeName, raw, v, w, c, h => by
    obtain ⟨id, targetType, a, rfl, htype, hlink, rfl⟩ := convertValue_relation_ok h
    exact convertLink_links htype hlink
  | .composite schema, .object fields, v, w, c, h => by
    obtain ⟨_, composite, gathered, ownerVar, u, ⟨⟩, -, hfields, -, -, rfl⟩ :=
      convertValue_composite_ok h
    -- a nested object has no identifier to be matched by, so its fields give no links
    have hnone : gathered.attachments.links = [] := convertFields_links rfl fields hfields
    change List.Forall₂ _ [] gathered.attachments.links
    rw [hnone]
    exact .nil
  | .keyValue schema, .object pairs, v, w, c, h => by
    obtain ⟨_, k, ownerVar, a, ⟨⟩, -, -, hpairs, rfl⟩ := convertValue_keyValue_ok h
    rw [convertPairs_links hpairs]
    exact .nil
  | .dictionary, .object entries, v, w, c, h => by
    obtain ⟨_, ownerVar, a, ⟨⟩, -, hentries, rfl⟩ := convertValue_dictionary_ok h
    rw [convertEntries_links hentries]
    exact .nil

/-- The items of a list have a link for each reference in them. -/
theorem convertItems_links {owner : Owner} (element : ValueType) : ∀ (items : List Json)
    {v w : Variables} {c : Converted},
    (convertItems m owner element items).outcome v = (.ok c, w) →
      List.Forall₂ (m.Links owner) (items.flatMap element.references) c.attachments.links
  | [], v, w, c, h => by
    simp only [convertItems, pure_eq_ok] at h
    obtain ⟨rfl, -⟩ := h
    exact .nil
  | item :: rest, v, w, c, h => by
    obtain ⟨first, others, u, hfirst, hothers, rfl⟩ := convertItems_cons_ok h
    rw [List.flatMap_cons]
    apply List.rel_append
    · exact convertValue_links element item hfirst
    · exact convertItems_links element rest hothers

/-- Nested objects have no identifier, so what is inside them is not linked. -/
theorem convertFields_links {schema : String} {self : Reference} (hnone : self.stixId = none) :
    ∀ (fields : List (String × Json)) {v w : Variables} {g : Gathered},
      (convertFields m schema self fields).outcome v = (.ok g, w) → g.attachments.links = []
  | [], v, w, g, h => by
    simp only [convertFields, pure_eq_ok] at h
    obtain ⟨rfl, -⟩ := h
    rfl
  | (field, raw) :: rest, v, w, g, h => by
    obtain ⟨info, first, others, u, -, hfirst, hothers, rfl⟩ := convertFields_cons_ok h
    have hvalue := convertValue_links info.valueType raw hfirst
    have hrest := convertFields_links hnone rest hothers
    change first.attachments.links ++ others.attachments.links = []
    rw [links_eq_nil hnone hvalue, hrest]
    rfl

end

end Values

/-! ## The statement for links -/

namespace Attachments

variable (a : Attachments)

/-- There is a statement for links exactly if there are links. -/
theorem linkStatement_nonempty? :
    a.linkStatement.nonempty? = if a.links = [] then none else some a.linkStatement := by
  obtain ⟨helpers, links⟩ := a
  cases links with
  | nil => rfl
  | cons link rest => rfl

/-- It matches two things for each link and inserts one. -/
theorem length_linkStatement : a.linkStatement.matched.length = 2 * a.links.length ∧
    a.linkStatement.inserted.length = a.links.length := by
  constructor
  · change (a.links.flatMap fun l => [Thing.entity l.owner, .entity l.target]).length = _
    induction a.links with
    | nil => rfl
    | cons link rest ih =>
      rw [List.flatMap_cons, List.length_append, ih]
      simp only [List.length_cons, List.length_nil]
      omega
  · exact List.length_map _

/-- A link has two places in what is matched and one in what is inserted. -/
theorem linkStatement_getElem? {a : Attachments} {i : Nat} {l : Link} (h : a.links[i]? = some l) :
    a.linkStatement.matched[2 * i]? = some (.entity l.owner) ∧
      a.linkStatement.matched[2 * i + 1]? = some (.entity l.target) ∧
      a.linkStatement.inserted[i]? = some (.relation l.relation) := by
  obtain ⟨helpers, links⟩ := a
  induction links generalizing i with
  | nil => cases h
  | cons first rest ih =>
    cases i with
    | zero =>
      obtain rfl := Option.some.inj h
      exact ⟨rfl, rfl, rfl⟩
    | succ i => exact ih h

end Attachments

/-! ## Objects that are mentioned -/

/-- An object that is mentioned by a property. -/
structure Mention where
  /-- the name of the property in the target schema -/
  name : String
  /-- the type of the relation -/
  typeName : String
  /-- the identifier of the object -/
  id : String
  deriving DecidableEq, Repr

namespace Subject

/-- The objects that are mentioned by the properties that are converted, in order. -/
def mentions (s : Subject) : List Mention :=
  s.gather fun info raw => (info.valueType.references raw).map fun x => ⟨info.name, x.1, x.2⟩

/-- The relation joins the object, which is matched by the type of its main thing and by its
identifier, to the object that is mentioned. -/
structure Joins (s : Subject) (main : Thing) (x : Mention) (owner target : Entity) (r : Relation) :
    Prop where
  ofType : r.typeName = x.typeName
  attributes : r.attributes = []
  joins : r.JoinsAs x.name owner target
  ownerType : owner.typeName = main.typeName
  ownerId : owner.attributes = [(idAttribute, [quote s.stixId])]
  target : s.mapping.Refers x.id target

variable {s : Subject}

/-- The thing that stands for an object has the type that was chosen for it. -/
theorem Stands.typeName {typeName : String} {attributes : List (String × List String)}
    {objectClass : ObjectClass} {main : MainThing}
    (h : s.Stands typeName attributes objectClass main) : main.thing.typeName = typeName := by
  cases h with
  | entity _ =>
    rw [mainEntity, Entity.foldl_addAttributes]
    rfl
  | relation _ =>
    rw [mainRelation_eq]
    rfl

/-- There is one link for each mention, in order. -/
theorem mentions_links {extensions : Option Members} {typeName : String} {main : Thing}
    {parts : List Collected} (hextensions : s.extensions = .ok extensions)
    (htarget : s.mapping.targetType? s.stixId s.stixType s.object extensions =
      .ok (some typeName))
    (hparts : List.Forall₂ s.Comes s.listed parts) (hmain : main.typeName = typeName) :
    List.Forall₂ (fun x l => s.Joins main x l.owner l.target l.relation) s.mentions
      (Collected.all parts).attachments.links := by
  rw [Collected.all_flatMap (f := fun part => part.attachments.links) parts rfl fun _ _ => rfl]
  apply gather_forall₂ hparts
  · intro skipped
    rfl
  · intro info raw value v w hvalue
    rw [List.forall₂_map_left_iff]
    apply (convertValue_links info.valueType raw hvalue).imp
    intro reference l hlink
    obtain ⟨id, hid, hownerId⟩ := hlink.ownerId
    have hownerType := hlink.ownerType
    rw [reference_eq hextensions htarget] at hid hownerType
    -- values are given the reference of the main thing, so it is the owner of every link
    obtain rfl := Option.some.inj (Reference.known_stixId_eq_some hid)
    have htype := Option.some.inj (Reference.known_typeName_eq_some hownerType)
    exact
      { ofType := hlink.ofType
        attributes := hlink.attributes
        joins := hlink.joins
        ownerType := htype.symm.trans hmain.symm
        ownerId := hownerId
        target := hlink.target }

/-- There is a statement for links if the object mentions others, with two things matched and one
relation inserted for each mention. -/
theorem convert_links {c : Conversion} (hc : s.convert = .ok c) :
    (c.statements.embedded = none ↔ s.mentions = []) ∧
      ∀ t, c.statements.embedded = some t →
        t.matched.length = 2 * s.mentions.length ∧ t.inserted.length = s.mentions.length ∧
        ∀ i x, s.mentions[i]? = some x → ∃ main owner target r,
          c.statements.main? = some main ∧ t.matched[2 * i]? = some (.entity owner) ∧
          t.matched[2 * i + 1]? = some (.entity target) ∧ t.inserted[i]? = some (.relation r) ∧
          s.Joins main x owner target r := by
  cases hclass : s.mapping.classOf? s.stixType with
  | none =>
    have hnone : s.mentions = [] := by
      rw [mentions, gather, listed, hclass]
      rfl
    rcases convert_ok hc with ⟨-, rfl⟩ | ⟨objectClass, _, _, _, _, hsome, -⟩
    · refine ⟨⟨fun _ => hnone, fun _ => rfl⟩, ?_⟩
      intro t ht
      cases ht
    · cases hclass.symm.trans hsome
  | some objectClass =>
    obtain ⟨extensions, typeName, parts, main, hextensions, htarget, hparts, hmain, -, horder⟩ :=
      convert_parts hclass hc
    -- links and mentions match one by one; the statement has the links in that order
    have hlinks := mentions_links hextensions htarget hparts hmain.typeName
    obtain ⟨hmain?, hembedded⟩ := Draft.main?_of_order rfl horder
    generalize (Collected.all parts).attachments = a at hlinks hembedded
    change _ = a.linkStatement.nonempty? at hembedded
    rw [hembedded, Attachments.linkStatement_nonempty?]
    have hlength := hlinks.length_eq
    constructor
    · have hempty : a.links = [] ↔ s.mentions = [] := by
        rw [← List.length_eq_zero_iff, ← hlength, List.length_eq_zero_iff]
      rw [← hempty]
      split
      · next hnone => simp [hnone]
      · next hsome => simp [hsome]
    · intro t ht
      split at ht
      · cases ht
      obtain rfl := Option.some.inj ht
      rw [a.length_linkStatement.1, a.length_linkStatement.2, hlength]
      refine ⟨rfl, rfl, ?_⟩
      intro i x hx
      obtain ⟨hi, rfl⟩ := List.getElem?_eq_some_iff.mp hx
      have hi' : i < a.links.length := hlength ▸ hi
      obtain ⟨howner, htarget, hrelation⟩ :=
        Attachments.linkStatement_getElem? (List.getElem?_eq_getElem hi')
      exact ⟨main.thing, _, _, _, hmain?, howner, htarget, hrelation, hlinks.get hi hi'⟩

end Subject

/-- **One link for each reference.** Let an object be converted, strictly or not. If its properties
mention no object, then there is no statement for links. Otherwise the statement matches two
objects for each mention and inserts one relation: the relation in the `i`-th place joins the
objects in the two places from `2 * i` on, which are the object itself and the object of the
`i`-th mention. -/
theorem convertObject_links {m : Mapping} {strict : Bool} {object : Members} {s : Subject}
    {c : Conversion} (hs : Subject.identify m strict object = .ok s)
    (hc : convertObject m strict object = .ok c) :
    (c.statements.embedded = none ↔ s.mentions = []) ∧
      ∀ t, c.statements.embedded = some t →
        t.matched.length = 2 * s.mentions.length ∧ t.inserted.length = s.mentions.length ∧
        ∀ i x, s.mentions[i]? = some x → ∃ main owner target r,
          c.statements.main? = some main ∧ t.matched[2 * i]? = some (.entity owner) ∧
          t.matched[2 * i + 1]? = some (.entity target) ∧ t.inserted[i]? = some (.relation r) ∧
          s.Joins main x owner target r := by
  rw [convertObject_eq hs] at hc
  exact Subject.convert_links hc

/-- The documents of a small mapping: reports with authors, a sponsor, and perhaps a reviewer. -/
def reportDocuments : Documents where
  classes := { domain := ["report", "identity"] }
  domainObjects :=
    [("report",
      { typeName := "report"
        extensions :=
          [("review",
            { attributes :=
                [("reviewer",
                  { name := "reviewed::reviewer", valueType := .relation "reviewing" })] })]
        attributes :=
          [("authors", { name := "work::author", valueType := .list (.relation "authoring") }),
            ("sponsor", { name := "sponsored::sponsor", valueType := .relation "sponsoring" })] }),
      ("identity", { typeName := "party" })]
  dictionary := ⟨"key", "property", ⟨"entry", "holder", "held"⟩, []⟩

/-- A report by two authors, one of which has reviewed it. Its sponsor is no identifier. -/
def reviewedReport : Members :=
  [("id", .string "report--1"), ("type", .string "report"), ("sponsor", .string "nobody"),
    ("authors", .array [.string "identity--1", .string "identity--2"]),
    ("extensions", .object [("review", .object [("reviewer", .string "identity--2")])])]

/-- The report is linked to both authors, and behind them to its reviewer. -/
theorem convertObject_links_report :
    let m := reportDocuments.mapping
    let s : Subject := ⟨m, false, reviewedReport, "report--1", "report"⟩
    Mapping.ofDocuments reportDocuments = .ok m ∧ Subject.identify m false reviewedReport = .ok s ∧
      s.mentions = [⟨"work::author", "authoring", "identity--1"⟩,
        ⟨"work::author", "authoring", "identity--2"⟩,
        ⟨"reviewed::reviewer", "reviewing", "identity--2"⟩] ∧
      ∃ c t main owner target r, convertObject m false reviewedReport = .ok c ∧
        c.statements.embedded = some t ∧ t.matched.length = 6 ∧ t.inserted.length = 3 ∧
        c.statements.main? = some main ∧ t.matched[4]? = some (.entity owner) ∧
        t.matched[5]? = some (.entity target) ∧ t.inserted[2]? = some (.relation r) ∧
        s.Joins main ⟨"reviewed::reviewer", "reviewing", "identity--2"⟩ owner target r := by
  intro m s
  have hs : Subject.identify m false reviewedReport = .ok s := rfl
  have hmentions : s.mentions = [⟨"work::author", "authoring", "identity--1"⟩,
      ⟨"work::author", "authoring", "identity--2"⟩,
      ⟨"reviewed::reviewer", "reviewing", "identity--2"⟩] := by decide +kernel
  have hrun : (convertObject m false reviewedReport).isOk = true := by decide +kernel
  rcases hc : convertObject m false reviewedReport with defect | c
  · rw [hc] at hrun
    cases hrun
  obtain ⟨hnone, hlinks⟩ := convertObject_links hs hc
  rw [hmentions] at hnone
  obtain ⟨t, ht⟩ := Option.ne_none_iff_exists'.mp fun h => List.cons_ne_nil _ _ (hnone.mp h)
  obtain ⟨hmatched, hinserted, hplaces⟩ := hlinks t ht
  rw [hmentions] at hmatched hinserted hplaces
  obtain ⟨main, owner, target, r, hmain, howner, htarget, hr, hjoins⟩ := hplaces 2 _ rfl
  exact ⟨rfl, hs, hmentions, c, t, main, owner, target, r, rfl, ht, hmatched, hinserted, hmain,
    howner, htarget, hr, hjoins⟩

end ThreatGraph
