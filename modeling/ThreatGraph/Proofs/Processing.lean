import ThreatGraph.Proofs.Construction
import ThreatGraph.Proofs.Likeness
import ThreatGraph.Proofs.Trace

/-!
# What becomes of each property

The properties of an object are taken one after the other, its own first, then those of its
predefined extension (`Subject.listed`). A property is converted under an entry of the mapping or
left out for a reason, and which of the two it is does not hang on the properties before it
(`Subject.accept`). So what an object is converted to is put together from parts, one for each of
its properties (`Subject.convert_parts`), and what holds of the whole is shown part by part.

`Subject.Comes` is the step: a property and the part that it becomes, whatever the supply. It is
shown of one property and carried along the members by induction. Sums over parts are then taken
member by member with `Subject.gather_forall₂`.
-/

namespace ThreatGraph

open Variables (nameOf)
open Naming

/-! ## Main things -/

/-- The main thing as one of the things of its statement. -/
def MainThing.thing : MainThing → Thing
  | .entity e => .entity e
  | .relation r _ => .relation r

/-- The thing that stands for the object: what its statement inserts first. -/
def OrderedStatements.main? (s : OrderedStatements) : Option Thing :=
  (s.entities.or s.relations).bind fun t => t.inserted.head?

/-- The main thing is what the statement for it inserts first, and links have theirs. -/
theorem Draft.main?_of_order {d : Draft} {main : MainThing} {statements : OrderedStatements}
    (hmain : d.main = some main) (h : d.order = .ok statements) :
    statements.main? = some main.thing ∧ statements.embedded = d.linkStatement.nonempty? := by
  rw [order_eq, hmain] at h
  cases main with
  | entity e =>
    obtain rfl := Except.ok.inj h
    exact ⟨rfl, rfl⟩
  | relation r players =>
    obtain rfl := Except.ok.inj h
    exact ⟨rfl, rfl⟩

/-- Players are added to the roles of a relation, and nothing else of it is changed. -/
theorem Relation.foldl_addPlayer (players : List (String × Entity)) (r : Relation) :
    players.foldl (fun r p => r.addPlayer p.1 p.2.var) r =
      { r with
        roles := (players.map fun p => (p.1, p.2.var)).foldl
          (fun roles pair => roles.add pair.1 pair.2) r.roles } := by
  induction players generalizing r with
  | nil => rfl
  | cons first rest ih =>
    rw [List.foldl_cons, ih]
    rfl

/-- The relation that stands for an object, field by field. -/
theorem Subject.mainRelation_eq (s : Subject) (n : Nat) (typeName : String)
    (players : List (String × Entity)) (attributes : List (String × List String)) :
    s.mainRelation n typeName players attributes =
      .relation
        { var := nameOf n
          typeName
          attributes := attributes.foldl (fun a given => a.addAll given.1 given.2)
            (Attributes.addAll [] relationNameAttribute (s.relationName typeName))
          roles := Multimap.ofPairs (players.map fun p => (p.1, p.2.var)) }
        (players.map Prod.snd) := by
  simp only [mainRelation, Relation.foldl_addAttributes, Relation.foldl_addPlayer]
  rfl

/-! ## Parts -/

namespace Collected

variable (parts : List Collected)

/-- What parts give together is put together in their order. -/
theorem all_append (parts' : List Collected) : all (parts ++ parts') = all parts ++ all parts' := by
  induction parts with
  | nil => rfl
  | cons part rest ih =>
    change part ++ all (rest ++ parts') = part ++ all rest ++ all parts'
    rw [ih, append_assoc]

/-- What all parts hold of one kind is what each of them holds, in order. -/
theorem all_flatMap {α : Type} {f : Collected → List α} (hnothing : f {} = [])
    (happend : ∀ a b, f (a ++ b) = f a ++ f b) : f (all parts) = parts.flatMap f := by
  induction parts with
  | nil => exact hnothing
  | cons part rest ih =>
    rw [List.flatMap_cons, ← ih]
    exact happend part (all rest)

end Collected

/-! ## Properties one by one -/

namespace Subject

variable {s : Subject} {p : Property} {v w : Variables} {c : Collected}

/-- Members of an object as properties of it. -/
def labelled (entry : String → Except MappingDefect (Option AttributeInfo))
    (label : String → String) (members : Members) : List Property :=
  members.map fun member => ⟨label member.1, entry member.1, member.2⟩

/-- The properties of an object in the order in which they are taken: its own but for its role
players, then those of its predefined extension. An object without a class is not looked into. -/
def listed (s : Subject) : List Property :=
  if (s.mapping.classOf? s.stixType).isSome then
    labelled (s.mapping.attribute? s.stixType) id s.ownMembers ++
      s.extension?.elim [] fun (extension, members) =>
        labelled (s.mapping.extensionAttribute? s.stixType extension)
          (fun property => extension ++ "." ++ property) members
  else []

/-- The entry under which a property is converted, or the reason for which it is left out, if it is
the first that is taken, when only the object itself has a variable. -/
def accept (s : Subject) (p : Property) : Except SkipReason AttributeInfo :=
  match p.answer.toOption.join with
  | none => .error .unmapped
  | some info =>
    let first := (convertValue s.mapping ⟨s.reference, info.name⟩ info.valueType p.raw).outcome ⟨1⟩
    (first.1.mapError .failed).map fun _ => info

/-- The report of a property that is left out. -/
def report? (s : Subject) (p : Property) : Option Skipped :=
  match s.accept p with
  | .ok _ => none
  | .error reason => some ⟨p.label, reason⟩

/-- What is made of the values of the properties that are converted, in order. -/
def gather {α : Type} (s : Subject) (f : AttributeInfo → Json → List α) : List α :=
  s.listed.flatMap fun p => (s.accept p).toOption.elim [] fun info => f info p.raw

/-- What a property comes to: nothing but a report if it is left out, else what its value is
converted to. -/
inductive Comes (s : Subject) (p : Property) : Collected → Prop
  | skipped {reason : SkipReason} : s.accept p = .error reason →
    Comes s p { skipped := [⟨p.label, reason⟩] }
  | converted {info : AttributeInfo} {value : Converted} {v w : Variables} :
    s.accept p = .ok info →
    (convertValue s.mapping ⟨s.reference, info.name⟩ info.valueType p.raw).outcome v =
      (.ok value, w) →
    Comes s p
      { attributes := [(info.name, value.literals)], attachments := value.attachments }

/-- Whatever is taken before it, a property with an entry is accepted if its value is converted. -/
theorem accept_eq {info : AttributeInfo} (hanswer : p.answer = .ok (some info))
    (hv : 0 < v.issued) :
    s.accept p =
      (((convertValue s.mapping ⟨s.reference, info.name⟩ info.valueType p.raw).outcome v).1.mapError
        .failed).map fun _ => info := by
  have hfollows := convertValue_follows (Shift.gap 1 (v.issued - 1)) s.mapping
    ⟨s.reference, info.name⟩ info.valueType p.raw
  have hfixed : s.reference.rename (Shift.gap 1 (v.issued - 1)).rename = s.reference :=
    Reference.rename_eq_self (reference_first.openGap Nat.one_pos _)
  rw [Owner.rename, hfixed] at hfollows
  rw [hfollows.outcome_gap hv, accept, hanswer]
  change Except.map _ (Except.mapError _ (_ : Except PropertyDefect Converted)) = _
  cases ((convertValue s.mapping ⟨s.reference, info.name⟩ info.valueType p.raw).outcome ⟨1⟩).1
  · rfl
  · rfl

/-- A property comes to what its entry says, or is reported. -/
theorem property_comes {info : Option AttributeInfo} (hanswer : p.answer = .ok info)
    (hv : 0 < v.issued) (h : (s.property s.reference p.label info p.raw).outcome v = (.ok c, w)) :
    s.Comes p c := by
  rcases property_ok h with
    ⟨rfl, rfl, -⟩ | ⟨i, value, rfl, hvalue, rfl⟩ | ⟨i, defect, rfl, -, hfails, rfl⟩
  · apply Comes.skipped
    rw [accept, hanswer]
    rfl
  · apply Comes.converted _ hvalue
    rw [accept_eq hanswer hv, hvalue]
    rfl
  · apply Comes.skipped
    rw [accept_eq hanswer hv, hfails]
    rfl

/-- Properties come to parts, one for each and in order. -/
theorem propertiesBy_comes {entry : String → Except MappingDefect (Option AttributeInfo)}
    {label : String → String} {members : Members} (hv : 0 < v.issued)
    (h : (s.propertiesBy s.reference entry label members).outcome v = (.ok c, w)) :
    ∃ parts, c = .all parts ∧ List.Forall₂ s.Comes (labelled entry label members) parts := by
  induction members generalizing v c with
  | nil =>
    obtain ⟨rfl, -⟩ := pure_eq_ok.mp h
    exact ⟨[], rfl, .nil⟩
  | cons member rest ih =>
    obtain ⟨info, first, others, u, hanswer, hfirst, hothers, rfl⟩ := propertiesBy_cons_ok h
    obtain ⟨parts, rfl, hparts⟩ := ih (Nat.lt_of_lt_of_le hv (property_drawn hfirst).le) hothers
    exact ⟨first :: parts, rfl, .cons (property_comes hanswer hv hfirst) hparts⟩

/-- What all properties of an object are converted to consists of what each of them comes to. -/
theorem properties_comes {extensions : Option Members} {objectClass : ObjectClass}
    (hclass : s.mapping.classOf? s.stixType = some objectClass)
    (hextensions : s.extensions = .ok extensions) (hv : 0 < v.issued)
    (h : (s.properties s.reference s.roleplayers extensions).outcome v = (.ok c, w)) :
    ∃ parts, c = .all parts ∧ List.Forall₂ s.Comes s.listed parts := by
  obtain ⟨-, own, u, hown, hrest⟩ := (properties_parts hextensions).mp h
  obtain ⟨parts, rfl, hparts⟩ := propertiesBy_comes hv hown
  rw [listed, hclass, Option.isSome_some, if_pos rfl]
  rcases hrest with ⟨hnone, rfl, -⟩ | ⟨extension, members, more, hsome, hmore, rfl⟩
  · rw [hnone, Option.elim_none, List.append_nil]
    exact ⟨parts, rfl, hparts⟩
  · have hu := Nat.lt_of_lt_of_le hv (propertiesBy_drawn _ hown).le
    obtain ⟨others, rfl, hothers⟩ := propertiesBy_comes hu hmore
    rw [hsome, Option.elim_some]
    exact ⟨parts ++ others, (Collected.all_append ..).symm, List.rel_append hparts hothers⟩

/-- The properties that are left out are reported in order, each once. -/
theorem skipped_eq {listed : List Property} {parts : List Collected}
    (hparts : List.Forall₂ s.Comes listed parts) :
    (Collected.all parts).skipped = listed.filterMap s.report? := by
  rw [Collected.all_flatMap (f := fun part => part.skipped) parts rfl fun _ _ => rfl]
  induction hparts with
  | nil => rfl
  | cons hcomes _ ih =>
    rw [List.flatMap_cons, List.filterMap_cons, ih, report?]
    cases hcomes with
    | skipped hreason => rw [hreason]; rfl
    | converted hinfo _ => rw [hinfo]; rfl

/-- What is made of all parts corresponds to what is made of the properties, if it does so for each
value and nothing is made of reports. -/
theorem gather_forall₂ {α β : Type} {R : α → β → Prop} {f : AttributeInfo → Json → List α}
    {g : Collected → List β} {parts : List Collected}
    (hparts : List.Forall₂ s.Comes s.listed parts)
    (hskipped : ∀ skipped, g { skipped } = [])
    (hconverted : ∀ {info : AttributeInfo} {raw : Json} {value : Converted} {v w : Variables},
      (convertValue s.mapping ⟨s.reference, info.name⟩ info.valueType raw).outcome v =
        (.ok value, w) →
      List.Forall₂ R (f info raw)
        (g { attributes := [(info.name, value.literals)], attachments := value.attachments })) :
    List.Forall₂ R (s.gather f) (parts.flatMap g) := by
  rw [gather]
  -- member by member: what is skipped adds nothing, what is converted adds what it is made into
  generalize s.listed = listed at hparts ⊢
  induction hparts with
  | nil => exact .nil
  | cons hcomes _ ih =>
    rw [List.flatMap_cons, List.flatMap_cons]
    apply List.rel_append _ ih
    cases hcomes with
    | skipped hreason =>
      rw [hreason, hskipped]
      exact .nil
    | converted hinfo hvalue =>
      rw [hinfo]
      exact hconverted hvalue

/-! ## The object as a whole -/

/-- The main thing of an object of a class and of a type in the target schema, with the attributes
that its properties give it. -/
inductive Stands (s : Subject) (typeName : String) (attributes : List (String × List String)) :
    ObjectClass → MainThing → Prop
  | entity {objectClass : ObjectClass} : objectClass ≠ .relationship →
    Stands s typeName attributes objectClass (mainEntity 0 typeName attributes)
  | relation {players : List (String × Entity)} {v : Variables} :
    (s.players typeName s.roleplayers).outcome ⟨1⟩ = (.ok players, v) →
    Stands s typeName attributes .relationship (s.mainRelation 0 typeName players attributes)

/-- An object of a class is converted to its main thing and to what its properties come to. -/
theorem convert_parts {objectClass : ObjectClass} {c : Conversion}
    (hclass : s.mapping.classOf? s.stixType = some objectClass) (hc : s.convert = .ok c) :
    ∃ extensions typeName parts main, s.extensions = .ok extensions ∧
      s.mapping.targetType? s.stixId s.stixType s.object extensions = .ok (some typeName) ∧
      List.Forall₂ s.Comes s.listed parts ∧
      s.Stands typeName (Collected.all parts).attributes objectClass main ∧
      c.skipped = (Collected.all parts).skipped ∧
      Draft.order { toAttachments := (Collected.all parts).attachments, main := some main } =
        .ok c.statements := by
  rcases convert_ok hc with ⟨hnone, -⟩ | ⟨found, d, skipped, w, statements, hfound, hd, horder, rfl⟩
  · cases hnone.symm.trans hclass
  obtain rfl := Option.some.inj (hfound.symm.trans hclass)
  obtain ⟨extensions, typeName, hextensions, htarget, hd⟩ := draft_eq_ok.mp hd
  have hreference := reference_eq hextensions htarget
  -- a relation draws variables for its players first, so its properties start on a later supply
  by_cases hrelationship : found = .relationship
  · subst hrelationship
    rw [if_pos rfl] at hd
    obtain ⟨roleplayers, players, v, collected, hroleplayers, hplayers, -, hcollected, hdraft⟩ :=
      relationDraft_eq_ok.mp hd
    obtain rfl : s.roleplayers = roleplayers := roleplayers_eq hclass hroleplayers
    obtain ⟨rfl, rfl⟩ := Prod.mk.inj hdraft
    have hv : 0 < v.issued := (players_vars s.roleplayers hplayers).1
    obtain ⟨parts, rfl, hparts⟩ :=
      properties_comes hclass hextensions hv (by rwa [hreference])
    exact ⟨extensions, typeName, parts, _, hextensions, htarget, hparts, .relation hplayers, rfl,
      horder⟩
  · rw [if_neg hrelationship] at hd
    obtain ⟨collected, hcollected, hdraft⟩ := entityDraft_eq_ok.mp hd
    obtain ⟨rfl, rfl⟩ := Prod.mk.inj hdraft
    have hnone : s.roleplayers = [] := roleplayers_eq_nil hclass hrelationship
    obtain ⟨parts, rfl, hparts⟩ :=
      properties_comes hclass hextensions Nat.one_pos (by rwa [hreference, hnone])
    exact ⟨extensions, typeName, parts, _, hextensions, htarget, hparts, .entity hrelationship, rfl,
      horder⟩

end Subject

end ThreatGraph
