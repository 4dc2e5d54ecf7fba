import Mathlib.Logic.Relation
import ThreatGraph.Mapping.Loading
import ThreatGraph.Proofs.Attachment

/-!
# The helpers of a value form a tree

A value needs helpers to any depth: a list of nested objects, each with maps and nested objects of
its own. They come in one list, in which every helper stands behind what it is tied to
(`HangFrom`), so nothing is created before its owner. As no two helpers share a variable, a helper
is tied up once, and following the ties leads from the owner of the value to every one of them
(`convertValue_tree`).

`HangFrom` is kept by every way to build attachments, so it follows from `Attached` by induction;
that the helpers differ comes from their variables, which are drawn one by one.
-/

namespace ThreatGraph

open Naming

/-! ## Helpers behind their owners -/

/-- Each of the helpers is tied to a thing whose variable is known or to a helper that comes before
it. -/
inductive HangFrom : List String → List Helper → Prop
  | nil (known : List String) : HangFrom known []
  /-- the first is tied to what is known, and is known to the others -/
  | cons {known : List String} {owner : String} {h : Helper} {rest : List Helper} :
    owner ∈ known → h.relation.allPlayers = [owner, h.entity.var] →
    HangFrom (h.entity.var :: known) rest → HangFrom known (h :: rest)

/-- One of the helpers ties `y` to `x`. -/
def TiedBy (helpers : List Helper) (x y : String) : Prop :=
  ∃ h ∈ helpers, h.relation.allPlayers = [x, y]

/-- Helpers that form a tree when they come one after the other. -/
structure HelperTree (root : String) (helpers : List Helper) : Prop where
  /-- a tie has two players, the root or an earlier helper, and its own helper -/
  tied : ∀ before h after, helpers = before ++ h :: after →
    ∃ x, h.relation.allPlayers = [x, h.entity.var] ∧
      (x = root ∨ ∃ other ∈ before, other.entity.var = x)
  /-- a helper has no other tie than its own -/
  once : ∀ before h after, helpers = before ++ h :: after →
    ∀ other ∈ before ++ after, ∀ x, other.relation.allPlayers ≠ [x, h.entity.var]
  /-- the ties lead from the root to every helper -/
  reached : ∀ h ∈ helpers, Relation.TransGen (TiedBy helpers) root h.entity.var

namespace HangFrom

variable {known known' : List String} {helpers others before after : List Helper} {h : Helper}

theorem mono (hhang : HangFrom known helpers) (hknown : known ⊆ known') :
    HangFrom known' helpers := by
  induction hhang generalizing known' with
  | nil => exact .nil known'
  | @cons known owner h rest howner hplayers _ ih =>
    apply HangFrom.cons (hknown howner) hplayers
    apply ih
    exact List.cons_subset_cons h.entity.var hknown

theorem append (hhang : HangFrom known helpers) (hothers : HangFrom known others) :
    HangFrom known (helpers ++ others) := by
  induction hhang with
  | nil => exact hothers
  | cons howner hplayers _ ih =>
    apply HangFrom.cons howner hplayers
    exact ih (hothers.mono (List.subset_cons_self _ _))

/-- What a helper is tied to is known, or comes before it. -/
theorem tied (hhang : HangFrom known helpers) (hsplit : helpers = before ++ h :: after) :
    ∃ x, h.relation.allPlayers = [x, h.entity.var] ∧
      (x ∈ known ∨ ∃ other ∈ before, other.entity.var = x) := by
  induction hhang generalizing before with
  | nil => simp at hsplit
  | @cons known owner first rest howner hplayers _ ih =>
    rcases List.cons_eq_append_iff.mp hsplit with ⟨rfl, hcons⟩ | ⟨others, rfl, hrest⟩
    · obtain ⟨rfl, -⟩ := List.cons.inj hcons
      exact ⟨owner, hplayers, .inl howner⟩
    · obtain ⟨x, hx, hplace⟩ := ih hrest
      refine ⟨x, hx, ?_⟩
      rcases hplace with hknown | ⟨other, hother, hvar⟩
      · rcases List.mem_cons.mp hknown with rfl | hknown
        · exact .inr ⟨first, List.mem_cons_self, rfl⟩
        · exact .inl hknown
      · exact .inr ⟨other, List.mem_cons_of_mem _ hother, hvar⟩

/-- The ties lead from what is known to every helper. -/
theorem reached (hhang : HangFrom known helpers) (hmem : h ∈ helpers) :
    ∃ x ∈ known, Relation.TransGen (TiedBy helpers) x h.entity.var := by
  induction hhang with
  | nil => exact absurd hmem List.not_mem_nil
  | @cons known owner first rest howner hplayers _ ih =>
    have hfirst : TiedBy (first :: rest) owner first.entity.var :=
      ⟨first, List.mem_cons_self, hplayers⟩
    have hrest : TiedBy rest ≤ TiedBy (first :: rest) := by
      rintro y z ⟨other, hother, hplayers⟩
      exact ⟨other, List.mem_cons_of_mem _ hother, hplayers⟩
    rcases List.mem_cons.mp hmem with rfl | hmem
    · exact ⟨owner, howner, .single hfirst⟩
    · obtain ⟨x, hx, hpath⟩ := ih hmem
      have hpath := Relation.TransGen.mono hrest x h.entity.var hpath
      -- a path that begins at the first helper is made longer by its tie
      rcases List.mem_cons.mp hx with rfl | hx
      · exact ⟨owner, howner, .head hfirst hpath⟩
      · exact ⟨x, hx, hpath⟩

/-- Where no two helpers share a variable, a helper has no other tie than its own. -/
theorem tied_once (hhang : HangFrom known (before ++ h :: after))
    (hnodup : ((before ++ h :: after).map fun other => other.entity.var).Nodup) {other : Helper}
    (hother : other ∈ before ++ after) (x : String) :
    other.relation.allPlayers ≠ [x, h.entity.var] := by
  intro hplayers
  obtain ⟨front, back, hsplit⟩ : ∃ front back, before ++ h :: after = front ++ other :: back :=
    List.append_of_mem (by
      rcases List.mem_append.mp hother with hother | hother
      · exact List.mem_append_left _ hother
      · exact List.mem_append_right _ (List.mem_cons_of_mem _ hother))
  obtain ⟨y, htie, -⟩ := hhang.tied hsplit
  have hvar : other.entity.var = h.entity.var := by
    have hlast : [x, h.entity.var].getLast? = [y, other.entity.var].getLast? := by
      rw [← hplayers, htie]
    exact (Option.some.inj hlast).symm
  rw [List.map_append, List.map_cons] at hnodup
  have hfresh := (List.nodup_middle.mp hnodup).notMem
  rw [← List.map_append] at hfresh
  exact hfresh (hvar ▸ List.mem_map_of_mem hother)

end HangFrom

/-! ## The helpers of values -/

/-- The attachments of a value hang from the object that the value belongs to. -/
theorem Attached.hangFrom {r : Reference} {v w : Variables} {a : Attachments}
    (h : Attached r v a w) : HangFrom r.var.toList a.helpers := by
  induction h with
  | nothing => exact .nil _
  | append _ _ iha ihb => exact iha.append ihb
  | link => exact .nil _
  | @helper r self v w inside ownerVar entity tie _ hself _ hvar _ hplayers ih =>
    rw [hvar]
    rw [hself] at ih
    apply HangFrom.cons List.mem_cons_self hplayers
    exact ih.mono (List.cons_subset_cons _ (List.nil_subset _))

/-- The variables of helpers are among those of the attachments, in their order. -/
theorem Attachments.sublist_vars (a : Attachments) :
    (a.helpers.map fun h => h.entity.var).Sublist a.vars := by
  refine List.Sublist.trans ?_ (List.sublist_append_left _ _)
  induction a.helpers with
  | nil => exact .slnil
  | cons h rest ih =>
    rw [List.map_cons, List.flatMap_cons]
    exact (ih.cons h.relation.var).cons_cons h.entity.var

/-- No two helpers share a variable. -/
theorem Attached.nodup_helpers {r : Reference} {v w : Variables} {a : Attachments}
    (h : Attached r v a w) : (a.helpers.map fun h => h.entity.var).Nodup := by
  have hvars : a.vars.Nodup := h.vars_perm.nodup_iff.mpr (Variables.nodup_between v w)
  exact a.sublist_vars.nodup hvars

/-- So the helpers of a value form a tree behind the owner of the value. -/
theorem Attached.helperTree {r : Reference} {root : String} (hroot : r.var = some root)
    {v w : Variables} {a : Attachments} (h : Attached r v a w) : HelperTree root a.helpers := by
  have hhang : HangFrom [root] a.helpers := by
    have hhang := h.hangFrom
    rwa [hroot] at hhang
  constructor
  case tied =>
    intro before helper after hsplit
    obtain ⟨x, hplayers, hplace⟩ := hhang.tied hsplit
    exact ⟨x, hplayers, hplace.imp_left List.mem_singleton.mp⟩
  case once =>
    intro before helper after hsplit other hother x
    have hnodup := h.nodup_helpers
    rw [hsplit] at hhang hnodup
    exact hhang.tied_once hnodup hother x
  case reached =>
    intro helper hhelper
    obtain ⟨x, hx, hpath⟩ := hhang.reached hhelper
    obtain rfl := List.mem_singleton.mp hx
    exact hpath

/-- **Helpers form a tree.** If a value of any type is converted for an owner with a variable, then
there is no main thing, the helpers match nothing, and they are inserted one after the other, each
followed by its tie. A tie has two players: the owner of the value or a helper that comes earlier,
and the helper itself. No helper has a second tie, and all are reached from the owner. -/
theorem convertValue_tree {m : Mapping} {owner : Owner} {root : String}
    (hroot : owner.reference.var = some root) {type : ValueType} {raw : Json} {v w : Variables}
    {c : Converted} (h : (convertValue m owner type raw).outcome v = (.ok c, w)) :
    let d : Draft := { toAttachments := c.attachments }
    d.mainStatement.isEmpty = true ∧ d.helperStatement.matched = [] ∧
      ∃ helpers : List Helper,
        d.helperStatement.inserted =
          helpers.flatMap (fun h => [.entity h.entity, .relation h.relation]) ∧
        HelperTree root helpers := by
  intro d
  have hattached : Attached owner.reference v c.attachments w := convertValue_attached type raw h
  exact ⟨rfl, rfl, c.attachments.helpers, rfl, hattached.helperTree hroot⟩

/-- The documents of a small mapping: files with sections, which have hashes and further sections.
-/
def sectionDocuments : Documents where
  classes := { cyberObservable := ["file"] }
  cyberObservables := [("file", { typeName := "file" })]
  composites :=
    [("section",
      { typeName := "section"
        attributes :=
          [("name", { name := "name", valueType := .scalar .string }),
            ("hashes", { name := "hashes", valueType := .keyValue "hash" }),
            ("parts", { name := "parts", valueType := .list (.composite "section") })]
        relation := ⟨"sectioning", "whole", "part"⟩ })]
  keyValues :=
    [("hash",
      { valueType := .scalar .string
        valueAttribute := "digest"
        keys := [("MD5", "md5"), ("SHA-1", "sha1")]
        relation := ⟨"hashing", "hashed", "hash"⟩ })]
  dictionary := ⟨"key", "property", ⟨"entry", "holder", "held"⟩, []⟩

/-- Two sections. The first has a part with two hashes, the second has a hash. -/
def hashedSections : Json :=
  .array
    [.object
      [("parts",
        .array [.object [("hashes", .object [("MD5", .string "a"), ("SHA-1", .string "b")])]]),
        ("name", .string "text")],
      .object [("hashes", .object [("MD5", .string "c")])]]

/-- The sections and hashes hang from the file, each from what it is a part or a hash of. -/
theorem convertValue_tree_sections :
    let owner : Owner := ⟨.known (some "file--1") (some "file") (some "file"), "sections"⟩
    ∃ m c w, Mapping.ofDocuments sectionDocuments = .ok m ∧
      (convertValue m owner (.list (.composite "section")) hashedSections).outcome {} =
        (.ok c, w) ∧
      owner.reference.var = some "file" ∧
      c.attachments.helpers.map (fun h => h.relation.allPlayers) =
        [["file", "v0"], ["v0", "v1"], ["v1", "v2"], ["v1", "v4"], ["file", "v8"],
          ["v8", "v9"]] ∧
      ∃ helpers : List Helper,
        c.attachments.helperStatement.inserted =
          helpers.flatMap (fun h => [.entity h.entity, .relation h.relation]) ∧
        HelperTree "file" helpers := by
  intro owner
  have hrun : ∃ m c w, Mapping.ofDocuments sectionDocuments = .ok m ∧
      (convertValue m owner (.list (.composite "section")) hashedSections).outcome {} =
        (.ok c, w) ∧
      owner.reference.var = some "file" ∧
      c.attachments.helpers.map (fun h => h.relation.allPlayers) =
        [["file", "v0"], ["v0", "v1"], ["v1", "v2"], ["v1", "v4"], ["file", "v8"],
          ["v8", "v9"]] :=
    ⟨_, _, _, rfl, rfl, rfl, by decide +kernel⟩
  obtain ⟨m, c, w, hm, hc, hroot, hplayers⟩ := hrun
  obtain ⟨-, -, htree⟩ := convertValue_tree hroot hc
  exact ⟨m, c, w, hm, hc, hroot, hplayers, htree⟩

end ThreatGraph
