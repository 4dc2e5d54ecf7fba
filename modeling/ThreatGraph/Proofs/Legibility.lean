import Mathlib.Data.List.TakeWhile
import ThreatGraph.Proofs.Construction
import ThreatGraph.Proofs.Naming
import ThreatGraph.Proofs.Wording

/-!
# Statements can be read in one way only

A format is `Legible` if whatever it writes can be read off the front of a text, provided that what
follows does not begin with a character that could go on with it. Formats are put together from
words, fixed marks, pairs, and lists of which every item begins with one mark, and stay legible
that way.

The text of a statement is such a format: names end before a blank, a comma or a bracket, literals
at their second quote, and only patterns begin with a dollar sign. So two statements with the same
text are the same (`Statement.eq_of_text`).
-/

namespace ThreatGraph

/-! ## Legible formats -/

/-- The text is empty or begins with a character of `q`. -/
def Begins (q : Char → Prop) (text : List Char) : Prop := ∀ c ∈ text.head?, q c

@[simp] theorem begins_nil (q : Char → Prop) : Begins q [] := by simp [Begins]

@[simp] theorem begins_cons {q : Char → Prop} {c : Char} {text : List Char} :
    Begins q (c :: text) ↔ q c := by simp [Begins]

/-- What `f` writes of things that satisfy `P` can be read off the front of a text if what follows
is nothing or begins with a character of `q`. -/
def Legible {α : Type} (P : α → Prop) (q : Char → Prop) (f : α → List Char) : Prop :=
  ∀ ⦃a b : α⦄ ⦃rest rest' : List Char⦄, P a → P b → Begins q rest → Begins q rest' →
    f a ++ rest = f b ++ rest' → a = b ∧ rest = rest'

namespace Legible

variable {α β : Type} {P P' : α → Prop} {Q : β → Prop} {q q' : Char → Prop} {f : α → List Char}
  {g : β → List Char}

theorem mono (h : Legible P q f) (hP : ∀ a, P' a → P a) (hq : ∀ c, q' c → q c) :
    Legible P' q' f := by
  intro a b rest rest' ha hb hrest hrest' heq
  exact h (hP a ha) (hP b hb) (fun c hc => hq c (hrest c hc)) (fun c hc => hq c (hrest' c hc)) heq

/-- Things may be written by what determines them. -/
theorem comap (h : Legible P q f) (parts : β → α) (hP : ∀ b, Q b → P (parts b))
    (hinj : ∀ b b', Q b → Q b' → parts b = parts b' → b = b') :
    Legible Q q fun b => f (parts b) := by
  intro a b rest rest' ha hb hrest hrest' heq
  obtain ⟨hparts, hrests⟩ := h (hP a ha) (hP b hb) hrest hrest' heq
  exact ⟨hinj a b ha hb hparts, hrests⟩

/-- A word ends where a character follows that it cannot have. -/
theorem word (p : Char → Bool) :
    Legible (fun w : List Char => ∀ c ∈ w, p c = true) (fun c => p c = false) id := by
  have htake {w rest : List Char} (hw : ∀ c ∈ w, p c = true)
      (hrest : Begins (fun c => p c = false) rest) :
      (w ++ rest).takeWhile p = w ∧ (w ++ rest).dropWhile p = rest := by
    rw [List.takeWhile_append_of_pos hw, List.dropWhile_append_of_pos hw]
    cases rest with
    | nil => simp
    | cons c rest => simp [begins_cons.mp hrest]
  intro w w' rest rest' hw hw' hrest hrest' heq
  obtain ⟨hword, hafter⟩ := htake hw hrest
  obtain ⟨hword', hafter'⟩ := htake hw' hrest'
  simp only [id] at heq
  rw [heq] at hword hafter
  exact ⟨hword.symm.trans hword', hafter.symm.trans hafter'⟩

/-- A fixed mark may stand in front. -/
theorem behind (mark : List Char) (h : Legible P q f) : Legible P q fun a => mark ++ f a := by
  intro a b rest rest' ha hb hrest hrest' heq
  rw [List.append_assoc, List.append_assoc] at heq
  exact h ha hb hrest hrest' (List.append_cancel_left heq)

/-- With a fixed mark behind that ends it, a format can be followed by anything. -/
theorem before (h : Legible P q f) {c : Char} (hc : q c) (mark : List Char) :
    Legible P (fun _ => True) fun a => f a ++ c :: mark := by
  intro a b rest rest' ha hb _ _ heq
  simp only [List.append_assoc, List.cons_append] at heq
  obtain ⟨rfl, hrests⟩ := h ha hb (begins_cons.mpr hc) (begins_cons.mpr hc) heq
  exact ⟨rfl, List.append_cancel_left (List.cons.inj hrests).2⟩

/-- One format may follow another if it begins with what ends the other. -/
theorem pair (hf : Legible P q f) (hg : Legible Q q' g)
    (hstart : ∀ b, Q b → ∃ c text, g b = c :: text ∧ q c) :
    Legible (fun x : α × β => P x.1 ∧ Q x.2) q' fun x => f x.1 ++ g x.2 := by
  rintro ⟨a, b⟩ ⟨a', b'⟩ rest rest' ⟨ha, hb⟩ ⟨ha', hb'⟩ hrest hrest' heq
  have hbegins : ∀ x, Q x → ∀ more, Begins q (g x ++ more) := by
    intro x hx more
    obtain ⟨c, text, htext, hc⟩ := hstart x hx
    rw [htext]
    exact begins_cons.mpr hc
  simp only [List.append_assoc] at heq
  obtain ⟨rfl, hafter⟩ := hf ha ha' (hbegins b hb rest) (hbegins b' hb' rest') heq
  obtain ⟨rfl, hrests⟩ := hg hb hb' hrest hrest' hafter
  exact ⟨rfl, hrests⟩

/-- Items that all begin with one mark may follow each other, until something else begins. -/
theorem list (h : Legible P q f) (mark : Char) (hmark : q mark)
    (hf : ∀ a, P a → ∃ text, f a = mark :: text) :
    Legible (fun items : List α => ∀ a ∈ items, P a) (fun c => q c ∧ c ≠ mark)
      fun items => items.flatMap f := by
  have hbegins : ∀ items : List α, (∀ a ∈ items, P a) → ∀ rest,
      Begins (fun c => q c ∧ c ≠ mark) rest → Begins q (items.flatMap f ++ rest) := by
    intro items hitems rest hrest
    cases items with
    | nil => exact fun c hc => (hrest c hc).1
    | cons a items =>
      obtain ⟨text, htext⟩ := hf a (hitems a List.mem_cons_self)
      rw [List.flatMap_cons, htext]
      exact begins_cons.mpr hmark
  -- a list that is at its end is not followed by another item
  have hend : ∀ (a : α) (items : List α) (rest rest' : List Char), P a →
      Begins (fun c => q c ∧ c ≠ mark) rest →
      ¬ rest = (a :: items).flatMap f ++ rest' := by
    intro a items rest rest' ha hrest heq
    obtain ⟨text, htext⟩ := hf a ha
    rw [heq, List.flatMap_cons, htext] at hrest
    exact (begins_cons.mp hrest).2 rfl
  intro items items' rest rest' hitems hitems' hrest hrest' heq
  induction items generalizing items' with
  | nil =>
    cases items' with
    | nil => exact ⟨rfl, heq⟩
    | cons a more => exact absurd heq (hend a more _ _ (hitems' a List.mem_cons_self) hrest)
  | cons a more ih =>
    have ha := hitems a List.mem_cons_self
    have hmore := fun b hb => hitems b (List.mem_cons_of_mem _ hb)
    cases items' with
    | nil => exact absurd heq.symm (hend a more _ _ ha hrest')
    | cons a' more' =>
      have ha' := hitems' a' List.mem_cons_self
      have hmore' := fun b hb => hitems' b (List.mem_cons_of_mem _ hb)
      simp only [List.flatMap_cons, List.append_assoc] at heq
      obtain ⟨rfl, hafter⟩ :=
        h ha ha' (hbegins more hmore _ hrest) (hbegins more' hmore' _ hrest') heq
      obtain ⟨rfl, hrests⟩ := ih hmore hmore' hafter
      exact ⟨rfl, hrests⟩

end Legible

/-! ## Names and values -/

/-- Names are legible in front of whatever is no character of names. -/
theorem legible_name : Legible IsName (fun c => isNameChar c = false) String.toList :=
  (Legible.word isNameChar).comap String.toList (fun _ h => h.2)
    fun _ _ _ _ h => String.toList_inj.mp h

/-- Tokens are legible in front of whatever is no character of tokens. -/
theorem legible_token : Legible IsToken (fun c => isTokenChar c = false) String.toList :=
  (Legible.word isTokenChar).comap String.toList (fun _ h => h.2)
    fun _ _ _ _ h => String.toList_inj.mp h

/-- A literal ends at its second quote, so anything may follow it. -/
theorem legible_literal :
    Legible (fun s => ∃ text, s = quote text) (fun _ => True) String.toList := by
  have hbody := (Legible.word (· != '"')).before (c := '"') (by decide) []
  rintro _ _ rest rest' ⟨text, rfl⟩ ⟨text', rfl⟩ hrest hrest' heq
  rw [toList_quote, toList_quote, List.cons_append, List.cons_append] at heq
  obtain ⟨hquotes, hrests⟩ := hbody (quoteBody_ne_quote text) (quoteBody_ne_quote text') hrest
    hrest' (List.cons.inj heq).2
  refine ⟨String.toList_inj.mp ?_, hrests⟩
  rw [toList_quote, toList_quote, hquotes]

/-- What ends a value in a pattern. -/
def EndsValue (c : Char) : Prop := c = ',' ∨ c = ';'

/-- Values are legible in front of what ends them. -/
theorem legible_value : Legible IsValue EndsValue String.toList := by
  have hends : ∀ c, EndsValue c → isTokenChar c = false := by
    rintro c (rfl | rfl) <;> decide
  -- a literal begins with a quote, which is in no token
  have hmixed : ∀ {text s : String} {rest rest' : List Char}, IsToken s →
      (quote text).toList ++ rest ≠ s.toList ++ rest' := by
    rintro text s rest rest' ⟨hempty, hchars⟩ heq
    rw [toList_quote] at heq
    cases hs : s.toList with
    | nil => exact hempty (by simpa using hs)
    | cons c more =>
      rw [hs] at heq hchars
      obtain rfl : '"' = c := (List.cons.inj heq).1
      exact absurd (hchars '"' List.mem_cons_self) (by decide)
  rintro s s' rest rest' (hs | hs) (hs' | hs') hrest hrest' heq
  · exact legible_literal hs hs' (fun _ _ => trivial) (fun _ _ => trivial) heq
  · obtain ⟨text, rfl⟩ := hs
    exact absurd heq (hmixed hs')
  · obtain ⟨text, rfl⟩ := hs'
    exact absurd heq.symm (hmixed hs)
  · exact legible_token hs hs' (fun c hc => hends c (hrest c hc))
      (fun c hc => hends c (hrest' c hc)) heq

/-! ## Attributes and players -/

/-- An attribute value as it stands in a pattern. -/
def attributeChars (pair : String × String) : List Char :=
  [',', ' ', 'h', 'a', 's', ' '] ++ (pair.1.toList ++ (' ' :: pair.2.toList))

/-- A player as it stands in a pattern. -/
def playerChars (pair : String × String) : List Char :=
  pair.1.toList ++ ([':', ' ', '$'] ++ pair.2.toList)

/-- The type and the attribute values, to the end of a pattern. -/
def bodyChars (body : String × List (String × String)) : List Char :=
  [' ', 'i', 's', 'a', ' '] ++ (body.1.toList ++ (body.2.flatMap attributeChars ++ [';']))

/-- Several players, and then type and attribute values. -/
def playersChars (players : (String × String) × List (String × String)) : List Char :=
  [' ', '('] ++ (playerChars players.1 ++
    (players.2.flatMap (fun pair => [',', ' '] ++ playerChars pair) ++ [')']))

theorem legible_attribute :
    Legible (fun pair : String × String => IsName pair.1 ∧ IsValue pair.2) EndsValue
      attributeChars :=
  (legible_name.pair (legible_value.behind [' ']) fun _ _ => ⟨' ', _, rfl, by decide⟩).behind _

theorem legible_player :
    Legible (fun pair : String × String => IsName pair.1 ∧ IsName pair.2)
      (fun c => isNameChar c = false) playerChars :=
  legible_name.pair (legible_name.behind _) fun _ _ => ⟨':', _, rfl, by decide⟩

/-- A body is a type with attributes, up to its semicolon. -/
theorem legible_body :
    Legible (fun body : String × List (String × String) =>
        IsName body.1 ∧ ∀ pair ∈ body.2, IsName pair.1 ∧ IsValue pair.2) (fun _ => True)
      bodyChars := by
  have hattributes := legible_attribute.list ',' (.inl rfl) fun _ _ => ⟨_, rfl⟩
  have hclosed := hattributes.before (c := ';') ⟨.inr rfl, by decide⟩ []
  refine (legible_name.pair hclosed ?_).behind _
  rintro (_ | ⟨pair, pairs⟩) -
  · exact ⟨';', _, rfl, by decide⟩
  · exact ⟨',', _, rfl, by decide⟩

/-- Players stand in brackets, of which there is one at least. -/
theorem legible_players :
    Legible (fun players : (String × String) × List (String × String) =>
        (IsName players.1.1 ∧ IsName players.1.2) ∧
          ∀ pair ∈ players.2, IsName pair.1 ∧ IsName pair.2) (fun _ => True) playersChars := by
  have hothers := (legible_player.behind [',', ' ']).list ',' (by decide)
    fun _ _ => ⟨_, rfl⟩
  have hclosed := hothers.before (c := ')') ⟨by decide, by decide⟩ []
  refine (legible_player.pair hclosed ?_).behind _
  rintro (_ | ⟨pair, pairs⟩) -
  · exact ⟨')', _, rfl, by decide⟩
  · exact ⟨',', _, rfl, by decide⟩

/-! ## Patterns -/

/-- The lexicon of all names. -/
def Lexicon.names : Lexicon := ⟨IsName, IsName, IsName, IsName⟩

/-- The pattern of an entity. -/
def Entity.chars (e : Entity) : List Char :=
  ['$'] ++ (e.var.toList ++ bodyChars (e.typeName, e.attributes.pairs))

/-- The pattern of a relation that has players. -/
def Relation.chars (r : Relation) : List Char :=
  let players := (r.roles.pairs.headD ("", ""), r.roles.pairs.tail)
  ['$'] ++ (r.var.toList ++ (playersChars players ++ bodyChars (r.typeName, r.attributes.pairs)))

/-- The pattern of a thing. -/
def Thing.chars : Thing → List Char
  | .entity e => e.chars
  | .relation r => r.chars

/-- Attributes are written one after the other. -/
theorem Attributes.toList_text (a : Attributes) :
    a.text.toList = (Multimap.pairs a).flatMap attributeChars := by
  rw [text, String.toList_join, List.flatMap_map]
  refine List.flatMap_congr fun pair _ => ?_
  simp [attributeChars]

/-- The text of an entity is a variable and a body. -/
theorem Entity.toList_text (e : Entity) : e.text.toList = e.chars := by
  simp [text, chars, bodyChars, Attributes.toList_text]

/-- Several texts with a mark between them. -/
theorem intercalate_cons_eq {α : Type} (mark first : List α) (rest : List (List α)) :
    mark.intercalate (first :: rest) = first ++ rest.flatMap (mark ++ ·) := by
  induction rest generalizing first with
  | nil => simp
  | cons next rest ih => rw [List.intercalate_cons_cons, ih]; simp

theorem Multimap.Proper.pairs_ne_nil {m : Multimap} (h : m.Proper) (hm : m ≠ []) :
    m.pairs ≠ [] := by
  cases m with
  | nil => exact absurd rfl hm
  | cons entry rest =>
    have hfiled := h.filed entry List.mem_cons_self
    simp [pairs, hfiled]

/-- A relation with players is written as its pattern. -/
theorem Relation.toList_text {r : Relation} {text : String} (hr : r.Built)
    (h : r.text = .ok text) : r.roles.pairs ≠ [] ∧ text.toList = r.chars := by
  rw [Relation.text] at h
  split at h
  · next hroles =>
    have hroles : r.roles ≠ [] := by simpa [hasRoles] using hroles
    have hpairs := hr.proper.2.pairs_ne_nil hroles
    refine ⟨hpairs, ?_⟩
    obtain rfl := Except.ok.inj h
    rw [chars]
    cases hall : r.roles.pairs with
    | nil => exact absurd hall hpairs
    | cons first others =>
      simp [playersChars, playerChars, bodyChars, Attributes.toList_text,
        String.toList_intercalate, intercalate_cons_eq, List.flatMap_map]
  · cases h

theorem legible_entity :
    Legible (fun e => (Thing.entity e).Within .names ∧ e.Built) (fun _ => True) Entity.chars := by
  have hparts := (legible_name.pair legible_body fun _ _ => ⟨' ', _, rfl, by decide⟩).behind ['$']
  refine hparts.comap (fun e : Entity => (e.var, e.typeName, e.attributes.pairs)) ?_ ?_
  · rintro e ⟨hclean, -⟩
    exact ⟨hclean.var, hclean.typeName, hclean.attributes⟩
  · rintro ⟨var, typeName, attributes⟩ ⟨var', typeName', attributes'⟩ ⟨-, hb⟩ ⟨-, hb'⟩ heq
    simp only [Prod.mk.injEq] at heq
    obtain ⟨rfl, rfl, hattributes⟩ := heq
    obtain rfl := hb.proper.eq_of_pairs hb'.proper hattributes
    rfl

theorem legible_relation :
    Legible (fun r => (Thing.relation r).Within .names ∧ r.Built ∧ r.roles.pairs ≠ [])
      (fun _ => True) Relation.chars := by
  have hplayers := legible_players.pair legible_body fun _ _ => ⟨' ', _, rfl, trivial⟩
  have hparts := (legible_name.pair hplayers fun _ _ => ⟨' ', _, rfl, by decide⟩).behind ['$']
  -- the first player is told apart from the others, since a relation is written with at least one
  refine hparts.comap (fun r : Relation =>
    (r.var, (r.roles.pairs.headD ("", ""), r.roles.pairs.tail), r.typeName,
      r.attributes.pairs)) ?_ ?_
  · rintro r ⟨hclean, -, hroles⟩
    have hclean' := hclean.players
    simp only [Thing.roles] at hclean'
    cases hall : r.roles.pairs with
    | nil => exact absurd hall hroles
    | cons first others =>
      rw [hall] at hclean'
      exact ⟨hclean.var, ⟨hclean' first List.mem_cons_self,
        fun pair hpair => hclean' pair (List.mem_cons_of_mem _ hpair)⟩, hclean.typeName,
        hclean.attributes⟩
  · rintro ⟨var, typeName, attributes, roles⟩ ⟨var', typeName', attributes', roles'⟩
      ⟨-, hb, hroles⟩ ⟨-, hb', hroles'⟩ heq
    simp only [Prod.mk.injEq] at heq hroles hroles'
    obtain ⟨rfl, ⟨hfirst, hothers⟩, rfl, hattributes⟩ := heq
    obtain rfl := hb.proper.1.eq_of_pairs hb'.proper.1 hattributes
    have hpairs : roles.pairs = roles'.pairs := by
      obtain ⟨first, others, hall⟩ := List.exists_cons_of_ne_nil hroles
      obtain ⟨first', others', hall'⟩ := List.exists_cons_of_ne_nil hroles'
      rw [hall, hall'] at hfirst hothers ⊢
      exact congrArg₂ List.cons hfirst hothers
    obtain rfl := hb.proper.2.eq_of_pairs hb'.proper.2 hpairs
    rfl

/-- Entities and relations are told apart by the bracket behind the variable. -/
theorem entity_chars_ne_relation_chars {e : Entity} {r : Relation} {rest rest' : List Char}
    (he : IsName e.var) (hr : IsName r.var) : e.chars ++ rest ≠ r.chars ++ rest' := by
  intro heq
  simp only [Entity.chars, Relation.chars, List.append_assoc] at heq
  have hvars := List.append_cancel_left heq
  obtain ⟨-, hafter⟩ := legible_name he hr (begins_cons.mpr (by decide))
    (begins_cons.mpr (by decide)) hvars
  exact absurd (List.cons.inj (List.cons.inj hafter).2).1 (by decide)

/-- A thing that has a text, with names and values only, built step by step. -/
structure Thing.Writable (t : Thing) : Prop where
  clean : t.Within .names
  built : t.Built
  written : ∃ text, t.text = .ok text

/-- The text of a thing is the format of its kind. -/
theorem Thing.toList_text {t : Thing} {text : String} (hb : t.Built) (h : t.text = .ok text) :
    text.toList = t.chars := by
  cases hb with
  | @entity e _ =>
    obtain rfl := Except.ok.inj h
    exact e.toList_text
  | relation hr => exact (Relation.toList_text hr h).2

/-- A thing that can be written is legible, as entities and relations begin differently. -/
theorem legible_thing : Legible Thing.Writable (fun _ => True) Thing.chars := by
  rintro t t' rest rest' ⟨hclean, hb, text, htext⟩ ⟨hclean', hb', text', htext'⟩ hrest hrest' heq
  cases hb with
  | entity he =>
    cases hb' with
    | entity he' =>
      obtain ⟨rfl, hrests⟩ := legible_entity ⟨hclean, he⟩ ⟨hclean', he'⟩ hrest hrest' heq
      exact ⟨rfl, hrests⟩
    | relation hr' => exact absurd heq (entity_chars_ne_relation_chars hclean.var hclean'.var)
  | relation hr =>
    have hroles := (Relation.toList_text hr htext).1
    cases hb' with
    | entity he' =>
      exact absurd heq.symm (entity_chars_ne_relation_chars hclean'.var hclean.var)
    | relation hr' =>
      have hroles' := (Relation.toList_text hr' htext').1
      obtain ⟨rfl, hrests⟩ :=
        legible_relation ⟨hclean, hr, hroles⟩ ⟨hclean', hr', hroles'⟩ hrest hrest' heq
      exact ⟨rfl, hrests⟩

/-! ## Statements -/

/-- The patterns of things, one a line. -/
def linesChars (things : List Thing) : List Char := things.flatMap fun t => t.chars ++ ['\n']

/-- Lines of patterns end where something begins that is no dollar sign. -/
theorem legible_lines :
    Legible (fun things => ∀ t ∈ things, t.Writable) (fun c => c ≠ '$') linesChars := by
  have hlines := (legible_thing.before (c := '\n') trivial []).list '$' trivial
    fun t _ => by cases t <;> exact ⟨_, rfl⟩
  exact hlines.mono (fun _ h => h) fun _ h => ⟨trivial, h⟩

theorem toList_patternLines {things : List Thing} (hb : ∀ t ∈ things, t.Built) {text : String}
    (h : patternLines things = .ok text) :
    text.toList = linesChars things ∧ ∀ t ∈ things, ∃ text, t.text = .ok text := by
  induction things generalizing text with
  | nil =>
    obtain rfl := Except.ok.inj h
    exact ⟨rfl, fun _ ht => absurd ht List.not_mem_nil⟩
  | cons t rest ih =>
    rw [patternLines] at h
    obtain ⟨first, hfirst, h⟩ := except_bind_eq_ok.mp h
    obtain ⟨others, hothers, h⟩ := except_bind_eq_ok.mp h
    obtain rfl := Except.ok.inj h
    obtain ⟨hlines, hwritten⟩ := ih (fun u hu => hb u (List.mem_cons_of_mem _ hu)) hothers
    refine ⟨?_, ?_⟩
    · simp [linesChars, hlines, Thing.toList_text (hb t List.mem_cons_self) hfirst]
    · intro u hu
      rcases List.mem_cons.mp hu with rfl | hu
      · exact ⟨first, hfirst⟩
      · exact hwritten u hu

namespace Statement

/-- Every thing of the statement has names and values only. -/
def Clean (s : Statement) : Prop := ∀ t, t ∈ s.matched ∨ t ∈ s.inserted → t.Within .names

/-- Every thing of the statement was built step by step. -/
def Built (s : Statement) : Prop := ∀ t, t ∈ s.matched ∨ t ∈ s.inserted → t.Built

/-- What stands in front of the lines of what is inserted. -/
def headChars (s : Statement) : List Char :=
  if s.matched = [] then [] else "match\n".toList ++ linesChars s.matched

/-- A statement is written as what it matches, if anything, and what it inserts. -/
theorem toList_text {s : Statement} (hb : s.Built) (hinserted : s.inserted ≠ []) {text : String}
    (h : s.text = .ok text) :
    text.toList = s.headChars ++ ("insert\n".toList ++ linesChars s.inserted) ∧
      ∀ t, t ∈ s.matched ∨ t ∈ s.inserted → ∃ text, t.text = .ok text := by
  have hempty : s.inserted.isEmpty = false := by simpa using hinserted
  simp only [Statement.text, hempty, Bool.false_eq_true, if_false] at h
  obtain ⟨references, hreferences, h⟩ := except_bind_eq_ok.mp h
  obtain ⟨inserts, hinserts, h⟩ := except_bind_eq_ok.mp h
  obtain rfl := Except.ok.inj h
  obtain ⟨hmatchedLines, hmatched⟩ := toList_patternLines (fun t ht => hb t (.inl ht)) hreferences
  obtain ⟨hinsertedLines, hwritten⟩ := toList_patternLines (fun t ht => hb t (.inr ht)) hinserts
  refine ⟨?_, fun t ht => ht.elim (hmatched t) (hwritten t)⟩
  rw [headChars]
  cases hs : s.matched with
  | nil => simp [hinsertedLines]
  | cons t rest =>
    rw [hs] at hmatchedLines
    simp [hmatchedLines, hinsertedLines]

/-- **Statements can be read in one way only.** Of two statements that insert something, were built
step by step, and hold names and values only, whatever the texts in their literals, both with the
same text, each is the other: they match and insert the same things in the same order. -/
theorem eq_of_text {s s' : Statement} (hclean : s.Clean) (hclean' : s'.Clean) (hb : s.Built)
    (hb' : s'.Built) (hinserted : s.inserted ≠ []) (hinserted' : s'.inserted ≠ []) {text : String}
    (h : s.text = .ok text) (h' : s'.text = .ok text) : s = s' := by
  obtain ⟨hchars, hwritten⟩ := toList_text hb hinserted h
  obtain ⟨hchars', hwritten'⟩ := toList_text hb' hinserted' h'
  have hw : ∀ t, t ∈ s.matched ∨ t ∈ s.inserted → t.Writable :=
    fun t ht => ⟨hclean t ht, hb t ht, hwritten t ht⟩
  have hw' : ∀ t, t ∈ s'.matched ∨ t ∈ s'.inserted → t.Writable :=
    fun t ht => ⟨hclean' t ht, hb' t ht, hwritten' t ht⟩
  have hlines : linesChars s.inserted = linesChars s'.inserted → s.inserted = s'.inserted := by
    intro heq
    rw [← List.append_nil (linesChars s.inserted),
      ← List.append_nil (linesChars s'.inserted)] at heq
    exact (legible_lines (fun t ht => hw t (.inr ht)) (fun t ht => hw' t (.inr ht)) (begins_nil _)
      (begins_nil _) heq).1
  rw [hchars] at hchars'
  obtain ⟨matched, inserted⟩ := s
  obtain ⟨matched', inserted'⟩ := s'
  simp only [headChars] at hchars'
  have hinsert : ∀ things, Begins (· ≠ '$') ("insert\n".toList ++ linesChars things) := by
    simp
  -- whether anything is matched shows in the first letter
  by_cases hmatched : matched = []
  · by_cases hmatched' : matched' = []
    · rw [if_pos hmatched, if_pos hmatched'] at hchars'
      obtain rfl : inserted = inserted' := hlines (List.append_cancel_left hchars')
      rw [hmatched, hmatched']
    · rw [if_pos hmatched, if_neg hmatched'] at hchars'
      simp at hchars'
  · by_cases hmatched' : matched' = []
    · rw [if_neg hmatched, if_pos hmatched'] at hchars'
      simp at hchars'
    · rw [if_neg hmatched, if_neg hmatched', List.append_assoc, List.append_assoc] at hchars'
      obtain ⟨hmatches, hrest⟩ := legible_lines (fun t ht => hw t (.inl ht))
        (fun t ht => hw' t (.inl ht)) (hinsert inserted) (hinsert inserted')
        (List.append_cancel_left hchars')
      obtain rfl : matched = matched' := hmatches
      obtain rfl : inserted = inserted' := hlines (List.append_cancel_left hrest)
      rfl

/-- A relation that is given the values of one attribute around those of another, and among them a
text that goes on like a statement. -/
def inTurns : Statement where
  matched := [.entity ((Entity.mk "v1" "identity" []).addAttribute "stix-id" (quote "a; b"))]
  inserted :=
    [.relation ((((((Relation.mk "v0" "uses" [] []).addPlayer "user" "v1").addAttribute
      "name" (quote "x\";\ninsert\n$v2 isa x, has y")).addAttribute
      "since" "2020-01-01").addAttribute "name" (quote "z")).addPlayer "used" "v1")]

/-- The same relation, given the values of each attribute at once, and its players last. -/
def atOnce : Statement where
  matched := inTurns.matched
  inserted :=
    [.relation ((((((Relation.mk "v0" "uses" [] []).addAttribute
      "name" (quote "x\";\ninsert\n$v2 isa x, has y")).addAttribute "name" (quote "z")).addAttribute
      "since" "2020-01-01").addPlayer "user" "v1").addPlayer "used" "v1")]

/-- However the two were built, they have one text and so are one statement. -/
theorem eq_of_text_in_turns : inTurns.text = .ok
    ("match\n$v1 isa identity, has stix-id \"a; b\";\n" ++
      "insert\n$v0 (user: $v1, used: $v1) isa uses, " ++
      "has name \"x';\ninsert\n$v2 isa x, has y\", has name \"z\", has since 2020-01-01;\n") ∧
    inTurns = atOnce := by
  have hv0 : IsName "v0" := by decide
  have hv1 : IsName "v1" := by decide
  have hidentity : IsName "identity" := by decide
  have hid : IsName "stix-id" := by decide
  have huses : IsName "uses" := by decide
  have hname : IsName "name" := by decide
  have hsince : IsName "since" := by decide
  have huser : IsName "user" := by decide
  have hused : IsName "used" := by decide
  have hdate : IsValue "2020-01-01" := .inr (by decide)
  have hmatched : ∀ t ∈ inTurns.matched, t.Within .names ∧ t.Built := by
    intro t ht
    obtain rfl := List.mem_singleton.mp ht
    exact ⟨(Thing.within_entity hv1 hidentity).addAttribute hid (isValue_quote _),
      .entity (.addAttribute _ _ (.new _ _))⟩
  have hinTurns : ∀ t ∈ inTurns.inserted, t.Within .names ∧ t.Built := by
    intro t ht
    obtain rfl := List.mem_singleton.mp ht
    have hnew := (Thing.within_relation (l := .names) hv0 huses).addPlayer huser hv1
    exact ⟨(((hnew.addAttribute hname (isValue_quote _)).addAttribute hsince hdate).addAttribute
      hname (isValue_quote _)).addPlayer hused hv1, .relation (.addPlayer _ _ (.addAttribute _ _
      (.addAttribute _ _ (.addAttribute _ _ (.addPlayer _ _ (.new _ _))))))⟩
  have hatOnce : ∀ t ∈ atOnce.inserted, t.Within .names ∧ t.Built := by
    intro t ht
    obtain rfl := List.mem_singleton.mp ht
    have hnew := Thing.within_relation (l := .names) hv0 huses
    exact ⟨((((hnew.addAttribute hname (isValue_quote _)).addAttribute hname
      (isValue_quote _)).addAttribute hsince hdate).addPlayer huser hv1).addPlayer hused hv1,
      .relation (.addPlayer _ _
      (.addPlayer _ _ (.addAttribute _ _ (.addAttribute _ _ (.addAttribute _ _ (.new _ _))))))⟩
  have htext : inTurns.text = .ok _ := rfl
  have htext' : atOnce.text = .ok _ := rfl
  refine ⟨by decide +kernel, eq_of_text ?_ ?_ ?_ ?_ ?_ ?_ htext htext'⟩
  · exact fun t ht => ht.elim (fun h => (hmatched t h).1) fun h => (hinTurns t h).1
  · exact fun t ht => ht.elim (fun h => (hmatched t h).1) fun h => (hatOnce t h).1
  · exact fun t ht => ht.elim (fun h => (hmatched t h).2) fun h => (hinTurns t h).2
  · exact fun t ht => ht.elim (fun h => (hmatched t h).2) fun h => (hatOnce t h).2
  · exact List.cons_ne_nil _ _
  · exact List.cons_ne_nil _ _

end Statement

end ThreatGraph
