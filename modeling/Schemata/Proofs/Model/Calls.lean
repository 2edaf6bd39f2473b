import Mathlib.Data.List.Infix
import Mathlib.Data.List.TakeWhile
import Schemata.Proofs.Model.Declaration

/-!
# Models under calls

A model is built by calls: it registers entities, merges extensions into them and is linked.  Calls
may come in any order, may fail, and may go on after a failure.  A call that fails yields no model,
so the caller keeps the one from before.

What a call can do is said once, in `after_cases`: it changes nothing, or it puts one entity of a
new class and table behind the others, or it lets every entity keep its identity, class, namespace
and table.  Whatever the calls are, classes and tables therefore stay distinct, and with distinct
classes and tables a look-up has one answer at most.  `AnswersTo` says which one a class name has,
without a word on how it is looked for.

* `Naming.isQualified_iff` - a name says its namespace exactly when it has a separator;
* `Apart.find?_iff` - a class name finds the entity of that full name, or else the only one that may
  answer to its short form;
* `after_cases` - what a call can do;
* `Apart.afterCalls` - classes and tables are distinct after all calls;
* `afterCalls_exact` - the invariant and the look-ups of a model after all calls.
-/

namespace Schemata

namespace Naming

/-- The name has a separator: a backslash or a pair of colons. -/
def HasSeparator (name : String) : Prop :=
  '\\' ∈ name.toList ∨ [':', ':'] <:+: name.toList

/-- What stands before the `::` of an identifier is a beginning of it. -/
theorem beforeColons_prefix (cs : List Char) : beforeColons cs <+: cs := by
  fun_induction beforeColons cs with
  | case1 rest => exact List.nil_prefix
  | case2 c rest _ ih => exact (List.cons_prefix_cons).mpr ⟨rfl, ih⟩
  | case3 => exact List.nil_prefix

/-- All of a text stands before its first pair of colons exactly when it has none. -/
theorem beforeColons_eq_self_iff (cs : List Char) :
    beforeColons cs = cs ↔ ¬ [':', ':'] <:+: cs := by
  fun_induction beforeColons cs with
  | case1 rest =>
    have hpair : [':', ':'] <:+: ':' :: ':' :: rest := ⟨[], rest, rfl⟩
    simp [hpair]
  | case2 c rest hno ih =>
    have hstart : ¬ [':', ':'] <+: c :: rest := by
      rintro ⟨tail, htail⟩
      obtain ⟨rfl, rfl⟩ := List.cons_eq_cons.mp htail.symm
      exact hno tail rfl rfl
    rw [List.infix_cons_iff, not_or, List.cons_eq_cons, ih]
    exact ⟨fun h => ⟨hstart, h.2⟩, fun h => ⟨rfl, h.2⟩⟩
  | case3 => simp

/-- What stands after the `::` of an identifier is an end of it. -/
theorem afterColons_suffix (cs : List Char) : afterColons cs <:+ cs := by
  rw [← List.reverse_prefix, afterColons, List.reverse_reverse]
  exact beforeColons_prefix cs.reverse

/-- The end after a `::` is the whole identifier just when the identifier has no `::`. -/
theorem afterColons_eq_self_iff (cs : List Char) :
    afterColons cs = cs ↔ ¬ [':', ':'] <:+: cs := by
  have hreverse : [':', ':'].reverse <:+: cs.reverse ↔ [':', ':'] <:+: cs := List.reverse_infix
  rw [afterColons, List.reverse_eq_iff, beforeColons_eq_self_iff]
  exact not_congr hreverse

/-- What stands after the last backslash of a name is an end of it. -/
theorem afterBackslash_suffix (cs : List Char) : afterBackslash cs <:+ cs := by
  rw [← List.reverse_prefix, afterBackslash, List.reverse_reverse]
  exact List.takeWhile_prefix _

/-- The end after the last backslash is the whole name just when the name has no backslash. -/
theorem afterBackslash_eq_self_iff (cs : List Char) : afterBackslash cs = cs ↔ '\\' ∉ cs := by
  rw [afterBackslash, List.reverse_eq_iff, List.takeWhile_eq_self_iff]
  constructor
  · intro h hmem
    simpa using h '\\' (List.mem_reverse.mpr hmem)
  · intro h c hc
    refine decide_eq_true ?_
    rintro rfl
    exact h (List.mem_reverse.mp hc)

/-- **A name is qualified** exactly when it has a separator. -/
theorem isQualified_iff (name : String) : isQualified name = true ↔ HasSeparator name := by
  have hshort : shortName name = name ↔ afterColons (afterBackslash name.toList) = name.toList := by
    rw [shortName, ← String.toList_inj, String.toList_ofList]
  rw [isQualified, bne_iff_ne, ne_eq, hshort, HasSeparator]
  by_cases hback : '\\' ∈ name.toList
  · have hne : afterColons (afterBackslash name.toList) ≠ name.toList := by
      intro heq
      have hsuffix : name.toList <:+ afterBackslash name.toList := by
        have hcolons := afterColons_suffix (afterBackslash name.toList)
        rwa [heq] at hcolons
      have hsame := hsuffix.eq_of_length_le (afterBackslash_suffix _).length_le
      exact (afterBackslash_eq_self_iff _).mp hsame.symm hback
    exact iff_of_true hne (Or.inl hback)
  · rw [(afterBackslash_eq_self_iff _).mpr hback, afterColons_eq_self_iff, not_not]
    simp [hback]

end Naming

/-- A call on a model. -/
inductive ModelCall where
  | register (e : Entity)
  | extend (x : Extension)
  | link
  deriving DecidableEq

/-- What a call makes of a model. -/
def ModelCall.run (m : DataModel) : ModelCall → Except Failure DataModel
  | .register e => m.register e
  | .extend x => m.extend x
  | .link => .ok m.linkAll

/-- What an entity keeps for good once it is registered. -/
def Entity.label (e : Entity) : EntityId × String × Option String × String :=
  (e.id, e.className, e.nameSpace, e.table)

namespace DataModel

variable {m n : DataModel}

/-- The model after a call.  A call that fails yields no model, so that the old one remains. -/
def after (m : DataModel) (call : ModelCall) : DataModel :=
  match call.run m with
  | .ok n => n
  | .error _ => m

/-- The model that calls make of an empty one. -/
def afterCalls (calls : List ModelCall) : DataModel := calls.foldl after {}

/-- The entity that a call adds to a model, if it does. -/
def added (m : DataModel) : ModelCall → List Entity
  | .register e =>
    match m.register e with
    | .ok _ => [e]
    | .error _ => []
  | _ => []

/-- The entities that calls add to a model, in order. -/
def registered (m : DataModel) : List ModelCall → List Entity
  | [] => []
  | call :: rest => m.added call ++ (m.after call).registered rest

/-- The entity may answer to the short form of the name. -/
structure MayAnswer (m : DataModel) (name : String) (e : Entity) : Prop where
  mem : e ∈ m.entities
  short : e.shortName = Naming.shortName name
  bare : Naming.HasSeparator name → e.nameSpace = none

/-- The entity has the name for its full name; or no entity has, and it is the only one that may
answer to the short form. -/
def AnswersTo (m : DataModel) (name : String) (e : Entity) : Prop :=
  (e ∈ m.entities ∧ e.fullName = name) ∨
    ((∀ f ∈ m.entities, f.fullName ≠ name) ∧ m.MayAnswer name e ∧
      ∀ f, m.MayAnswer name f → f = e)

/-- The entity is the last one of the identity. -/
def IsLast (m : DataModel) (id : EntityId) (e : Entity) : Prop :=
  ∃ before after, m.entities = before ++ e :: after ∧ e.id = id ∧ ∀ f ∈ after, f.id ≠ id

/-- Classes and tables tell the entities apart. -/
structure Apart (m : DataModel) : Prop where
  fullNames : (m.entities.map (·.fullName)).Nodup
  tables : (m.entities.map (·.table)).Nodup

/-- Entities held apart by their names are listed once each. -/
theorem Apart.entities_nodup (h : m.Apart) : m.entities.Nodup := .of_map _ h.tables

/-- In a model that holds its entities apart, a table name finds the one entity of that table. -/
theorem Apart.ofTable?_iff (h : m.Apart) (table : String) (e : Entity) :
    m.ofTable? table = some e ↔ e ∈ m.entities ∧ e.table = table := by
  constructor
  · exact mem_of_ofTable?
  · rintro ⟨he, rfl⟩
    exact Lookup.find?_key h.tables he

/-- An id finds the entity registered last under it, and nothing where no entity has it. -/
theorem entity?_iff (m : DataModel) (id : EntityId) (e : Entity) :
    m.entity? id = some e ↔ m.IsLast id e := by
  rw [entity?, List.find?_eq_some_iff_append]
  constructor
  · rintro ⟨hid, later, earlier, hsplit, hlater⟩
    refine ⟨earlier.reverse, later.reverse, ?_, by simpa using hid, ?_⟩
    · rw [← List.reverse_reverse m.entities, hsplit]
      simp
    · intro f hf
      simpa using hlater f (List.mem_reverse.mp hf)
  · rintro ⟨before, after, hsplit, hid, hafter⟩
    refine ⟨by simpa using hid, after.reverse, before.reverse, ?_, ?_⟩
    · rw [hsplit]
      simp
    · intro f hf
      simpa using hafter f (List.mem_reverse.mp hf)

/-- The candidates of a name are the entities that may answer to it. -/
theorem mem_candidates {name : String} {e : Entity} :
    e ∈ m.candidates name ↔ m.MayAnswer name e := by
  have hbare : (!Naming.isQualified name || e.nameSpace.isNone) = true ↔
      (Naming.HasSeparator name → e.nameSpace = none) := by
    rw [← Naming.isQualified_iff]
    cases Naming.isQualified name <;> simp
  rw [candidates, List.mem_filter, Bool.and_eq_true, beq_iff_eq, hbare]
  exact ⟨fun h => ⟨h.1, h.2.1, h.2.2⟩, fun h => ⟨h.mem, h.short, h.bare⟩⟩

/-- An entity is the only candidate exactly when it alone may answer. -/
theorem Apart.candidates_eq_singleton_iff (h : m.Apart) (name : String) (e : Entity) :
    m.candidates name = [e] ↔ m.MayAnswer name e ∧ ∀ f, m.MayAnswer name f → f = e := by
  constructor
  · intro hone
    have hmem : ∀ f, m.MayAnswer name f ↔ f = e := by
      intro f
      rw [← mem_candidates, hone, List.mem_singleton]
    exact ⟨(hmem e).mpr rfl, fun f => (hmem f).mp⟩
  · rintro ⟨he, honly⟩
    have hnodup : (m.candidates name).Nodup := h.entities_nodup.filter _
    apply List.perm_singleton.mp
    apply (List.perm_ext_iff_of_nodup hnodup (List.nodup_singleton e)).mpr
    intro f
    rw [mem_candidates, List.mem_singleton]
    exact ⟨honly f, fun hf => hf ▸ he⟩

/-- Without an entity of that full name, a class name finds what is the only candidate. -/
theorem find?_eq_some_of_missing {name : String} (h : ∀ f ∈ m.entities, f.fullName ≠ name)
    (e : Entity) : m.find? name = some e ↔ m.candidates name = [e] := by
  have hexact : m.entities.find? (·.fullName == name) = none := by
    rw [Lookup.find?_key_eq_none, List.mem_map]
    rintro ⟨f, hf, hname⟩
    exact h f hf hname
  rw [find?, hexact]
  rcases m.candidates name with _ | ⟨f, _ | ⟨g, rest⟩⟩ <;> simp

/-- **What a class name finds** is the entity that answers to it. -/
theorem Apart.find?_iff (h : m.Apart) (name : String) (e : Entity) :
    m.find? name = some e ↔ m.AnswersTo name e := by
  by_cases hknown : ∃ f ∈ m.entities, f.fullName = name
  · obtain ⟨f, hf, rfl⟩ := hknown
    have hfound : m.find? f.fullName = some f := find?_of_fullName (Lookup.find?_key h.fullNames hf)
    rw [hfound]
    constructor
    · rintro ⟨⟩
      exact Or.inl ⟨hf, rfl⟩
    · rintro (⟨he, hname⟩ | ⟨hnone, _⟩)
      · exact congrArg some (List.inj_on_of_nodup_map h.fullNames hf he hname.symm)
      · exact absurd rfl (hnone f hf)
  · have hnone : ∀ f ∈ m.entities, f.fullName ≠ name := by
      intro f hf hname
      exact hknown ⟨f, hf, hname⟩
    rw [find?_eq_some_of_missing hnone, h.candidates_eq_singleton_iff]
    constructor
    · exact fun honly => Or.inr ⟨hnone, honly⟩
    · rintro (⟨he, hname⟩ | ⟨_, honly⟩)
      · exact absurd hname (hnone e he)
      · exact honly

/-- The entity that the class name of an extension finds gains its members, and its news of changed
files; everything else in the model stays. -/
def ExtendedTo (m : DataModel) (x : Extension) (n : DataModel) : Prop :=
  ∃ before found after, m.find? x.className = some found ∧
    m.entities = before ++ found :: after ∧
    n = { m with entities := before ++ found.extend x :: after } ∧
    found.extend x =
      { found with
        toMembers := (found.extend x).toMembers
        changed := (found.extend x).changed }

/-- **An extension changes one entity.** -/
theorem Apart.extendedTo (h : m.Apart) {x : Extension} (hn : m.extend x = .ok n) :
    m.ExtendedTo x n := by
  obtain ⟨found, hfound, rfl⟩ := entities_extend hn
  obtain ⟨before, after, hsplit⟩ := List.append_of_mem (mem_of_find? hfound)
  have hnodup := h.fullNames
  rw [hsplit, List.map_append, List.map_cons, List.nodup_middle, List.nodup_cons, List.mem_append,
    not_or] at hnodup
  have hkept : ∀ es : List Entity, found.fullName ∉ es.map (·.fullName) →
      (es.map fun e => if e.fullName = found.fullName then e.extend x else e) = es := by
    intro es hes
    refine (List.map_congr_left fun e he => if_neg ?_).trans (List.map_id es)
    intro heq
    exact hes (heq ▸ List.mem_map_of_mem he)
  refine ⟨before, found, after, hfound, hsplit, ?_, rfl⟩
  rw [hsplit, List.map_append, List.map_cons, if_pos rfl, hkept before hnodup.1.1,
    hkept after hnodup.1.2]

/-- Entities that keep their labels keep their classes. -/
theorem fullName_of_label {e f : Entity} (h : e.label = f.label) : e.fullName = f.fullName := by
  obtain ⟨_, hclass, hspace, _⟩ : e.id = f.id ∧ e.className = f.className ∧
      e.nameSpace = f.nameSpace ∧ e.table = f.table := by
    simpa only [Entity.label, Prod.mk.injEq] using h
  rw [Entity.fullName, Entity.fullName, hclass, hspace]

/-- The label of an entity holds its table. -/
theorem table_of_label {e f : Entity} (h : e.label = f.label) : e.table = f.table :=
  congrArg (·.2.2.2) h

/-- **What a call can do:** fail and change nothing, add one entity of a new class and table, or let
every entity keep its label. -/
theorem after_cases (m : DataModel) (call : ModelCall) :
    (∃ failure, call.run m = .error failure ∧ m.after call = m ∧ m.added call = []) ∨
    (∃ e, e.fullName ∉ m.entities.map (·.fullName) ∧ e.table ∉ m.entities.map (·.table) ∧
      (m.after call).entities = m.entities ++ [e] ∧ m.added call = [e]) ∨
    (∃ g : Entity → Entity, (∀ e, (g e).label = e.label) ∧
      (m.after call).entities = m.entities.map g ∧ m.added call = []) := by
  cases hrun : call.run m with
  | error failure =>
    refine Or.inl ⟨failure, rfl, by rw [after, hrun], ?_⟩
    cases call with
    | register e => rw [added, show m.register e = .error failure from hrun]
    | extend x => rfl
    | link => rfl
  | ok n =>
    have hafter : m.after call = n := by rw [after, hrun]
    rw [hafter]
    cases call with
    | register e =>
      have hn : m.register e = .ok n := hrun
      refine Or.inr (Or.inl ⟨e, class_free_of_register hn, table_free_of_register hn, ?_, ?_⟩)
      · rw [entities_register hn]
      · rw [added, hn]
    | extend x =>
      obtain ⟨found, _, rfl⟩ := entities_extend (show m.extend x = .ok n from hrun)
      refine Or.inr (Or.inr ⟨fun e => if e.fullName = found.fullName then e.extend x else e, ?_,
        rfl, rfl⟩)
      intro e
      dsimp only
      split <;> rfl
    | link =>
      obtain rfl : m.linkAll = n := Except.ok.inj hrun
      exact Or.inr (Or.inr ⟨Entity.linkedIn m, fun _ => rfl, entities_linkAll m, rfl⟩)

/-- One call keeps classes and tables distinct. -/
theorem Apart.after (h : m.Apart) (call : ModelCall) : (m.after call).Apart := by
  rcases after_cases m call with ⟨_, _, hsame, _⟩ | ⟨e, hclass, htable, hmore, _⟩ |
    ⟨g, hlabel, hmap, _⟩
  · rw [hsame]
    exact h
  · constructor
    · rw [hmore, List.map_append, List.map_singleton, ← List.concat_eq_append, List.nodup_concat]
      exact ⟨hclass, h.fullNames⟩
    · rw [hmore, List.map_append, List.map_singleton, ← List.concat_eq_append, List.nodup_concat]
      exact ⟨htable, h.tables⟩
  · have hfullName : ∀ e, (g e).fullName = e.fullName := fun e => fullName_of_label (hlabel e)
    have htable : ∀ e, (g e).table = e.table := fun e => table_of_label (hlabel e)
    constructor
    · simp only [hmap, List.map_map, Function.comp_def, hfullName]
      exact h.fullNames
    · simp only [hmap, List.map_map, Function.comp_def, htable]
      exact h.tables

/-- One call keeps the labels and adds those of the entity that it registers. -/
theorem labels_after (m : DataModel) (call : ModelCall) :
    (m.after call).entities.map (·.label) =
      m.entities.map (·.label) ++ (m.added call).map (·.label) := by
  rcases after_cases m call with ⟨_, _, hsame, hadded⟩ | ⟨e, _, _, hmore, hadded⟩ |
    ⟨g, hlabel, hmap, hadded⟩
  · rw [hsame, hadded, List.map_nil, List.append_nil]
  · rw [hmore, hadded, List.map_append]
  · rw [hadded, List.map_nil, List.append_nil, hmap, List.map_map]
    exact List.map_congr_left fun e _ => hlabel e

/-- A model is linked once it was linked, and then for good. -/
theorem linked_after (m : DataModel) (call : ModelCall) :
    (m.after call).linked = true ↔ m.linked = true ∨ call = .link := by
  cases call with
  | register e =>
    rw [after, ModelCall.run]
    cases hn : m.register e with
    | error failure => simp
    | ok n => simp [entities_register hn]
  | extend x =>
    rw [after, ModelCall.run]
    cases hn : m.extend x with
    | error failure => simp
    | ok n =>
      obtain ⟨found, _, rfl⟩ := entities_extend hn
      simp
  | link => simp [after, ModelCall.run, linked_linkAll]

/-- **Classes and tables are distinct after all calls,** by induction on the calls. -/
theorem Apart.afterCalls (calls : List ModelCall) : (afterCalls calls).Apart := by
  have hrun : ∀ (calls : List ModelCall) (m : DataModel), m.Apart →
      (calls.foldl DataModel.after m).Apart := by
    intro calls
    induction calls with
    | nil => exact fun m h => h
    | cons call rest ih => exact fun m h => ih (m.after call) (h.after call)
  exact hrun calls {} ⟨List.nodup_nil, List.nodup_nil⟩

/-- The labels after a sequence of calls: those there were, then those of the entities registered.
-/
theorem labels_foldl_after (m : DataModel) (calls : List ModelCall) :
    (calls.foldl after m).entities.map (·.label) =
      m.entities.map (·.label) ++ (m.registered calls).map (·.label) := by
  induction calls generalizing m with
  | nil => simp [registered]
  | cons call rest ih =>
    rw [List.foldl_cons, ih, labels_after, registered, List.map_append, List.append_assoc]

/-- A model counts as linked once a call of the sequence links it, and remains so. -/
theorem linked_foldl_after (m : DataModel) (calls : List ModelCall) :
    (calls.foldl after m).linked = true ↔ m.linked = true ∨ .link ∈ calls := by
  induction calls generalizing m with
  | nil => simp
  | cons call rest ih =>
    rw [List.foldl_cons, ih, linked_after, List.mem_cons, or_assoc, @eq_comm _ call]

/-- **A model after any calls.**  Its entities are those that were registered, in order; classes and
tables are distinct; each look-up has the answer that it should have.  A call that fails changes
nothing, a linked model takes no entity and no extension, and an extension changes no more than the
members of the entity that it names. -/
theorem afterCalls_exact (calls : List ModelCall) :
    let m := afterCalls calls
    m.entities.map (·.label) = (registered {} calls).map (·.label) ∧
    (m.entities.map (·.fullName)).Nodup ∧ (m.entities.map (·.table)).Nodup ∧
    (∀ table e, m.ofTable? table = some e ↔ e ∈ m.entities ∧ e.table = table) ∧
    (∀ id e, m.entity? id = some e ↔ m.IsLast id e) ∧
    (∀ name e, m.find? name = some e ↔ m.AnswersTo name e) ∧
    (∀ call failure, call.run m = .error failure → afterCalls (calls ++ [call]) = m) ∧
    (.link ∈ calls → (∀ e, m.register e = .error (.frozen .register e.fullName)) ∧
      ∀ x, m.extend x = .error (.frozen .extend x.className)) ∧
    (∀ x n, m.extend x = .ok n → m.ExtendedTo x n) := by
  intro m
  have hapart : m.Apart := .afterCalls calls
  have hlinked : .link ∈ calls → m.linked := fun h => (linked_foldl_after {} calls).mpr (Or.inr h)
  refine ⟨?_, hapart.fullNames, hapart.tables, hapart.ofTable?_iff, entity?_iff m, hapart.find?_iff,
    ?_, ?_, fun _ _ => hapart.extendedTo⟩
  · exact labels_foldl_after {} calls
  · intro call failure hfailed
    rw [afterCalls, List.foldl_append]
    show m.after call = m
    rw [after, hfailed]
  · exact fun h => ⟨register_frozen (hlinked h), extend_frozen (hlinked h)⟩

end DataModel

namespace Ledger

/-- Two classes of one short name; only the first says its namespace. -/
def orders : Entity :=
  { id := .ofNat 1, className := "Order", nameSpace := some "App\\Model", table := "orders",
    attributes := [.identity] }

def oldOrders : Entity :=
  { id := .ofNat 2, className := "Order", table := "old_orders", attributes := [.identity] }

def opening : List ModelCall := [.register orders, .register oldOrders]

/-- The class name has another namespace, so that it means the class without one. -/
def comment : Extension :=
  { className := "Shop\\Order", attributes := [.plain "comment" "TEXT"] }

end Ledger

open Ledger in
/-- A ledger turns away an entity that is there already and stays as it was, takes an extension of
one of its entities, and once linked turns every entity away. -/
theorem DataModel.ledger_calls :
    (∃ failure, (ModelCall.register orders).run (afterCalls opening) = .error failure ∧
      afterCalls (opening ++ [.register orders]) = afterCalls opening) ∧
    (∃ n, (afterCalls opening).extend comment = .ok n ∧
      (afterCalls opening).ExtendedTo comment n) ∧
    ModelCall.link ∈ opening ++ [.link] ∧
    (afterCalls (opening ++ [.link])).register oldOrders =
      .error (.frozen .register oldOrders.fullName) ∧
    (afterCalls opening).AnswersTo comment.className oldOrders := by
  obtain ⟨_, _, _, _, _, hfind, hfailed, _, hextended⟩ := afterCalls_exact opening
  obtain ⟨_, _, _, _, _, _, _, hfrozen, _⟩ := afterCalls_exact (opening ++ [.link])
  have htaken : (ModelCall.register orders).run (afterCalls opening) =
      .error (.duplicateEntity .className "App\\Model\\Order") := by decide
  have hlink : ModelCall.link ∈ opening ++ [.link] := by decide
  have hgrown : ∃ n, (afterCalls opening).extend comment = .ok n := by
    refine ⟨{ entities := [orders, oldOrders.extend comment] }, ?_⟩
    decide
  obtain ⟨n, hn⟩ := hgrown
  refine ⟨⟨_, htaken, hfailed _ _ htaken⟩, ⟨n, hn, hextended _ _ hn⟩, hlink,
    (hfrozen hlink).1 oldOrders, (hfind _ _).mp ?_⟩
  decide +kernel

end Schemata
