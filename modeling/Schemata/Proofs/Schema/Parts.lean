import Mathlib.Data.List.Forall2
import Schemata.Proofs.Markup.Elements
import Schemata.Schema.Problem

/-!
# Members that are written in parts

A member that has parts is held from the start of its element on, while the elements of its parts
add to it, and is complete when its element ends.  Only one member is held at a time: the start of
an element takes the place of what was held before, and its end leaves nothing held.  Behind a
member that ended inside another one there is thus nothing left of the outer one, which no end tag
completes.

* `Reads.eq_none` - a member that is held does not outlive the start of another one;
* `Reads.filled` - until then, every part goes to the member that is held;
* `Reads.unowned` - where nothing is held, no part stands on its own;
* `Reads.completed` - what is complete in the end are the innermost members, each with its parts.
-/

namespace Schemata

open Markup

/-- A value is read from the attributes of the element, which are sound. -/
def Markup.Elem.Says {α : Type} (read : Attributes → Except SchemaProblem α) (node : Elem)
    (x : α) : Prop :=
  ∃ attributes, node.attributes = .ok attributes ∧ read attributes = .ok x

/-- A kind of member that is written in parts. -/
structure PartedKind (α β : Type) where
  /-- The name of its elements, and of those of its parts. -/
  tag : String
  part : String
  /-- A member without its parts. -/
  read : Attributes → Except SchemaProblem α
  /-- A part, which may depend on the member that it goes to. -/
  readPart : α → Attributes → Except SchemaProblem β
  /-- The member with more parts. -/
  fill : α → List β → α
  tag_ne_part : tag ≠ part
  fill_nil : ∀ x, fill x [] = x
  fill_fill : ∀ x ps qs, fill (fill x ps) qs = fill x (ps ++ qs)
  readPart_fill : ∀ x ps, readPart (fill x ps) = readPart x

namespace PartedKind

variable {α β : Type} (kind : PartedKind α β)

/-- The member of an element: what its attributes say, with the parts that no other element of the
kind inside it encloses. -/
def Holds (node : Elem) (y : α) : Prop :=
  ∃ x ps, node.Says kind.read x ∧
    List.Forall₂ (Elem.Says (kind.readPart x)) (node.content.owned kind.tag kind.part) ps ∧
    y = kind.fill x ps

/-- What is held before and after the start of an element. -/
inductive Starts : Option α → String → Attributes → Option α → Prop
  | member {held : Option α} {attributes : Attributes} {x : α}
      (hread : kind.read attributes = .ok x) : Starts held kind.tag attributes (some x)
  | part {x : α} {attributes : Attributes} {p : β} (hread : kind.readPart x attributes = .ok p) :
      Starts (some x) kind.part attributes (some (kind.fill x [p]))
  | other {held : Option α} {name : String} {attributes : Attributes} (htag : name ≠ kind.tag)
      (hpart : name ≠ kind.part) : Starts held name attributes held

/-- What is held after the end of an element. -/
def left (name : String) (held : Option α) : Option α :=
  if name = kind.tag then none else held

/-- What the end of an element completes. -/
def done (name : String) (held : Option α) : List α :=
  if name = kind.tag then held.toList else []

/-- Nothing is held once the whole has ended. -/
@[simp] theorem left_tag (held : Option α) : kind.left kind.tag held = none := if_pos rfl

/-- The end of the whole completes what was held. -/
@[simp] theorem done_tag (held : Option α) : kind.done kind.tag held = held.toList := if_pos rfl

/-- The end of a part completes nothing. -/
@[simp] theorem done_part (held : Option α) : kind.done kind.part held = [] :=
  if_neg kind.tag_ne_part.symm

/-- What is held before and after some elements, and the members that they complete. -/
inductive Reads : Option α → Forest → Option α → List α → Prop
  | nil (held : Option α) : Reads held .nil held []
  | element {held inner last after : Option α} {name : String} {attributes : Attributes}
      {content later : Forest} {xs ys : List α} (hstart : kind.Starts held name attributes inner)
      (hcontent : Reads inner content last xs) (hlater : Reads (kind.left name last) later after ys) :
      Reads held (.element name (.ok attributes) content later) after
        (xs ++ (kind.done name last ++ ys))

variable {kind}

/-- The start of an element that is not of the kind adds no more than the part that it is. -/
theorem Starts.filled {x : α} {name : String} {attributes : Attributes} {inner : Option α}
    (h : kind.Starts (some x) name attributes inner) (htag : name ≠ kind.tag) (content : Forest) :
    ∃ ps, List.Forall₂ (Elem.Says (kind.readPart x))
        (Elem.ifNamed kind.part name ⟨.ok attributes, content⟩) ps ∧
      inner = some (kind.fill x ps) := by
  cases h with
  | member => exact absurd rfl htag
  | @part _ _ p hread =>
    rw [Elem.ifNamed_self]
    exact ⟨[p], .cons ⟨_, rfl, hread⟩ .nil, rfl⟩
  | other _ hpart =>
    rw [Elem.ifNamed_of_ne hpart]
    exact ⟨[], .nil, by rw [kind.fill_nil]⟩

namespace Reads

variable {held after : Option α} {f : Forest} {xs : List α}

/-- Where nothing is held, nothing is held behind complete elements. -/
theorem eq_none_of_none (h : kind.Reads held f after xs) (hheld : held = none) : after = none := by
  induction h with
  | nil => exact hheld
  | element hstart _ _ ihContent ihLater =>
    cases hstart with
    | member => exact ihLater (kind.left_tag _)
    | part => cases hheld
    | other htag _ => exact ihLater (by rw [left, if_neg htag, ihContent hheld])

/-- **A member that is held does not outlive the start of another one.** -/
theorem eq_none (h : kind.Reads held f after xs) (hnamed : f.named kind.tag ≠ []) :
    after = none := by
  induction h with
  | nil => exact absurd rfl hnamed
  | @element _ _ _ _ name _ content later _ _ hstart _ hlater ihContent ihLater =>
    by_cases htag : name = kind.tag
    · exact hlater.eq_none_of_none (by rw [htag, left_tag])
    · rw [Forest.named, Elem.ifNamed_of_ne htag, List.nil_append] at hnamed
      by_cases hcontent : content.named kind.tag = []
      · exact ihLater (by simpa [hcontent] using hnamed)
      · exact hlater.eq_none_of_none (by rw [left, if_neg htag, ihContent hcontent])

/-- **Until another member starts, every part goes to the member that is held.** -/
theorem filled (h : kind.Reads held f after xs) (hnamed : f.named kind.tag = []) {x : α}
    (hheld : held = some x) :
    ∃ ps, List.Forall₂ (Elem.Says (kind.readPart x)) (f.named kind.part) ps ∧
      after = some (kind.fill x ps) := by
  induction h generalizing x with
  | nil => exact ⟨[], .nil, by rw [hheld, kind.fill_nil]⟩
  | @element _ _ last _ name attributes content later _ _ hstart _ _ ihContent ihLater =>
    simp only [Forest.named, List.append_eq_nil_iff] at hnamed
    obtain ⟨hself, hcontent, hlater⟩ := hnamed
    have htag : name ≠ kind.tag := by
      rintro rfl
      simp at hself
    obtain ⟨ps, hps, hinner⟩ := (hheld ▸ hstart).filled htag content
    obtain ⟨qs, hqs, hlast⟩ := ihContent hcontent hinner
    obtain ⟨rs, hrs, hafter⟩ := ihLater hlater (by rw [left, if_neg htag, hlast])
    simp only [kind.readPart_fill] at hqs hrs
    refine ⟨ps ++ (qs ++ rs), List.rel_append hps (List.rel_append hqs hrs), ?_⟩
    simp only [hafter, kind.fill_fill, List.append_assoc]

/-- **Where nothing is held, no part stands on its own.** -/
theorem unowned (h : kind.Reads held f after xs) (hheld : held = none) :
    f.owned kind.tag kind.part = [] := by
  induction h with
  | nil => rfl
  | element hstart hcontent _ ihContent ihLater =>
    cases hstart with
    | member =>
      rw [Forest.owned, Elem.ifNamed_of_ne kind.tag_ne_part, if_pos rfl]
      exact ihLater (kind.left_tag _)
    | part => cases hheld
    | other htag hpart =>
      have hlast := hcontent.eq_none_of_none hheld
      rw [Forest.owned, Elem.ifNamed_of_ne hpart, if_neg htag, ihContent hheld,
        ihLater (by rw [left, if_neg htag, hlast])]
      rfl

/-- **What is complete in the end are the innermost members, each with its parts.** -/
theorem completed (h : kind.Reads held f after xs) :
    List.Forall₂ kind.Holds (f.innermost kind.tag) xs := by
  induction h with
  | nil => exact .nil
  | @element _ _ last _ name attributes content later _ _ hstart hcontent _ ihContent ihLater =>
    cases hstart with
    | part =>
      rw [Forest.innermost_of_ne kind.tag_ne_part.symm, done_part]
      exact List.rel_append ihContent ihLater
    | other htag _ =>
      rw [Forest.innermost_of_ne htag, done, if_neg htag]
      exact List.rel_append ihContent ihLater
    | member hread =>
      rw [Forest.innermost_self, done_tag]
      refine List.rel_append ihContent (List.rel_append ?_ ihLater)
      -- At its end tag the member is still held if and only if no other one started inside it.
      by_cases hnamed : content.named kind.tag = []
      · obtain ⟨ps, hps, rfl⟩ := hcontent.filled hnamed rfl
        rw [if_pos (List.isEmpty_iff.mpr hnamed)]
        refine .cons ⟨_, ps, ⟨_, rfl, hread⟩, ?_, rfl⟩ .nil
        rwa [Forest.owned_of_named_nil hnamed]
      · rw [if_neg (by simpa using hnamed), hcontent.eq_none hnamed]
        exact .nil

end Reads

end PartedKind

end Schemata
