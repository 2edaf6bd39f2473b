import Mathlib.Data.List.Perm.Basic
import Schemata.Markup.Event

/-!
# Elements of a document

The events of a document tell its elements: each end tag closes the element that was opened last, so
that elements contain one another, and elements that are still open when the text ends contain all
that follows their start tag.  An empty tag says no more than a start tag and an end tag right
behind it.

Elements of one name can be listed in the order of their start tags or in that of their end tags.
Where elements of one name stand inside elements of another, each belongs to the innermost one that
encloses it.

* `nested_scan` - in the events of any text, end tags close what was opened last;
* `Nested.exists_body` - such events are the tags of elements;
* `byEnd_perm` - both orders list the same elements;
* `named_perm_owned` - every element of a name belongs to one owner, or to none.
-/

namespace Schemata.Markup

/-- The value of an attribute list, or its first problem. -/
abbrev Attached := Except AttributeProblem Attributes

/-- End tags close the element that was opened last, given the names of those that are open,
innermost first.  Elements may be left open. -/
inductive Nested : List String → List Event → Prop
  | nil (opened : List String) : Nested opened []
  | opening {opened : List String} {name : String} (attributes : Attached) {rest : List Event}
      (h : Nested (name :: opened) rest) : Nested opened (.opening name attributes :: rest)
  | empty {opened : List String} (name : String) (attributes : Attached) {rest : List Event}
      (h : Nested opened rest) : Nested opened (.empty name attributes :: rest)
  | closing {opened : List String} {name : String} {rest : List Event} (h : Nested opened rest) :
      Nested (name :: opened) (.closing name :: rest)

/-- An event as tags that are not empty. -/
def Event.tags : Event → List Event
  | .empty name attributes => [.opening name attributes, .closing name]
  | event => [event]

/-- Elements side by side. -/
inductive Forest where
  | nil
  /-- An element with its content, and the elements behind it. -/
  | element (name : String) (attributes : Attached) (content later : Forest)

/-- The elements of a document. -/
inductive Body where
  | whole (elements : Forest)
  /-- Behind some elements there is one that is still open at the end. -/
  | cut (before : Forest) (name : String) (attributes : Attached) (inside : Body)

/-- An element among others of its name. -/
structure Elem where
  attributes : Attached
  content : Forest

/-- The element, if it has the name that is looked for. -/
def Elem.ifNamed (wanted name : String) (node : Elem) : List Elem :=
  if name = wanted then [node] else []

namespace Elem

variable {wanted name : String} {node : Elem}

@[simp] theorem ifNamed_self : node.ifNamed wanted wanted = [node] := if_pos rfl

/-- An element of another name does not count. -/
theorem ifNamed_of_ne (h : name ≠ wanted) : node.ifNamed wanted name = [] := if_neg h

end Elem

namespace Forest

/-- The tags of the elements. -/
def tags : Forest → List Event
  | nil => []
  | element name attributes content later =>
    .opening name attributes :: (content.tags ++ .closing name :: later.tags)

/-- The elements of one forest, and then those of another. -/
def append : Forest → Forest → Forest
  | nil, g => g
  | element name attributes content later, g => element name attributes content (later.append g)

/-- The elements of a name at any depth, in the order of their start tags. -/
def named (wanted : String) : Forest → List Elem
  | nil => []
  | element name attributes content later =>
    Elem.ifNamed wanted name ⟨attributes, content⟩ ++ (content.named wanted ++ later.named wanted)

/-- The elements of a name at any depth, in the order of their end tags. -/
def byEnd (wanted : String) : Forest → List Elem
  | nil => []
  | element name attributes content later =>
    content.byEnd wanted ++ (Elem.ifNamed wanted name ⟨attributes, content⟩ ++ later.byEnd wanted)

/-- The elements of a name that no `owner` among these elements encloses, in the order of their
start tags. -/
def owned (owner wanted : String) : Forest → List Elem
  | nil => []
  | element name attributes content later =>
    Elem.ifNamed wanted name ⟨attributes, content⟩ ++
      ((if name = owner then [] else content.owned owner wanted) ++ later.owned owner wanted)

/-- The elements of a name that enclose no other element of the name, in the order of their end
tags. -/
def innermost (wanted : String) (f : Forest) : List Elem :=
  (f.byEnd wanted).filter fun node => (node.content.named wanted).isEmpty

/-- The tags of trees one behind the other. -/
theorem tags_append (f g : Forest) : (f.append g).tags = f.tags ++ g.tags := by
  induction f with
  | nil => rfl
  | element name attributes content later _ ih => simp [append, tags, ih]

/-- **Both orders list the same elements.** -/
theorem byEnd_perm (wanted : String) (f : Forest) : (f.byEnd wanted).Perm (f.named wanted) := by
  induction f with
  | nil => exact .nil
  | element name attributes content later ihContent ihLater =>
    rw [byEnd, named]
    exact (List.perm_append_comm_assoc _ _ _).trans ((ihContent.append ihLater).append_left _)

/-- An element of another name is passed over, its content is not. -/
theorem innermost_of_ne {wanted name : String} (h : name ≠ wanted) (attributes : Attached)
    (content later : Forest) :
    (element name attributes content later).innermost wanted =
      content.innermost wanted ++ later.innermost wanted := by
  simp [innermost, byEnd, Elem.ifNamed_of_ne h]

/-- An element of the wanted name counts unless its content has one. -/
theorem innermost_self (wanted : String) (attributes : Attached) (content later : Forest) :
    (element wanted attributes content later).innermost wanted =
      content.innermost wanted ++
        ((if (content.named wanted).isEmpty then [⟨attributes, content⟩] else []) ++
          later.innermost wanted) := by
  by_cases hnone : (content.named wanted).isEmpty = true <;> simp [innermost, byEnd, hnone]

/-- Elements of the name of an owner own nothing above them: where there is no owner, all is
unowned. -/
theorem owned_of_named_nil {owner wanted : String} {f : Forest} (h : f.named owner = []) :
    f.owned owner wanted = f.named wanted := by
  induction f with
  | nil => rfl
  | element name attributes content later ihContent ihLater =>
    simp only [named, List.append_eq_nil_iff] at h
    obtain ⟨hself, hcontent, hlater⟩ := h
    have hne : name ≠ owner := by
      rintro rfl
      simp at hself
    rw [owned, named, if_neg hne, ihContent hcontent, ihLater hlater]

/-- **Every element of a name belongs to the innermost owner that encloses it,** or to none. -/
theorem named_perm_owned {owner wanted : String} (hne : owner ≠ wanted) (f : Forest) :
    (f.named wanted).Perm
      (f.owned owner wanted ++ (f.named owner).flatMap (·.content.owned owner wanted)) := by
  classical
  induction f with
  | nil => exact .nil
  | element name attributes content later ihContent ihLater =>
    rw [List.perm_iff_count] at ihContent ihLater ⊢
    intro node
    have hcontent := ihContent node
    have hlater := ihLater node
    by_cases howner : name = owner
    · subst howner
      simp [named, owned, Elem.ifNamed_of_ne hne] at hcontent hlater ⊢
      omega
    · simp [named, owned, Elem.ifNamed_of_ne howner, howner] at hcontent hlater ⊢
      omega

end Forest

namespace Body

/-- The tags of a document. -/
def tags : Body → List Event
  | whole elements => elements.tags
  | cut before name attributes inside => before.tags ++ .opening name attributes :: inside.tags

/-- The names of the elements that are still open at the end, outermost first. -/
def unclosed : Body → List String
  | whole _ => []
  | cut _ name _ inside => name :: inside.unclosed

/-- The elements of a name that are closed, in the order of their start tags. -/
def named (wanted : String) : Body → List Elem
  | whole elements => elements.named wanted
  | cut before _ _ inside => before.named wanted ++ inside.named wanted

end Body

/-- The start of an element that is open, with the elements between it and the start before. -/
structure Start where
  before : Forest
  name : String
  attributes : Attached

/-- A document behind the start tags that are open, innermost first. -/
def enclose : List Start → Body → Body
  | [], b => b
  | s :: outer, b => enclose outer (.cut s.before s.name s.attributes b)

/-- The tags of a document in front of its innermost part. -/
def tagsBefore : List Start → List Event
  | [] => []
  | s :: outer => tagsBefore outer ++ (s.before.tags ++ [.opening s.name s.attributes])

/-- Around a body stand the start tags that are still open. -/
theorem tags_enclose (starts : List Start) (b : Body) :
    (enclose starts b).tags = tagsBefore starts ++ b.tags := by
  induction starts generalizing b with
  | nil => rfl
  | cons s outer ih => simp [enclose, tagsBefore, ih, Body.tags]

/-- **Nested events are the tags of elements.**  The elements that are complete and the start tags
that are open are carried through the events. -/
theorem Nested.exists_body_behind {opened : List String} {events : List Event}
    (h : Nested opened events) (starts : List Start) (f : Forest)
    (hopened : starts.map (·.name) = opened) :
    ∃ b : Body, b.tags = tagsBefore starts ++ (f.tags ++ events.flatMap Event.tags) := by
  induction h generalizing starts f with
  | nil => exact ⟨enclose starts (.whole f), by simp [tags_enclose, Body.tags]⟩
  | @opening _ name attributes _ _ ih =>
    obtain ⟨b, hb⟩ := ih (⟨f, name, attributes⟩ :: starts) .nil (by simp [hopened])
    exact ⟨b, by simp [hb, tagsBefore, Event.tags, Forest.tags]⟩
  | empty name attributes _ ih =>
    obtain ⟨b, hb⟩ := ih starts (f.append (.element name attributes .nil .nil)) hopened
    exact ⟨b, by simp [hb, Event.tags, Forest.tags, Forest.tags_append]⟩
  | closing _ ih =>
    cases starts with
    | nil => cases hopened
    | cons s outer =>
      obtain ⟨rfl, houter⟩ := List.cons_eq_cons.mp hopened
      obtain ⟨b, hb⟩ := ih outer (s.before.append (.element s.name s.attributes f .nil)) houter
      exact ⟨b, by simp [hb, tagsBefore, Event.tags, Forest.tags, Forest.tags_append]⟩

/-- Events that are nested are the tags of a body. -/
theorem Nested.exists_body {events : List Event} (h : Nested [] events) :
    ∃ b : Body, b.tags = events.flatMap Event.tags := by
  obtain ⟨b, hb⟩ := h.exists_body_behind [] .nil rfl
  exact ⟨b, by simpa [tagsBefore, Forest.tags] using hb⟩

/-- An end tag that is no problem closes the element that was opened last. -/
theorem eq_cons_of_endProblem {opened : List (List Char)} {name : List Char}
    (h : endProblem opened name = none) : opened = name :: opened.tail := by
  cases opened with
  | nil => simp [endProblem] at h
  | cons expected outer =>
    have hname : expected = name := by simpa [endProblem] using h
    rw [hname, List.tail_cons]

/-- The events of a text are nested in the elements that are open where it starts. -/
theorem nested_scanFrom (fuel : Nat) (opened : List (List Char)) (position : Nat)
    (text : List Char) :
    Nested (opened.map localName) (scanFrom fuel opened position text).events := by
  fun_induction scanFrom fuel opened position text with
  | case1 | case2 | case3 | case7 => exact .nil _
  | case4 =>
    rename_i ih
    exact ih
  | case5 =>
    rename_i ih
    exact .opening _ ih
  | case6 =>
    rename_i ih
    exact .empty _ _ ih
  | case8 =>
    rename_i hend _ ih
    rw [eq_cons_of_endProblem hend, List.map_cons]
    exact .closing ih

/-- **In the events of any text, end tags close what was opened last.** -/
theorem nested_scan (xml : String) : Nested [] (scan xml).events :=
  nested_scanFrom _ [] 0 _

end Schemata.Markup
