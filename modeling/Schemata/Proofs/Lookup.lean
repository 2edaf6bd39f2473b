import Mathlib.Data.List.Nodup

/-!
# Looking up by a key

Members of a model are found by the first match of a name.  Where names are distinct, the first
match is the only one.

* `find?_key` - what is in the list is found under its own key;
* `eq_of_mem_flatMap` - lists that do not repeat each other's elements share none.
-/

namespace Schemata.Lookup

variable {α β : Type}

/-- **What is in the list is found under its own key.** -/
theorem find?_key [BEq β] [LawfulBEq β] {l : List α} {key : α → β} {x : α}
    (hnodup : (l.map key).Nodup) (hx : x ∈ l) :
    l.find? (fun y => key y == key x) = some x := by
  induction l with
  | nil => cases hx
  | cons first rest ih =>
    rw [List.map_cons, List.nodup_cons] at hnodup
    rcases List.mem_cons.mp hx with rfl | hrest
    · simp
    · have hne : key first ≠ key x := by
        intro heq
        exact hnodup.1 (heq ▸ List.mem_map_of_mem hrest)
      simp [hne, ih hnodup.2 hrest]

/-- What is found under a key is in the list and has the key. -/
theorem mem_of_find?_key [BEq β] [LawfulBEq β] {l : List α} {key : α → β} {k : β} {x : α}
    (h : l.find? (fun y => key y == k) = some x) : x ∈ l ∧ key x = k :=
  ⟨List.mem_of_find?_eq_some h, by simpa using List.find?_some h⟩

/-- Nothing is found under a key exactly where nothing has it. -/
theorem find?_key_eq_none [BEq β] [LawfulBEq β] {l : List α} {key : α → β} {k : β} :
    l.find? (fun y => key y == k) = none ↔ k ∉ l.map key := by
  simp only [List.find?_eq_none, beq_iff_eq, List.mem_map, not_exists, not_and]

/-- Lists that together repeat nothing share no element. -/
theorem eq_of_mem_flatMap {l : List α} {f : α → List β} {x y : α} {c : β}
    (hnodup : (l.flatMap f).Nodup) (hx : x ∈ l) (hy : y ∈ l) (hcx : c ∈ f x) (hcy : c ∈ f y) :
    x = y := by
  induction l with
  | nil => cases hx
  | cons first rest ih =>
    rw [List.flatMap_cons, List.nodup_append] at hnodup
    have hapart : ∀ z ∈ rest, c ∈ f first → c ∉ f z := fun z hz hfirst hcz =>
      hnodup.2.2 c hfirst c (List.mem_flatMap_of_mem hz hcz) rfl
    rcases List.mem_cons.mp hx with rfl | hxrest
    · rcases List.mem_cons.mp hy with rfl | hyrest
      · rfl
      · exact absurd hcy (hapart y hyrest hcx)
    · rcases List.mem_cons.mp hy with rfl | hyrest
      · exact absurd hcx (hapart x hxrest hcy)
      · exact ih hnodup.2.1 hxrest hyrest

end Schemata.Lookup
