import Mathlib.Data.List.Forall2
import Schemata.Json.Record

/-!
# The parts of a record

A part of a record is the field of its name or the item in its place.  Reading a record finds slots
for its parts, and what a slot holds is the part.

* `value?_of_slots?` - what is found for a part;
* `eq_of_optional_text?`, `exists_item_of_mandatory` - what is made of a text and of a list.
-/

namespace Schemata

/-- What stands in the second of two related lists is related to something in the first. -/
theorem exists_of_mem_forall₂ {α β : Type} {R : α → β → Prop} {xs : List α} {ys : List β}
    (h : List.Forall₂ R xs ys) {y : β} (hy : y ∈ ys) : ∃ x ∈ xs, R x y := by
  induction h with
  | nil => cases hy
  | @cons first _ others _ hfirst _ ih =>
    rcases List.mem_cons.mp hy with rfl | hrest
    · exact ⟨first, List.mem_cons_self, hfirst⟩
    · obtain ⟨x, hx, hrelated⟩ := ih hrest
      exact ⟨x, List.mem_cons_of_mem _ hx, hrelated⟩

/-- What is made of a list one by one. -/
theorem forall₂_of_mapM {α β : Type} {f : α → Option β} {xs : List α} {ys : List β}
    (h : xs.mapM f = some ys) : List.Forall₂ (fun x y => f x = some y) xs ys := by
  induction xs generalizing ys with
  | nil =>
    cases h
    exact .nil
  | cons x xs ih =>
    rw [List.mapM_cons] at h
    obtain ⟨y, hy, h⟩ := Option.bind_eq_some_iff.mp h
    obtain ⟨others, hothers, h⟩ := Option.bind_eq_some_iff.mp h
    cases h
    exact .cons hy (ih hothers)

namespace Json

/-- The part of a record: the field of its name, or the item in its place. -/
def part? (place : Nat) (name : String) : Json → Option Json
  | .object fields => (fields.find? (·.1 == name)).map (·.2)
  | .array items => items[place]?
  | _ => none

/-- What was found for a part. -/
def Slot.value? : Slot → Option Json
  | .given value => some value
  | _ => none

variable {names : List String} {name : String} {j : Json} {slot : Slot} {slots : List Slot}

/-- The slot of a name has the value of the first field of that name. -/
theorem value?_of_slotOf {fields : List (String × Json)} (h : slotOf fields name = some slot) :
    slot.value? = (fields.find? (·.1 == name)).map (·.2) := by
  rw [← List.head?_filter]
  unfold slotOf at h
  split at h
  · rename_i hnone
    cases h
    rw [hnone]
    rfl
  · rename_i hone
    cases h
    rw [hone]
    rfl
  · cases h

/-- The slot at a place has the item at that place. -/
theorem value?_of_slotsOfItems {items : List Json} (h : slotsOfItems names items = some slots)
    (place : Nat) : slots[place]?.bind Slot.value? = items[place]? := by
  fun_induction slotsOfItems names items generalizing slots place with
  | case1 =>
    cases h
    rfl
  | case2 => cases h
  | case3 _ names ih =>
    obtain ⟨others, hothers, rfl⟩ := Option.map_eq_some_iff.mp h
    cases place with
    | zero => rfl
    | succ place => simpa using ih hothers place
  | case4 _ names item items ih =>
    obtain ⟨others, hothers, rfl⟩ := Option.map_eq_some_iff.mp h
    cases place with
    | zero => rfl
    | succ place => simpa using ih hothers place

/-- **What is found for a part** is the field of its name, or the item in its place. -/
theorem value?_of_slots? (h : slots? names j = some slots) {place : Nat}
    (hname : names[place]? = some name) : slots[place]?.bind Slot.value? = j.part? place name := by
  cases j with
  | object fields =>
    have hslots := forall₂_of_mapM h
    obtain ⟨hplace, rfl⟩ := List.getElem?_eq_some_iff.mp hname
    have hplace' : place < slots.length := hslots.length_eq ▸ hplace
    rw [List.getElem?_eq_getElem hplace']
    exact value?_of_slotOf (hslots.get hplace hplace')
  | array items => exact value?_of_slotsOfItems h place
  | _ => cases h

/-- A text that may be missing is the one that was found, if one was. -/
theorem eq_of_optional_text? {s : Option String} (h : optional text? slot = some s) :
    s = slot.value?.bind text? := by
  cases slot with
  | given value => cases value <;> simp_all [optional, text?, Slot.value?]
  | left =>
    cases h
    rfl
  | beyond => cases h

/-- What is read of a list is read of its items. -/
theorem exists_item_of_mandatory {α : Type} {read : Json → Option α} {xs : List α} {x : α}
    (h : mandatory (listOf? read) slot = some xs) (hx : x ∈ xs) :
    ∃ item ∈ (slot.value?.bind items?).getD [], read item = some x := by
  cases slot with
  | given value =>
    obtain ⟨items, hitems, hread⟩ := Option.bind_eq_some_iff.mp h
    obtain ⟨item, hitem, hx⟩ := exists_of_mem_forall₂ (forall₂_of_mapM hread) hx
    exact ⟨item, by rwa [Slot.value?, Option.bind_some, hitems], hx⟩
  | _ => cases h

end Json

end Schemata
