import Mathlib.Data.Set.Finite.Basic
import Schemata.Proofs.Model.Calls

/-!
# Names that say their namespace

A class can be put into a namespace in two ways: the entity has a namespace, or its class name
brings one along.  A look-up under a qualified name sees the difference.  It never finds an entity
that has a namespace under any name but its full name.  An entity that has none, however, counts as
one without a namespace even where its class name says one, so that it may be found under the
namespace of another class.

* `Naming.not_hasSeparator_shortName` - a short name has no separator;
* `Naming.exists_qualified_not_mem` - every short name stands behind separators in ever new names;
* `qualified_names_apart_iff` - which models give a qualified name no class of another namespace.
-/

namespace Schemata

namespace Naming

/-- There is no pair of colons before the first one. -/
theorem not_pair_infix_beforeColons (cs : List Char) : ¬ [':', ':'] <:+: beforeColons cs := by
  fun_induction beforeColons cs with
  | case1 rest => simp
  | case2 c rest hno ih =>
    rw [List.infix_cons_iff, not_or]
    refine ⟨?_, ih⟩
    rintro ⟨tail, htail⟩
    obtain ⟨rfl, hrest⟩ := List.cons_eq_cons.mp htail
    obtain ⟨later, hlater⟩ := beforeColons_prefix rest
    rw [← hrest] at hlater
    exact hno (tail ++ later) rfl hlater.symm
  | case3 => simp

/-- **A short name has no separator.** -/
theorem not_hasSeparator_shortName (name : String) : ¬ HasSeparator (shortName name) := by
  rw [HasSeparator, shortName, String.toList_ofList, not_or]
  constructor
  · intro hmem
    have hback : '\\' ∈ afterBackslash name.toList := (afterColons_suffix _).subset hmem
    rw [afterBackslash, List.mem_reverse] at hback
    simpa using List.mem_takeWhile_imp hback
  · intro hpair
    have hreverse : [':', ':'].reverse <:+: (afterColons (afterBackslash name.toList)).reverse :=
      List.reverse_infix.mpr hpair
    rw [afterColons, List.reverse_reverse] at hreverse
    exact not_pair_infix_beforeColons _ hreverse

/-- What stands behind a backslash is the short name, unless it has separators itself. -/
theorem shortName_behind {s : String} (h : ¬ HasSeparator s) (before : List Char) :
    shortName (String.ofList (before ++ '\\' :: s.toList)) = s := by
  rw [HasSeparator, not_or] at h
  have hback : afterBackslash (before ++ '\\' :: s.toList) = s.toList := by
    have hall : ∀ c ∈ s.toList.reverse, decide (c ≠ '\\') = true := by
      intro c hc
      exact decide_eq_true fun heq => h.1 (heq ▸ List.mem_reverse.mp hc)
    rw [afterBackslash, List.reverse_append, List.reverse_cons, List.append_assoc,
      List.takeWhile_append_of_pos hall]
    simp
  rw [shortName, String.toList_ofList, hback, (afterColons_eq_self_iff _).mpr h.2,
    String.ofList_toList]

/-- Every short name stands behind separators in a name that is not in the list. -/
theorem exists_qualified_not_mem {s : String} (h : ¬ HasSeparator s) (names : List String) :
    ∃ name, HasSeparator name ∧ shortName name = s ∧ name ∉ names := by
  let behind (k : Nat) : String := String.ofList (List.replicate k '\\' ++ '\\' :: s.toList)
  have hinjective : Function.Injective behind := by
    intro k l hkl
    have hlists : List.replicate k '\\' ++ '\\' :: s.toList =
        List.replicate l '\\' ++ '\\' :: s.toList := String.ofList_injective hkl
    simpa using congrArg List.length hlists
  obtain ⟨name, ⟨k, rfl⟩, hk⟩ :=
    (Set.infinite_range_of_injective hinjective).exists_notMem_finset names.toFinset
  refine ⟨behind k, Or.inl ?_, shortName_behind h _, by simpa using hk⟩
  simp [behind]

end Naming

namespace Entity

/-- The entity has no namespace, and its class name brings one along. -/
def SpellsNamespace (e : Entity) : Prop := e.nameSpace = none ∧ Naming.HasSeparator e.className

/-- Without a namespace of its own, an entity goes by its class name as it stands. -/
theorem fullName_of_bare {e : Entity} (h : e.nameSpace = none) : e.fullName = e.className := by
  rw [fullName, h]

end Entity

namespace DataModel

/-- **Which models give a qualified name no class of another namespace.**  An entity that has a
namespace is found under no qualified name but its own.  An entity whose class name brings its
namespace along is found under other namespaces, unless another entity without a namespace has the
same short name. -/
theorem qualified_names_apart_iff (calls : List ModelCall) :
    let m := afterCalls calls
    (∀ name e, Naming.HasSeparator name → m.find? name = some e → e.nameSpace ≠ none →
      e.fullName = name) ∧
    ((∀ name e, Naming.HasSeparator name → m.find? name = some e →
        e.fullName = name ∨ ¬ Naming.HasSeparator e.fullName) ↔
      ∀ e ∈ m.entities, e.SpellsNamespace →
        ∃ f ∈ m.entities, f ≠ e ∧ f.nameSpace = none ∧ f.shortName = e.shortName) := by
  intro m
  have hfind := (Apart.afterCalls calls).find?_iff
  refine ⟨?_, ?_, ?_⟩
  · intro name e hname hfound hspace
    rcases (hfind name e).mp hfound with ⟨_, hfull⟩ | ⟨_, hmay, _⟩
    · exact hfull
    · exact absurd (hmay.bare hname) hspace
  · rintro hapart e he ⟨hbare, hspelled⟩
    by_contra halone
    obtain ⟨name, hname, hshort, hnew⟩ := Naming.exists_qualified_not_mem
      (Naming.not_hasSeparator_shortName e.className) (m.entities.map (·.fullName))
    have hunknown : ∀ f ∈ m.entities, f.fullName ≠ name := by
      intro f hf hfull
      exact hnew (hfull ▸ List.mem_map_of_mem hf)
    have honly : ∀ f, m.MayAnswer name f → f = e := by
      intro f hf
      by_contra hne
      exact halone ⟨f, hf.mem, hne, hf.bare hname, hf.short.trans hshort⟩
    have hfound : m.find? name = some e :=
      (hfind name e).mpr (Or.inr ⟨hunknown, ⟨he, hshort.symm, fun _ => hbare⟩, honly⟩)
    rcases hapart name e hname hfound with hfull | hnone
    · exact hunknown e he hfull
    · exact hnone (Entity.fullName_of_bare hbare ▸ hspelled)
  · intro hnamesakes name e hname hfound
    rcases (hfind name e).mp hfound with ⟨_, hfull⟩ | ⟨_, hmay, honly⟩
    · exact Or.inl hfull
    · refine Or.inr fun hseparator => ?_
      have hbare := hmay.bare hname
      rw [Entity.fullName_of_bare hbare] at hseparator
      obtain ⟨f, hf, hne, hfbare, hshort⟩ := hnamesakes e hmay.mem ⟨hbare, hseparator⟩
      exact hne (honly f ⟨hf, hshort.trans hmay.short, fun _ => hfbare⟩)

/-- Not every qualified name keeps to its namespace: an order of one namespace is found among those
of another one. -/
theorem qualified_name_strays :
    ¬ ∀ calls name e, Naming.HasSeparator name → (afterCalls calls).find? name = some e →
      e.fullName = name ∨ ¬ Naming.HasSeparator e.fullName := by
  intro hapart
  let order : Entity := { id := .ofNat 1, className := "App\\Model\\Order", table := "orders" }
  have hfound : (afterCalls [.register order]).find? "App\\Other\\Order" = some order := by
    decide
  have hname : Naming.HasSeparator "App\\Other\\Order" := Or.inl (by decide)
  have hfull : Naming.HasSeparator order.fullName := Or.inl (by decide +kernel)
  rcases hapart _ _ _ hname hfound with hsame | hnone
  · exact absurd hsame (by decide)
  · exact hnone hfull

end DataModel

end Schemata
