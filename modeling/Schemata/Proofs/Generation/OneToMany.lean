import Schemata.Proofs.Generation.Answers
import Schemata.Proofs.Generation.Ways

/-!
# Where one-to-many accessors lead

A one-to-many collector is meant for the rows of a foreign entity that point back at the owner.  It
names a reference of the foreign entity, and nothing else is asked of the reference: when the model
is linked, when it is checked and when the accessor is written, it only has to be there.

The accessor leads back exactly if the class of the reference finds the owner.  If it finds another
entity, the documentation lists columns of that entity to bind, and the query answers the rows that
belong to a row of it.

* `LeadsBack.bindings_subset` - an accessor that leads back binds columns of the owner;
* `leadsBack_iff` - the accessor of a collector, and when it leads back;
* `billing_strays` - an accessor that leads elsewhere.
-/

namespace Schemata.Generation

variable {m : DataModel} {owner foreign : Entity} {c : Collector} {a : Accessor}

/-- **The accessor leads back:** it selects rows of the foreign entity by a reference of it that
points at the owner. -/
def LeadsBack (owner foreign : Entity) (a : Accessor) : Prop :=
  ∃ r ∈ foreign.references, r.foreignTable? = some owner.table ∧
    a.query = .rows foreign.table (r.columns.map (·.column)) ∧
    a.bindings = r.columns.map (·.foreignColumn)

/-- An accessor that leads back binds columns of the owner. -/
theorem LeadsBack.bindings_subset (h : m.Sound) (howner : owner ∈ m.entities)
    (hforeign : foreign ∈ m.entities) (ha : LeadsBack owner foreign a) :
    a.bindings ⊆ owner.columnNames := by
  obtain ⟨r, hr, htable, -, hbindings⟩ := ha
  rw [hbindings]
  exact (h.pointsAt_of_table hforeign hr howner htable).foreignColumns_subset

/-- An accessor by a reference that points at a target leads back exactly if the target is the
owner. -/
theorem leadsBack_directAccessor_iff (h : m.Sound) (howner : owner ∈ m.entities)
    (hforeign : foreign ∈ m.entities) {r : Reference} (hr : r ∈ foreign.references)
    {target : Entity} (htarget : target ∈ m.entities) (hpoints : r.PointsAt target) :
    LeadsBack owner foreign (directAccessor c foreign r) ↔ target = owner := by
  constructor
  · rintro ⟨s, hs, htable, hquery, -⟩
    simp only [directAccessor, Query.rows.injEq, true_and] at hquery
    obtain rfl := h.eq_of_columns hforeign hr hs hquery
    exact h.eq_of_table htarget howner (Option.some_inj.mp (hpoints.table.symm.trans htable))
  · rintro rfl
    exact ⟨r, hr, hpoints.table, rfl, rfl⟩

/-- **The accessor of a one-to-many collector.**  It is always there, binds columns of the entity
that the reference points at, and answers the rows that the reference links to the bound row.  It
leads back exactly if that entity is the owner. -/
theorem leadsBack_iff (h : m.Sound) (howner : owner ∈ m.entities) (hc : c ∈ owner.collectors)
    {foreignClass name : String} (hkind : c.kind = .oneToMany foreignClass name) :
    ∃ foreign r target a, m.find? foreignClass = some foreign ∧
      foreign.reference? name = some r ∧ m.find? r.foreignClass = some target ∧
      collectorAccessor? m owner c = some a ∧
      a.query = .rows foreign.table (r.columns.map (·.column)) ∧
      a.bindings = r.columns.map (·.foreignColumn) ∧ a.bindings ⊆ target.columnNames ∧
      (∀ {V : Type} [DecidableEq V] (tables : Tables V) (bound row : Row V),
        row ∈ a.answer tables bound ↔ row ∈ tables foreign.table ∧ r.Links row bound) ∧
      (LeadsBack owner foreign a ↔ target = owner) := by
  obtain ⟨foreign, r, hfind, hr, haccessor⟩ := collectorAccessor?_oneToMany h howner hc hkind
  have hforeign := DataModel.mem_of_find? hfind
  have hmem := (Lookup.mem_of_find?_key hr).1
  obtain ⟨target, hclass, hpoints⟩ := h.pointsAt_find? hforeign hmem
  refine ⟨foreign, r, target, directAccessor c foreign r, hfind, hr, hclass, haccessor, rfl, rfl,
    hpoints.foreignColumns_subset, fun _ _ _ => mem_answer_rows rfl rfl, ?_⟩
  exact leadsBack_directAccessor_iff h howner hforeign hmem (DataModel.mem_of_find? hclass) hpoints

namespace Billing

/-- Articles have a code for a key. -/
def article : Entity :=
  { id := .ofNat 1, className := "Article", table := "article",
    attributes := [(Attribute.plain "code" "VARCHAR(20)").primary] }

/-- Invoices collect their lines, and name the wrong reference of lines. -/
def invoice : Entity :=
  { id := .ofNat 2, className := "Invoice", table := "invoice", attributes := [.identity],
    collectors := [{ name := "lines", kind := .oneToMany "InvoiceLine" "article" }] }

def line : Entity :=
  { id := .ofNat 3, className := "InvoiceLine", table := "invoice_line", attributes := [.identity],
    references := [
      { name := "invoice", foreignClass := "Invoice", constraint := "line_invoice",
        mappings := [⟨"invoice_id", "id"⟩] },
      { name := "article", foreignClass := "Article", constraint := "line_article",
        mappings := [⟨"article_code", "code"⟩] }] }

/-- The billing as it is declared. -/
def declared : DataModel := { entities := [article, invoice, line] }

def model : DataModel := declared.linkAll

/-- Invoices as they stand in the linked model. -/
def linkedInvoice : Entity := invoice.linkedIn declared

/-- The collector of invoices, with what it has found. -/
def lines : Collector :=
  { name := "lines"
    kind := .oneToMany "InvoiceLine" "article"
    binding :=
      { foreign := .resolved line.id
        reference := .resolved ⟨line.id, "article"⟩ } }

/-- The accessor of that collector. -/
def getLines : Accessor :=
  { name := "get_lines"
    summary := "Select the \x60InvoiceLine\x60 rows collected by \x60lines\x60."
    bindings := ["code"]
    query := .rows "invoice_line" ["article_code"] }

/-- The billing model is sound. -/
theorem sound : model.Sound :=
  .of_entities (by decide) (by decide) (by decide) (by decide)

/-- The linked invoice is one of its entities. -/
theorem invoice_mem : linkedInvoice ∈ model.entities :=
  DataModel.linkedIn_mem_linkAll (by simp [declared])

/-- The linked line of an invoice is another. -/
theorem line_mem : line.linkedIn declared ∈ model.entities :=
  DataModel.linkedIn_mem_linkAll (by simp [declared])

/-- The lines are a collector of the invoice. -/
theorem lines_mem : lines ∈ linkedInvoice.collectors := by decide

end Billing

open Billing

/-- The lines of an invoice. -/
theorem billing_leadsBack_iff :
    model.Sound ∧ linkedInvoice ∈ model.entities ∧ lines ∈ linkedInvoice.collectors ∧
    lines.kind = .oneToMany "InvoiceLine" "article" ∧
    ∃ foreign r target a, model.find? "InvoiceLine" = some foreign ∧
      foreign.reference? "article" = some r ∧ model.find? r.foreignClass = some target ∧
      collectorAccessor? model linkedInvoice lines = some a ∧
      a.query = .rows foreign.table (r.columns.map (·.column)) ∧
      a.bindings = r.columns.map (·.foreignColumn) ∧ a.bindings ⊆ target.columnNames ∧
      (∀ {V : Type} [DecidableEq V] (tables : Tables V) (bound row : Row V),
        row ∈ a.answer tables bound ↔ row ∈ tables foreign.table ∧ r.Links row bound) ∧
      (LeadsBack linkedInvoice foreign a ↔ target = linkedInvoice) :=
  ⟨sound, invoice_mem, lines_mem, rfl, leadsBack_iff sound invoice_mem lines_mem rfl⟩

/-- Invoices get an accessor for their lines that goes by the reference to articles.  It binds the
code of the invoice; and as an invoice has none, it never finds a line. -/
theorem billing_strays :
    model.Sound ∧ linkedInvoice ∈ model.entities ∧ lines ∈ linkedInvoice.collectors ∧
    lines.kind = .oneToMany "InvoiceLine" "article" ∧
    model.find? "InvoiceLine" = some (line.linkedIn declared) ∧
    collectorAccessor? model linkedInvoice lines = some getLines ∧
    getLines ∈ accessors model linkedInvoice ∧
    "code" ∈ getLines.bindings ∧ "code" ∉ linkedInvoice.columnNames ∧
    (∀ (tables : Tables String) (bound : Row String), bound "code" = none →
      getLines.answer tables bound = []) ∧
    ¬ LeadsBack linkedInvoice (line.linkedIn declared) getLines := by
  have hbound : "code" ∈ getLines.bindings := by decide
  have habsent : "code" ∉ linkedInvoice.columnNames := by decide
  refine ⟨sound, invoice_mem, lines_mem, rfl, by decide, by decide,
    by decide +kernel, hbound, habsent, fun tables bound hnone => ?_, fun hback => ?_⟩
  · have hnever : ∀ row, hasValues row ["article_code"] [bound "code"] = false := by
      simp [hasValues, sqlEqual, hnone]
    simp [getLines, Accessor.answer, Query.answer, hnever]
  · exact habsent (hback.bindings_subset sound invoice_mem line_mem hbound)

end Schemata.Generation
