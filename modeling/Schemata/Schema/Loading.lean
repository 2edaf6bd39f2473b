import Schemata.Schema.Document
import Schemata.Schema.Element

/-!
# Loading a document from its events

The events of a schema document are read one by one.  At any time at most one entity or extension is
open, and in it at most one reference and one index.  A member joins the open entity when its
element ends; attributes and collectors join when it starts.  Elements that mean nothing here are
read past.

* `start_schema` - an element of another name changes nothing;
* `complete_open` - a document must not end inside an entity.
-/

namespace Schemata

open Markup

/-- The entity or extension that is being read. -/
inductive OpenTarget where
  | entity (e : Entity)
  | extension (x : Extension)
  deriving DecidableEq, Repr

namespace OpenTarget

/-- The target with one more attribute. -/
def addAttribute (a : Attribute) : OpenTarget → OpenTarget
  | .entity e => .entity (e.addAttribute a)
  | .extension x => .extension { x with attributes := x.attributes ++ [a] }

/-- The target with one more reference. -/
def addReference (r : Reference) : OpenTarget → OpenTarget
  | .entity e => .entity (e.addReference r)
  | .extension x => .extension { x with references := x.references ++ [r] }

/-- The target with one more index. -/
def addIndex (i : Index) : OpenTarget → OpenTarget
  | .entity e => .entity (e.addIndex i)
  | .extension x => .extension { x with indexes := x.indexes ++ [i] }

/-- The target with one more collector. -/
def addCollector (c : Collector) : OpenTarget → OpenTarget
  | .entity e => .entity (e.addCollector c)
  | .extension x => .extension { x with collectors := x.collectors ++ [c] }

end OpenTarget

/-- What has been read of a document. -/
structure Loading where
  /-- The identities left for entities to come. -/
  ids : IdSupply
  /-- The entities and extensions that are complete. -/
  document : Document := {}
  target : Option OpenTarget := none
  reference : Option Reference := none
  index : Option Index := none
  deriving DecidableEq, Repr

namespace Loading

/-- The open target changed, for a member that needs one. -/
def inTarget (l : Loading) (tag : String) (change : OpenTarget → OpenTarget) :
    Except SchemaProblem Loading :=
  match l.target with
  | none => .error (.outsideEntity tag)
  | some target => .ok { l with target := some (change target) }

/-- After the start of an element. -/
def start (l : Loading) (tag : String) (attributes : Attributes) :
    Except SchemaProblem Loading :=
  match tag with
  | "entity" =>
    if l.target.isSome then .error (.nested tag)
    else
      let (id, ids) := l.ids.draw
      .ok { l with ids, target := some (.entity (Element.entity id attributes)) }
  | "entity-extension" =>
    if l.target.isSome then .error (.nested tag)
    else .ok { l with target := some (.extension (Element.extension attributes)) }
  | "attribute" => do
    let a ← Element.member attributes
    l.inTarget tag (.addAttribute a)
  | "reference" =>
    if l.target.isNone then .error (.outsideEntity tag)
    else do
      let r ← Element.reference attributes
      return { l with reference := some r }
  | "mapping" =>
    match l.reference with
    | none => .error .outsideReference
    | some r =>
      let pair := Element.mapping r.name attributes
      .ok { l with reference := some (r.withMapping pair.column pair.foreignAttribute) }
  | "index" =>
    if l.target.isNone then .error (.outsideEntity tag)
    else do
      let i ← Element.index attributes
      return { l with index := some i }
  | "indexPart" => do
    let part ← Element.indexPart attributes
    match l.index with
    | none => .error .outsideIndex
    | some i => .ok { l with index := some (i.withPart part) }
  | "collector" => do
    let c ← Element.collector attributes
    l.inTarget tag (.addCollector c)
  | _ => .ok l

/-- After the end of an entity or extension: it is complete. -/
def closeTarget (l : Loading) : Loading :=
  match l.target with
  | some (.entity e) =>
    { l with
      target := none
      document := { l.document with entities := l.document.entities ++ [e] } }
  | some (.extension x) =>
    { l with
      target := none
      document := { l.document with extensions := l.document.extensions ++ [x] } }
  | none => l

/-- After the end of an element. -/
def finish (l : Loading) (tag : String) : Except SchemaProblem Loading :=
  match tag with
  | "entity" => .ok l.closeTarget
  | "entity-extension" => .ok l.closeTarget
  | "reference" =>
    match l.reference with
    | none => .ok l
    | some r => { l with reference := none : Loading }.inTarget tag (.addReference r)
  | "index" =>
    match l.index with
    | none => .ok l
    | some i => { l with index := none : Loading }.inTarget tag (.addIndex i)
  | _ => .ok l

/-- The attributes of a tag, or the problem they have. -/
def checked (attributes : Except AttributeProblem Attributes) :
    Except SchemaProblem Attributes :=
  Element.orRefuse .attributes attributes

/-- After one event. -/
def step (l : Loading) : Event → Except SchemaProblem Loading
  | .opening name attributes => do
    let attributes ← checked attributes
    l.start name attributes
  | .empty name attributes => do
    let attributes ← checked attributes
    let l ← l.start name attributes
    l.finish name
  | .closing name => l.finish name

/-- After a list of events. -/
def run (l : Loading) : List Event → Except SchemaProblem Loading
  | [] => .ok l
  | event :: rest => do
    let l ← l.step event
    l.run rest

/-- The document that was read, once it has ended. -/
def complete (l : Loading) : Except SchemaProblem Document :=
  if l.target.isSome then .error .unfinishedEntity else .ok l.document

/-- Elements that mean nothing here are read past. -/
theorem start_schema (l : Loading) (attributes : Attributes) :
    l.start "schema" attributes = .ok l := rfl

/-- A document must not end inside an entity. -/
theorem complete_open {l : Loading} {target : OpenTarget} (h : l.target = some target) :
    l.complete = .error .unfinishedEntity := by
  simp [complete, h]

end Loading

namespace Document

/-- The document of a list of events, and the identities left. -/
def ofEvents (ids : IdSupply) (events : List Event) :
    Except SchemaProblem (Document × IdSupply) := do
  let l ← Loading.run { ids } events
  let d ← l.complete
  return (d, l.ids)

/-- The document of a scan: its events, then the failure that stopped it. -/
def ofScan (ids : IdSupply) (s : Scan) : Except SchemaProblem (Document × IdSupply) := do
  let l ← Loading.run { ids } s.events
  match s.failure with
  | some failure => .error (.markup failure)
  | none => do
    let d ← l.complete
    return (d, l.ids)

/-- The document of an XML text.  The name of its source goes into the message of a failure. -/
def ofXml (ids : IdSupply) (source xml : String) : Except Failure (Document × IdSupply) :=
  match ofScan ids (scan xml) with
  | .ok result => .ok result
  | .error problem => .error (.malformedXml source problem.message)

/-- Where the markup is sound, a document is what its events say. -/
theorem ofScan_sound {ids : IdSupply} {events : List Event} :
    ofScan ids ⟨events, none⟩ = ofEvents ids events := rfl

end Document

end Schemata
