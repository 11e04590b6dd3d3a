import SchemaAtlas.Proofs.Atlas.Evolution
import SchemaAtlas.Proofs.Crawl.Family

/-!
# What a crawl keeps

A crawl does nothing to a survey but note, record events, add children and set fields. So it keeps whatever
these keep, however it ends. In particular it is part of the life of the atlas: documents that stand there
already last.
-/

namespace SchemaAtlas

namespace Survey

variable {Notes α γ : Type} {R : Survey Notes → Survey Notes → Prop} [IsPreorder (Survey Notes) R]

/-- Consuming a listing keeps what events and the reading of its rows keep. -/
theorem keeps_consume (hrecord : ∀ event, Keeping.Keeps R (record event)) (source : Source) (call : Call)
    {body : List Row → Keeping (Survey Notes) α} (hbody : ∀ rows, Keeping.Keeps R (body rows)) :
    Keeping.Keeps R (consume source call body) := by
  refine Keeping.Keeps.get.bind fun survey => ?_
  refine (hrecord _).bind fun _ => (Keeping.Keeps.settle _).bind fun listing => ?_
  refine (hrecord _).bind fun _ => (hbody listing.rows).attempt.bind fun outcome => ?_
  refine (hrecord _).bind fun _ => ?_
  split
  · exact Keeping.Keeps.settle _
  · exact Keeping.Keeps.throw _
  · exact Keeping.Keeps.throw _

/-- So does ingesting one. -/
theorem keeps_ingest (hrecord : ∀ event, Keeping.Keeps R (record event)) (source : Source) (call : Call)
    (parent : NodeId) (what : String) {way : Ingestion Notes γ} (hway : way.Keeps R) :
    Keeping.Keeps R (ingest source call parent what way) := by
  refine (keeps_consume hrecord source call (hway.rows 0)).attempt.bind fun outcome => ?_
  cases outcome with
  | ok count => exact Keeping.Keeps.pure count
  | error f => exact Keeping.Keeps.get.bind fun _ => Keeping.Keeps.throw _

omit [IsPreorder (Survey Notes) R] in
/-- What is kept of the atlas by added children and set fields is kept by all steps on rows. -/
theorem allows_atlas {S : Atlas → Atlas → Prop} [IsPreorder Atlas S]
    (hadd : ∀ {atlas : Atlas} {parent kind result}, atlas.add parent kind = .ok result → S atlas result.1)
    (hset : ∀ {atlas : Atlas} {id field given after}, atlas.assign id field given = .ok after → S atlas after) :
    Allows (InvImage S (Survey.atlas : Survey Notes → Atlas)) where
  note _ := Keeping.Keeps.modify fun survey => Std.Refl.refl survey.atlas
  add _ _ := keeps_add fun _ _ h => hadd h
  set _ _ _ := keeps_set fun _ _ h => hset h

/-- An event leaves the atlas. -/
theorem keeps_record {S : Atlas → Atlas → Prop} [IsPreorder Atlas S] (event : Event) :
    Keeping.Keeps (InvImage S (Survey.atlas : Survey Notes → Atlas)) (record event) :=
  Keeping.Keeps.modify fun survey => Std.Refl.refl survey.atlas

end Survey

namespace Crawl

section

variable {R : Survey Notes → Survey Notes → Prop} [IsPreorder (Survey Notes) R]
  (hrecord : ∀ event, Keeping.Keeps R (Survey.record event)) (plan : Plan)

/-- A step whose failures are explained keeps what the step keeps. -/
theorem keeps_explained {α : Type} (dbms : NodeId) (what : String) {step : Step α} (hstep : Keeping.Keeps R step) :
    Keeping.Keeps R (explained (explainedBy dbms what) step) := by
  refine hstep.attempt.bind fun outcome => ?_
  cases outcome with
  | ok a => exact Keeping.Keeps.pure a
  | error f =>
    refine Keeping.Keeps.bind ?_ fun _ => Keeping.Keeps.throw _
    unfold explainedBy
    split
    · exact Keeping.Keeps.pure f
    · exact Keeping.Keeps.get.bind fun _ => Keeping.Keeps.pure _

include hrecord

/-- Resolving the types keeps as much as events do. -/
theorem keeps_resolveTypes : Keeping.Keeps R (resolveTypes plan.vendor plan.codes plan.source) := by
  unfold resolveTypes
  split
  · refine Keeping.Keeps.bind ?_ fun _ => Keeping.Keeps.settle _
    exact Survey.keeps_consume hrecord _ _ fun _ => Keeping.Keeps.settle _
  · exact Keeping.Keeps.settle _

/-- Reading the types keeps as much as notes do besides. -/
theorem keeps_readTypes (hnote : ∀ change, Keeping.Keeps R (Survey.note change)) (dbms : NodeId) :
    Keeping.Keeps R (readTypes plan dbms) :=
  Keeping.Keeps.bind (keeps_explained dbms _ (keeps_resolveTypes hrecord plan)) fun _ => hnote _

/-- Reading a listing of names keeps what its rows keep. -/
theorem keeps_discover (h : Spares R) (dbms : NodeId) (call : Call) (nameOf : Value → Except Failure Value) :
    Keeping.Keeps R (discover plan dbms call nameOf) :=
  keeps_explained dbms _ (Survey.keeps_consume hrecord _ _ (keeps_nameRows h plan dbms nameOf))

/-- So does reading both of them. -/
theorem keeps_discoverSchemas (h : Spares R) (dbms : NodeId) : Keeping.Keeps R (discoverSchemas plan dbms) := by
  refine (keeps_discover hrecord plan h dbms _ _).bind fun _ => ?_
  refine (keeps_discover hrecord plan h dbms _ _).bind fun _ => ?_
  refine Keeping.Keeps.get.bind fun survey => ?_
  split
  · exact Keeping.Keeps.throw _
  · exact Keeping.Keeps.pure ()

end

section

variable {R : Survey Notes → Survey Notes → Prop} [IsPreorder (Survey Notes) R] (h : Survey.Allows R)
  (hrecord : ∀ event, Keeping.Keeps R (Survey.record event)) (plan : Plan)

include h hrecord

/-- Reading a part of a table keeps as much as its steps. -/
theorem keeps_readPart (space : Namespace) (table : NodeId) (part : TablePart) :
    Keeping.Keeps R (readPart plan space table part) := by
  refine Keeping.Keeps.get.bind fun _ => Keeping.Keeps.bind ?_ fun _ => Keeping.Keeps.pure _
  exact Survey.keeps_ingest hrecord _ _ _ _ (keeps_rowsOf h.builds plan table part)

/-- So does reading parts of a table one after the other. -/
theorem keeps_readParts (space : Namespace) (table : NodeId) (some : List TablePart) :
    Keeping.Keeps R (readParts plan space table some) := by
  induction some with
  | nil => exact Keeping.Keeps.pure ()
  | cons part rest ih => exact (keeps_readPart h hrecord plan space table part).bind fun _ => ih

/-- So does reading tables. -/
theorem keeps_readEach (space : Namespace) (tables : List NodeId) :
    Keeping.Keeps R (readEach plan space tables) := by
  induction tables with
  | nil => exact Keeping.Keeps.pure ()
  | cons table rest ih => exact (keeps_readParts h hrecord plan space table parts).bind fun _ => ih

/-- So does reading the tables of a schema. -/
theorem keeps_readSchema (schema : NodeId) : Keeping.Keeps R (readSchema plan schema) := by
  refine Keeping.Keeps.bind (Keeping.Keeps.get.bind fun _ => Keeping.Keeps.pure _) fun space => ?_
  refine (Survey.keeps_ingest hrecord _ _ _ _ (keeps_tableRows h.spares.toSparesColumns schema)).bind fun _ => ?_
  exact Keeping.Keeps.get.bind fun _ => keeps_readEach h hrecord plan _ _

/-- So does reading the tables of schemas. -/
theorem keeps_readSchemas (schemas : List NodeId) : Keeping.Keeps R (readSchemas plan schemas) := by
  induction schemas with
  | nil => exact Keeping.Keeps.pure ()
  | cons schema rest ih => exact (keeps_readSchema h hrecord plan schema).bind fun _ => ih

/-- So does a crawl. -/
theorem keeps_run (dbms : NodeId) : Keeping.Keeps R (run plan dbms) := by
  refine (keeps_readTypes hrecord plan h.note dbms).bind fun _ => ?_
  refine (keeps_discoverSchemas hrecord plan h.spares dbms).bind fun _ => ?_
  exact Keeping.Keeps.get.bind fun _ => keeps_readSchemas h hrecord plan _

end

/-- A step of a crawl is part of the life of the atlas. -/
theorem allows_evolves : Survey.Allows (InvImage Atlas.Evolves (Survey.atlas : Survey Notes → Atlas)) :=
  Survey.allows_atlas Atlas.evolves_of_add Atlas.evolves_of_assign

/-- A crawl is part of the life of its atlas. -/
theorem evolves_run (plan : Plan) (dbms : NodeId) :
    Keeping.Keeps (InvImage Atlas.Evolves Survey.atlas) (run plan dbms) :=
  keeps_run allows_evolves Survey.keeps_record plan dbms

end Crawl

end SchemaAtlas
