import Mathlib.Logic.Relation
import SchemaAtlas.Proofs.Failure.Keeping
import SchemaAtlas.Session.Query

/-!
# How a query proceeds

A query that runs asks for a connection, runs its statement, reaches and maps one row after the other, and closes the
connection. It is followed here step by step, so that it can be told what happens when, and what is under way while a
row mapper calls the query again. What such a call comes to is a parameter; the mapper goes on with it. The steps lead
to what the query comes to as a whole.
-/

namespace SchemaAtlas

/-- The rows that a reply returns. -/
def Reply.returned : Reply → List (Except Failure (List Value))
  | .rows returned _ => returned
  | _ => []

namespace Query

/-- What happens as a query runs. -/
inductive Moment where
  | asked
  | ran (execution : Execution)
  | mapped (row : List Value)
  | closed

/-- Where a run of a query stands: it asks for a connection, runs its statement, reaches for the next row, maps a row,
closes its connection, tells what came of it, or has ended. -/
inductive Stage where
  | asks
  | runs (link : Link)
  | reaches (link : Link) (rest : List (Except Failure (List Value))) (gathered : List Value)
  | maps (link : Link) (rest : List (Except Failure (List Value))) (gathered : List Value) (mapping : Mapping)
  | closes (link : Link) (outcome : Except Failure (List Value))
  | tells (outcome : Except Failure (List Value))
  | ended (outcome : Except Failure (List Value))

/-- A run that stands somewhere, with the state of the supplier and what happened so far. -/
structure Position (σ : Type) where
  stage : Stage
  supply : σ
  moments : List Moment := []

variable {σ : Type}

/-- Closes a connection and hands it back; what closing comes to may take the place of an outcome. -/
def release (supplier : Supplier σ) (link : Link) (outcome : Except Failure (List Value)) : Keeping σ (List Value) := do
  let (closing, link) := link.close
  supplier.giveBack link
  Keeping.settle (Failure.afterwards outcome closing)

/-- Tells an outcome: a failure of the database layer is logged, and told as a failed query. -/
def tell (supplier : Supplier σ) (query : Query) : Except Failure (List Value) → Keeping σ (List Value)
  | .ok rows => pure rows
  | .error f =>
    if f.isDatabase then do
      supplier.error (query.failureText f)
      throw (.becauseOf .query (query.failureText f) f)
    else throw f

/-- The statement that a query runs, with its parameters in their order. -/
def execution (query : Query) : Execution :=
  ⟨query.statement, .positional query.parameters⟩

/-- One step of a run, given what it comes to if the mapper calls the query again. -/
def Position.advance (supplier : Supplier σ) (query : Query) (mapper : RowMapper)
    (again : Except Failure (List Value)) (p : Position σ) : Position σ :=
  match p.stage with
  | .asks =>
    match supplier.acquire p.supply with
    | (.error f, supply) => ⟨.tells (.error f), supply, p.moments ++ [.asked]⟩
    | (.ok link, supply) => ⟨.runs link, supply, p.moments ++ [.asked]⟩
  | .runs link =>
    match link.execute query.statement (.positional query.parameters) with
    | (.error f, link) => ⟨.closes link (.error f), p.supply, p.moments ++ [.ran query.execution]⟩
    | (.ok reply, link) => ⟨.reaches link reply.returned [], p.supply, p.moments ++ [.ran query.execution]⟩
  | .reaches link [] gathered => { p with stage := .closes link (.ok gathered) }
  | .reaches link (.error f :: _) _ => { p with stage := .closes link (.error f) }
  | .reaches link (.ok row :: rest) gathered =>
    { p with stage := .maps link rest gathered (mapper row), moments := p.moments ++ [.mapped row] }
  | .maps link rest gathered (.done (.ok v)) => { p with stage := .reaches link rest (gathered ++ [v]) }
  | .maps link _ _ (.done (.error f)) => { p with stage := .closes link (.error f) }
  | .maps link rest gathered (.again next) => { p with stage := .maps link rest gathered (next again) }
  | .closes link outcome =>
    match release supplier link outcome p.supply with
    | (outcome, supply) => ⟨.tells outcome, supply, p.moments ++ [.closed]⟩
  | .tells outcome =>
    match query.tell supplier outcome p.supply with
    | (outcome, supply) => { p with stage := .ended outcome, supply }
  | .ended _ => p

/-- Whether a run has ended. -/
def Stage.hasEnded : Stage → Bool
  | .ended _ => true
  | _ => false

/-- A run that has not ended goes one step on. -/
def Goes (supplier : Supplier σ) (query : Query) (mapper : RowMapper) (again : Except Failure (List Value))
    (p q : Position σ) : Prop :=
  p.stage.hasEnded = false ∧ q = p.advance supplier query mapper again

/-- A run gets from one position to another. -/
abbrev Leads (supplier : Supplier σ) (query : Query) (mapper : RowMapper) (again : Except Failure (List Value)) :
    Position σ → Position σ → Prop :=
  Relation.ReflTransGen (Goes supplier query mapper again)

/-! ## Parts of a run -/

/-- What a mapper makes of a row. -/
def mapOf (mapper : RowMapper) (again : Except Failure (List Value)) (row : List Value) : Except Failure Value :=
  (mapper row).settle again

/-- The rows that are mapped: all up to the first that cannot be reached or mapped. -/
def mappedRows (map : List Value → Except Failure Value) : List (Except Failure (List Value)) → List (List Value)
  | [] => []
  | .error _ :: _ => []
  | .ok row :: rest =>
    row :: match map row with
      | .ok _ => mappedRows map rest
      | .error _ => []

/-- What happens on a connection that a query has: the statement is run, rows are mapped, and the connection is
closed. -/
def chapter (query : Query) (map : List Value → Except Failure Value) (link : Link) : List Moment :=
  match (link.execute query.statement (.positional query.parameters)).1 with
  | .error _ => [.ran query.execution, .closed]
  | .ok reply => .ran query.execution :: (mappedRows map reply.returned).map .mapped ++ [.closed]

/-- What happens as a query runs. -/
def story (supplier : Supplier σ) (query : Query) (map : List Value → Except Failure Value) (supply : σ) :
    List Moment :=
  match (supplier.acquire supply).1 with
  | .error _ => [.asked]
  | .ok link => .asked :: query.chapter map link

/-- Reading on a connection runs the statement and maps the rows that it returns. -/
theorem read_eq (query : Query) (map : List Value → Except Failure Value) (link : Link) :
    query.read map link = match link.execute query.statement (.positional query.parameters) with
      | (.error f, link) => (.error f, link)
      | (.ok reply, link) => (mapRows map reply.returned, link) := by
  unfold read
  generalize link.execute query.statement (.positional query.parameters) = result
  obtain ⟨_ | reply, link⟩ := result
  · rfl
  · cases reply <;> rfl

/-- Telling is the last that a query does. -/
theorem run_eq (supplier : Supplier σ) (query : Query) (map : List Value → Except Failure Value) :
    query.run supplier map = Keeping.attempt (supplier.withLink (query.read map)) >>= query.tell supplier := rfl

/-- A query asks for a connection, reads on it, releases it, and tells what came of it. -/
theorem run_apply (supplier : Supplier σ) (query : Query) (map : List Value → Except Failure Value) (supply : σ) :
    query.run supplier map supply = match supplier.acquire supply with
      | (.error f, supply) => query.tell supplier (.error f) supply
      | (.ok link, supply) =>
        let released := release supplier (query.read map link).2 (query.read map link).1 supply
        query.tell supplier released.1 released.2 := by
  have hlink : supplier.withLink (query.read map) =
      supplier.acquire >>= fun link => release supplier (query.read map link).2 (query.read map link).1 := rfl
  rw [run_eq, Keeping.bind_apply, Keeping.attempt_apply, hlink, Keeping.bind_apply]
  generalize supplier.acquire supply = asked
  obtain ⟨_ | link, between⟩ := asked <;> rfl

section

variable {supplier : Supplier σ} {query : Query} {mapper : RowMapper} {again : Except Failure (List Value)}

/-- A mapper comes to what it makes of its row, however often it calls the query again. -/
theorem maps_leads (link : Link) (rest : List (Except Failure (List Value))) (gathered : List Value)
    (mapping : Mapping) (supply : σ) (moments : List Moment) :
    Leads supplier query mapper again ⟨.maps link rest gathered mapping, supply, moments⟩
      ⟨.maps link rest gathered (.done (mapping.settle again)), supply, moments⟩ := by
  induction mapping with
  | done outcome => exact .refl
  | again next ih => exact .head ⟨rfl, rfl⟩ (ih again)

/-- Rows are mapped in their order, up to the first failure. -/
theorem reaches_leads (link : Link) (rows : List (Except Failure (List Value))) (gathered : List Value) (supply : σ)
    (moments : List Moment) :
    Leads supplier query mapper again ⟨.reaches link rows gathered, supply, moments⟩
      ⟨.closes link ((mapRows (mapOf mapper again) rows).map (gathered ++ ·)), supply,
        moments ++ (mappedRows (mapOf mapper again) rows).map .mapped⟩ := by
  induction rows generalizing gathered moments with
  | nil =>
    rw [mapRows, mappedRows, Except.map, List.map_nil, List.append_nil, List.append_nil]
    exact .single ⟨rfl, rfl⟩
  | cons row rest ih =>
    cases row with
    | error f =>
      rw [mapRows, mappedRows, Except.map, List.map_nil, List.append_nil]
      exact .single ⟨rfl, rfl⟩
    | ok row =>
      have hmaps : Leads supplier query mapper again ⟨.reaches link (.ok row :: rest) gathered, supply, moments⟩
          ⟨.maps link rest gathered (.done (mapOf mapper again row)), supply, moments ++ [.mapped row]⟩ :=
        .head ⟨rfl, rfl⟩ (maps_leads link rest gathered (mapper row) supply (moments ++ [.mapped row]))
      refine hmaps.trans ?_
      rw [mapRows, mappedRows]
      cases mapOf mapper again row with
      | error f => exact .single ⟨rfl, rfl⟩
      | ok v =>
        have hrest := ih (gathered ++ [v]) (moments ++ [.mapped row])
        have hrows : (mapRows (mapOf mapper again) rest).map (gathered ++ [v] ++ ·) =
            (do let more ← mapRows (mapOf mapper again) rest; .ok (v :: more) : Except Failure (List Value)).map
              (gathered ++ ·) := by
          cases mapRows (mapOf mapper again) rest <;> simp [bind, Except.bind, Except.map]
        rw [hrows, List.append_assoc] at hrest
        exact .head ⟨rfl, rfl⟩ hrest

/-- A connection is closed, and what comes of the run is told. -/
theorem closes_leads (link : Link) (outcome : Except Failure (List Value)) (supply : σ) (moments : List Moment) :
    let released := release supplier link outcome supply
    let told := query.tell supplier released.1 released.2
    Leads supplier query mapper again ⟨.closes link outcome, supply, moments⟩
      ⟨.ended told.1, told.2, moments ++ [.closed]⟩ :=
  .head ⟨rfl, rfl⟩ (.single ⟨rfl, rfl⟩)

/-- A query that has a connection reads on it, and releases it. -/
theorem runs_leads (link : Link) (supply : σ) (moments : List Moment) :
    let read := query.read (mapOf mapper again) link
    let released := release supplier read.2 read.1 supply
    let told := query.tell supplier released.1 released.2
    Leads supplier query mapper again ⟨.runs link, supply, moments⟩
      ⟨.ended told.1, told.2, moments ++ query.chapter (mapOf mapper again) link⟩ := by
  intro read released told
  have hgoes : Goes supplier query mapper again ⟨.runs link, supply, moments⟩ _ := ⟨rfl, rfl⟩
  refine .head hgoes ?_
  simp only [told, released, read, read_eq, chapter, Position.advance]
  cases link.execute query.statement (.positional query.parameters) with
  | mk replied link =>
    cases replied with
    | error f =>
      have hcloses : Leads supplier query mapper again ⟨.closes link (.error f), supply, _⟩ _ :=
        closes_leads link (.error f) supply (moments ++ [.ran query.execution])
      rwa [List.append_assoc] at hcloses
    | ok reply =>
      have hreaches : Leads supplier query mapper again ⟨.reaches link reply.returned [], supply, _⟩ _ :=
        reaches_leads link reply.returned [] supply (moments ++ [.ran query.execution])
      have hall : (mapRows (mapOf mapper again) reply.returned).map ([] ++ ·) =
          mapRows (mapOf mapper again) reply.returned := by
        cases mapRows (mapOf mapper again) reply.returned <;> rfl
      rw [hall] at hreaches
      have hcloses := hreaches.trans (closes_leads link _ supply _)
      rwa [List.append_assoc, List.append_assoc] at hcloses

/-- A run leads from where it asks for a connection to the end that the query comes to as a whole. -/
theorem run_leads (supply : σ) (moments : List Moment) :
    let result := query.run supplier (mapOf mapper again) supply
    Leads supplier query mapper again ⟨.asks, supply, moments⟩
      ⟨.ended result.1, result.2, moments ++ query.story supplier (mapOf mapper again) supply⟩ := by
  intro result
  have hgoes : Goes supplier query mapper again ⟨.asks, supply, moments⟩ _ := ⟨rfl, rfl⟩
  refine .head hgoes ?_
  simp only [result, run_apply, story, Position.advance]
  cases supplier.acquire supply with
  | mk asked between =>
    cases asked with
    | error f => exact .single ⟨rfl, rfl⟩
    | ok link =>
      have hruns : Leads supplier query mapper again ⟨.runs link, between, _⟩ _ :=
        runs_leads link between (moments ++ [.asked])
      rwa [List.append_assoc] at hruns

/-- Wherever a run stands, it comes to an end. -/
theorem leads_ended (p : Position σ) :
    ∃ outcome supply moments, Leads supplier query mapper again p ⟨.ended outcome, supply, moments⟩ := by
  obtain ⟨stage, supply, moments⟩ := p
  cases stage with
  | asks => exact ⟨_, _, _, run_leads supply moments⟩
  | runs link => exact ⟨_, _, _, runs_leads link supply moments⟩
  | reaches link rest gathered =>
    exact ⟨_, _, _, (reaches_leads link rest gathered supply moments).trans (closes_leads link _ supply _)⟩
  | maps link rest gathered mapping =>
    have hmaps : Leads supplier query mapper again ⟨.maps link rest gathered mapping, supply, moments⟩ _ :=
      maps_leads link rest gathered mapping supply moments
    cases hsettled : mapping.settle again with
    | error f =>
      rw [hsettled] at hmaps
      exact ⟨_, _, _, (hmaps.tail ⟨rfl, rfl⟩).trans (closes_leads link (.error f) supply moments)⟩
    | ok v =>
      rw [hsettled] at hmaps
      exact ⟨_, _, _, (hmaps.tail ⟨rfl, rfl⟩).trans ((reaches_leads link rest (gathered ++ [v]) supply moments).trans
        (closes_leads link _ supply _))⟩
  | closes link outcome => exact ⟨_, _, _, closes_leads link outcome supply moments⟩
  | tells outcome => exact ⟨_, _, _, .single ⟨rfl, rfl⟩⟩
  | ended outcome => exact ⟨_, _, _, .refl⟩

end

end Query

end SchemaAtlas
