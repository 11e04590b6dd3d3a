import SchemaAtlas.Proofs.Crawl.Agenda
import SchemaAtlas.Proofs.Handler.Reading
import SchemaAtlas.Proofs.Provider.Probing

/-!
# Failures that escape a handler

Checking and reading a database raises failures of this library, unless something that is used raises a
failure of another kind at a place where it is passed on. These places are told here exactly: getting a
connection, the probe, inspecting the database, and closing a connection.
-/

namespace SchemaAtlas

open Batch (answerAt answerAt_tail)

namespace Failure

/-- A failure that takes another's place is of this library exactly if it was before. -/
theorem isOwn_during (f earlier : Failure) : (f.during earlier).isOwn = f.isOwn := by
  unfold during
  split <;> rfl

/-- A failure that is not of this library takes another's place as it is. -/
theorem during_of_not_isOwn {f : Failure} (h : f.isOwn = false) (earlier : Failure) : f.during earlier = f := by
  unfold during
  split
  · cases h
  · rfl

/-- A last outcome decides which foreign failure is raised: its own, or that of the first outcome if it
succeeds itself. -/
theorem afterwards_escapes_iff {α : Type} {outcome : Except Failure α} {last : Option Failure} {f : Failure} :
    afterwards outcome (Link.outcome last) = .error f ∧ f.isOwn = false ↔
      (last = some f ∨ last = none ∧ outcome = .error f) ∧ f.isOwn = false := by
  cases last with
  | none => simp [Link.outcome, afterwards]
  | some g =>
    cases outcome with
    | ok a => simp [Link.outcome, afterwards]
    | error earlier =>
      simp only [Link.outcome, afterwards, Except.error.injEq, Option.some.injEq, reduceCtorEq, false_and,
        or_false]
      constructor
      · rintro ⟨rfl, hown⟩
        rw [isOwn_during] at hown
        exact ⟨(during_of_not_isOwn hown earlier).symm, by rwa [isOwn_during]⟩
      · rintro ⟨rfl, hown⟩
        exact ⟨during_of_not_isOwn hown earlier, hown⟩

end Failure

/-! ## Freezing -/

namespace Atlas

/-- Whatever fails a computation on an atlas is a failure of this library. -/
def FailsOwn (body : Keeping Atlas Unit) (atlas : Atlas) : Prop :=
  ∀ f, (body atlas).1 = .error f → f.isOwn = true

/-- A sequence fails so if its parts do. -/
theorem FailsOwn.bind {first second : Keeping Atlas Unit} {atlas : Atlas} (hfirst : FailsOwn first atlas)
    (hsecond : ∀ after, FailsOwn second after) : FailsOwn (first >>= fun _ => second) atlas := by
  intro f hf
  rw [Keeping.bind_apply] at hf
  unfold FailsOwn at hfirst
  generalize first atlas = result at hf hfirst
  obtain ⟨_ | _, after⟩ := result
  · exact hfirst f hf
  · exact hsecond after f hf

/-- Freezing siblings fails so if freezing each that there is does. -/
theorem failsOwn_freezeSiblings {freezeChild : NodeId → Keeping Atlas Unit}
    (h : ∀ id (atlas : Atlas), (atlas.node? id).isSome → FailsOwn (freezeChild id) atlas) (parent : Node)
    (seen : List (Option String)) (ids : List NodeId) (atlas : Atlas) :
    FailsOwn (freezeSiblings freezeChild parent seen ids) atlas := by
  induction ids generalizing seen atlas with
  | nil => exact nofun
  | cons id rest ih =>
    intro f hf
    rw [freezeSiblings, Keeping.bind_of_ok (Keeping.get_apply atlas)] at hf
    cases hnode : atlas.node? id with
    | none =>
      rw [hnode] at hf
      exact ih seen atlas f hf
    | some child =>
      rw [hnode] at hf
      dsimp only at hf
      split at hf
      · obtain rfl := Except.error.inj hf
        rfl
      · exact FailsOwn.bind (h id atlas (by simp [hnode])) (ih (child.name :: seen)) f hf

/-- So does freezing collections. -/
theorem failsOwn_freezeCollections {freezeChild : NodeId → Keeping Atlas Unit}
    (h : ∀ id (atlas : Atlas), (atlas.node? id).isSome → FailsOwn (freezeChild id) atlas) (parent : Node)
    (kinds : List (NodeKind × String)) (atlas : Atlas) :
    FailsOwn (freezeCollections freezeChild parent kinds) atlas := by
  induction kinds generalizing atlas with
  | nil => exact nofun
  | cons kind rest ih => exact (failsOwn_freezeSiblings h parent [] _ atlas).bind ih

/-- Freezing levels below a node that there is fails with failures of this library only. -/
theorem failsOwn_freezeLevels (levels : Nat) (id : NodeId) (atlas : Atlas) (hid : (atlas.node? id).isSome) :
    FailsOwn (freezeLevels levels id) atlas := by
  have hmark (id : NodeId) (after : Atlas) : FailsOwn (mark id) after := nofun
  induction levels generalizing id atlas with
  | zero => exact hmark id atlas
  | succ levels ih =>
    obtain ⟨node, hnode⟩ := Option.isSome_iff_exists.mp hid
    intro f hf
    rw [freezeLevels, Keeping.bind_of_ok (Keeping.get_apply atlas), hnode] at hf
    exact (failsOwn_freezeCollections ih node node.kind.collections atlas).bind (hmark id) f hf

/-- So does freezing the node. -/
theorem failsOwn_freeze {id : NodeId} {atlas : Atlas} (hid : (atlas.node? id).isSome) :
    FailsOwn (freeze id) atlas := by
  obtain ⟨node, hnode⟩ := Option.isSome_iff_exists.mp hid
  intro f hf
  rw [freeze, Keeping.bind_of_ok (Keeping.get_apply atlas), hnode] at hf
  exact failsOwn_freezeLevels _ id atlas hid f hf

end Atlas

/-! ## Readings -/

namespace Handler

variable (handler : Handler) (filter : Option SchemaFilter)

/-- A crawl raises what inspecting the database raises, or fails with a failure of this library. -/
theorem crawlOn_escapes_iff {atlas : Atlas} (hclosed : atlas.Closed) (d : Connection) (f : Failure) :
    ((handler.crawlOn atlas filter (Link.fresh d)).1 = .error f ∧ f.isOwn = false) ↔
      (d.inspectorFailure = some f ∧ f.isOwn = false) := by
  cases hinspector : d.inspectorFailure with
  | some g => simp [crawlOn, Link.fresh, hinspector]
  | none =>
    simp only [crawlOn, Link.fresh, hinspector, reduceCtorEq, false_and, iff_false, not_and]
    intro hfails
    have hmade : (atlas.create { content := .dbms (some handler.vendor.name)
                                 name := some handler.provider.label }).1.Closed := hclosed.create rfl
    obtain ⟨between, -, htold⟩ := (Crawl.works_run_closed hmade).fails hfails
    simp [htold.isOwn]

variable {answers : List (Except Failure Connection)} {clock : List Number.Binary64}

/-- A crawl by a provider that has an engine is one on the first answer of its pool. -/
theorem crawl_engaged (atlas : Atlas) {state : Provider.State}
    (h : Provider.Engaged answers clock state) :
    (handler.crawl atlas filter state).1 = match answerAt answers 0 with
      | .error f => .error (handler.provider.toldAs f)
      | .ok d =>
        let crawled := handler.crawlOn atlas filter (Link.fresh d)
        (Failure.afterwards crawled.1 (Link.outcome d.closeFailure)).map fun _ => crawled.2.2 := by
  obtain ⟨houtcome, hengaged⟩ := handler.provider.acquire_engaged h
  rw [crawl, Keeping.bind_apply]
  generalize handler.provider.acquire state = result at houtcome hengaged
  obtain ⟨outcome, between⟩ := result
  simp only at houtcome hengaged
  subst houtcome
  cases answerAt answers 0 with
  | error f => rfl
  | ok d =>
    have hconnection := (handler.spent_crawlOn atlas filter d).1
    simp only [Provider.handsOut]
    generalize handler.crawlOn atlas filter (Link.fresh d) = crawled at hconnection
    obtain ⟨crawlOutcome, link, survey, dbms⟩ := crawled
    have hback := giveBack_ok link.close.2 between
    have hclosing : link.close.1 = Link.outcome d.closeFailure :=
      congrArg (fun c : Connection => Link.outcome c.closeFailure) hconnection
    simp only
    rw [Keeping.bind_of_ok (Prod.ext hback rfl), hclosing]
    cases Failure.afterwards crawlOutcome (Link.outcome d.closeFailure) <;> rfl

/-- What escapes a first reading by a provider that has an engine: a failure to get a connection that the
database layer does not know of, and whatever inspecting the database or closing the connection raises that
is no failure of this library. -/
theorem read_escapes_iff {state : State} (h : Provider.Engaged answers clock state.reach)
    (hfirst : state.charted = none) (f : Failure) :
    ((handler.read filter state).1 = .error f ∧ f.isOwn = false) ↔
      (answerAt answers 0 = .error f ∧ f.IsForeign) ∨
        ∃ d, answerAt answers 0 = .ok d ∧
          (d.closeFailure = some f ∨ d.closeFailure = none ∧ d.inspectorFailure = some f) ∧ f.isOwn = false := by
  have hatlas : state.atlas = {} := by rw [State.atlas, hfirst]
  have hcrawl := handler.crawl_engaged filter state.atlas h
  rw [hatlas] at hcrawl
  -- A document that was crawled is frozen; where that fails, it does so with a failure of this library.
  have hread : ((handler.read filter state).1 = .error f ∧ f.isOwn = false) ↔
      ((handler.crawl {} filter state.reach).1 = .error f ∧ f.isOwn = false) := by
    rw [read_eq, onReach, Keeping.onPart_apply, hatlas]
    cases hcrawled : (handler.crawl {} filter state.reach).1 with
    | error g => simp
    | ok result =>
      obtain ⟨survey, dbms⟩ := result
      have hnode : (survey.atlas.node? dbms).isSome := by
        obtain ⟨link, used, -, hon, -⟩ := handler.crawl_eq_ok (Prod.ext hcrawled rfl)
        obtain ⟨-, hroot⟩ := handler.crawlOn_evolves {} filter link
        rw [hon] at hroot
        obtain ⟨node, hnode⟩ := hroot Atlas.proper_empty
        simp [hnode]
      rcases hfrozen : Atlas.freeze dbms survey.atlas with ⟨g | _, atlas⟩
      · have hg : g.isOwn = true := Atlas.failsOwn_freeze hnode g (by rw [hfrozen])
        simp only [hfrozen, Except.error.injEq, reduceCtorEq, false_and, iff_false, not_and]
        rintro rfl
        simp [hg]
      · simp [hfrozen]
  rw [hread, hcrawl]
  cases hanswer : answerAt answers 0 with
  | error g =>
    simpa only [Except.error.injEq, reduceCtorEq, false_and, exists_false, or_false] using
      handler.provider.toldAs_escapes_iff g f
  | ok d =>
    have hcrawlOn := handler.crawlOn_escapes_iff filter Atlas.closed_empty d f
    have hafterwards := @Failure.afterwards_escapes_iff _ (handler.crawlOn {} filter (Link.fresh d)).1
      d.closeFailure f
    have hmap {β γ : Type} (outcome : Except Failure β) (g : β → γ) :
        outcome.map g = .error f ↔ outcome = .error f := by
      cases outcome <;> simp [Except.map]
    simp only [hmap, hafterwards, reduceCtorEq, false_and, false_or, Except.ok.injEq, exists_eq_left']
    constructor
    · rintro ⟨hlast | ⟨hlast, hfails⟩, hown⟩
      · exact ⟨.inl hlast, hown⟩
      · exact ⟨.inr ⟨hlast, (hcrawlOn.mp ⟨hfails, hown⟩).1⟩, hown⟩
    · rintro ⟨hlast | ⟨hlast, hinspector⟩, hown⟩
      · exact ⟨.inl hlast, hown⟩
      · exact ⟨.inr ⟨hlast, (hcrawlOn.mpr ⟨hinspector, hown⟩).1⟩, hown⟩

end Handler

end SchemaAtlas
