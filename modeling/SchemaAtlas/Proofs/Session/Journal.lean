import Mathlib.Data.List.Forall2
import SchemaAtlas.Proofs.Session.Retry
import SchemaAtlas.Proofs.Session.Use

/-!
# The journal of a batch

What passes between a supplier and its user is kept in a journal by a supplier that watches another one.
Watching changes nothing. The journal of a batch consists of turns, one for each answer of the pool that
the batch asked for: a refusal, or a fresh connection that comes back after one attempt, closed, before
anything else is asked for.
-/

namespace SchemaAtlas

variable {σ τ α β : Type}

/-! ## Watching a supplier -/

/-- What passes between a supplier and its user. -/
inductive Exchange where
  | refused (f : Failure)
  | acquired (link : Link)
  | returned (link : Link)

namespace Exchange

/-- The exchange that an answer to a request is. -/
def ofAnswer : Except Failure Link → Exchange
  | .ok link => .acquired link
  | .error f => .refused f

/-- The connection that an exchange brings back. -/
def returned? : Exchange → Option Link
  | .returned link => some link
  | _ => none

end Exchange

/-- A supplier that keeps a journal of what passes between another one and its user. -/
def Supplier.watched (supplier : Supplier σ) : Supplier (σ × List Exchange) where
  acquire := fun (s, journal) =>
    let (answer, s) := supplier.acquire s
    (answer, s, journal ++ [.ofAnswer answer])
  giveBack link := fun (s, journal) =>
    let (outcome, s) := supplier.giveBack link s
    (outcome, s, journal ++ [.returned link])
  log entry := Keeping.onPart Prod.fst (fun s t => (s, t.2)) (supplier.log entry)

/-- A computation does to a state what another one does to the image of the state. -/
def Keeping.Follows (image : τ → σ) (body : Keeping τ α) (plain : Keeping σ α) : Prop :=
  ∀ t, plain (image t) = ((body t).1, image (body t).2)

namespace Keeping.Follows

variable {image : τ → σ}

/-- A result that is given follows itself. -/
theorem pure (a : α) : Follows image (Pure.pure a : Keeping τ α) (Pure.pure a) := fun _ => rfl

/-- So does a failure that is raised. -/
theorem throw (f : Failure) :
    Follows image (MonadExcept.throw f : Keeping τ α) (MonadExcept.throw f) := fun _ => rfl

/-- So does an outcome that is settled. -/
theorem settle (outcome : Except Failure α) :
    Follows image (Keeping.settle outcome) (Keeping.settle outcome) := fun _ => rfl

/-- A change follows the change of the image. -/
theorem modify {change : τ → τ} {plain : σ → σ} (h : ∀ t, plain (image t) = image (change t)) :
    Follows image (modify change : Keeping τ Unit) (modify plain) :=
  fun t => Prod.ext rfl (h t)

/-- Asking for the outcome of a computation follows asking for that of the other. -/
theorem attempt {body : Keeping τ α} {plain : Keeping σ α} (h : Follows image body plain) :
    Follows image (attempt body) (Keeping.attempt plain) := by
  intro t
  simp only [attempt_apply, h t]

/-- A sequence follows a sequence part by part. -/
theorem bind {body : Keeping τ α} {plain : Keeping σ α} {next : α → Keeping τ β} {plainNext : α → Keeping σ β}
    (hbody : Follows image body plain) (hnext : ∀ a, Follows image (next a) (plainNext a)) :
    Follows image (body >>= next) (plain >>= plainNext) := by
  intro t
  rw [bind_apply, bind_apply, hbody t]
  generalize body t = result
  obtain ⟨outcome, u⟩ := result
  cases outcome with
  | error f => rfl
  | ok a => exact hnext a u

/-- What is done with a state follows what is done with its image. -/
theorem of_get {next : τ → Keeping τ α} {plainNext : σ → Keeping σ α}
    (h : ∀ t, plainNext (image t) (image t) = ((next t t).1, image (next t t).2)) :
    Follows image (get >>= next) (get >>= plainNext) := h

end Keeping.Follows

/-- A supplier does to a state what another one does to the image of the state. -/
structure Supplier.Follows (image : τ → σ) (supplier : Supplier τ) (plain : Supplier σ) : Prop where
  acquire : Keeping.Follows image supplier.acquire plain.acquire
  giveBack : ∀ link, Keeping.Follows image (supplier.giveBack link) (plain.giveBack link)
  log : ∀ entry, Keeping.Follows image (supplier.log entry) (plain.log entry)

/-- A supplier that is watched does what it did before. -/
theorem Supplier.watched_follows (supplier : Supplier σ) : supplier.watched.Follows Prod.fst supplier where
  acquire := fun _ => rfl
  giveBack := fun _ _ => rfl
  log := fun _ _ => rfl

namespace Batch

/-- The state of a batch with another state of its supplier. -/
def State.map (image : τ → σ) (state : State τ) : State σ :=
  { supply := image state.supply, keys := state.keys, delivered := state.delivered }

section

variable {image : τ → σ} {supplier : Supplier τ} {plain : Supplier σ}

/-- A computation of a supplier follows that of another one. -/
theorem follows_onSupply {body : Keeping τ α} {other : Keeping σ α}
    (h : Keeping.Follows image body other) :
    Keeping.Follows (State.map image) (onSupply body) (onSupply other) := by
  intro state
  simp only [onSupply, Keeping.onPart_apply, State.map, h state.supply]

/-- Keys are changed whatever the supplier is. -/
theorem follows_changeKeys (image : τ → σ) (change : Keys → Keys) :
    Keeping.Follows (State.map image) (modify fun state => { state with keys := change state.keys })
      (modify fun state => { state with keys := change state.keys }) :=
  Keeping.Follows.modify fun _ => rfl

/-- So are deliveries. -/
theorem follows_deliverKeys (image : τ → σ) (delivery : StatementId × List Int) :
    Keeping.Follows (State.map image) (modify fun state => { state with delivered := state.delivered ++ [delivery] })
      (modify fun state => { state with delivered := state.delivered ++ [delivery] }) :=
  Keeping.Follows.modify fun _ => rfl

variable (h : supplier.Follows image plain) (policy : Policy) (statements : List (StatementId × Statement))

include h

/-- Errors are logged with a supplier as with another one. -/
theorem follows_errors (texts : List String) :
    Keeping.Follows image (texts.forM supplier.error : Keeping τ Unit) (texts.forM plain.error) := by
  induction texts with
  | nil => exact Keeping.Follows.pure ()
  | cons text rest ih => exact (h.log ⟨.error, text⟩).bind fun _ => ih

/-- An attempt is made with a supplier as with another one. -/
theorem follows_attempt :
    Keeping.Follows (State.map image) (attempt supplier policy statements)
      (attempt plain policy statements) := by
  refine (follows_changeKeys image fun keys => keys.clear (statements.map Prod.fst)).bind ?_
  intro _
  refine (follows_onSupply h.acquire).bind ?_
  intro link
  apply Keeping.Follows.of_get
  intro state
  have hend (logged : List String) (outcome : Except Failure Unit) (after : Link) :=
    follows_onSupply ((h.giveBack after).bind fun _ =>
      (follows_errors h logged).bind fun _ => Keeping.Follows.settle outcome)
  exact ((follows_changeKeys image fun _ => _).bind fun _ => hend _ _ _) state

/-- So is a loop of attempts. -/
theorem follows_attempts (left number : Nat) :
    Keeping.Follows (State.map image) (attempts supplier policy statements left number)
      (attempts plain policy statements left number) := by
  induction left generalizing number with
  | zero => exact Keeping.Follows.pure ()
  | succ left ih =>
    apply (follows_attempt h policy statements).attempt.bind
    intro outcome
    cases outcome with
    | ok _ => exact Keeping.Follows.pure ()
    | error f =>
      simp only
      split
      · exact (follows_onSupply (h.log _)).bind fun _ => ih (number + 1)
      · exact Keeping.Follows.throw f

omit h in
/-- Keys are delivered whatever the supplier is. -/
theorem follows_deliver (image : τ → σ) (consumers : Consumers) (ids : List StatementId) :
    Keeping.Follows (State.map image) (deliver consumers ids) (deliver consumers ids) := by
  induction ids with
  | nil => exact Keeping.Follows.pure ()
  | cons id rest ih =>
    simp only [deliver]
    cases consumers id with
    | none => exact ih
    | some consumer =>
      apply Keeping.Follows.of_get
      intro state
      exact ((follows_deliverKeys image _).bind fun _ => (Keeping.Follows.settle _).bind fun _ => ih) state

/-- A batch runs with a supplier as with another one. -/
theorem follows_run (consumers : Consumers) :
    Keeping.Follows (State.map image) (run supplier policy consumers statements)
      (run plain policy consumers statements) :=
  (follows_attempts h policy statements policy.maxAttempts 1).bind fun _ => follows_deliver image consumers _

end

/-! ## The turns of a batch -/

/-- What an attempt exchanges with a pool that gives an answer: a refusal is all there is, and a
connection comes back as an attempt leaves it. -/
inductive Turn (policy : Policy) (statements : List Statement) :
    Except Failure Connection → List Exchange → Prop where
  | refused (f : Failure) : Turn policy statements (.error f) [.refused f]
  | used {c : Connection} {link : Link} (h : Attempted policy statements c link) :
    Turn policy statements (.ok c) [.acquired (Link.fresh c), .returned link]

/-- The answers that a pool gives to a number of requests. -/
def answersTo (answers : List (Except Failure Connection)) (requests : Nat) :
    List (Except Failure Connection) :=
  (List.range requests).map (answerAt answers)

/-- The answers to some requests, followed by the answers of the pool as it then is. -/
theorem answersTo_add (answers : List (Except Failure Connection)) (first second : Nat) :
    answersTo answers (first + second) = answersTo answers first ++ answersTo (answers.drop first) second := by
  have hshift (i : Nat) : answerAt (answers.drop first) i = answerAt answers (first + i) := by
    simp [answerAt, List.getD_eq_getElem?_getD]
  simp [answersTo, List.range_add, hshift]

/-- A watched pool is asked for connections a number of times, each of which takes a turn. -/
structure TakesTurns (policy : Policy) (statements : List Statement) (before after : Pool × List Exchange)
    (made : Nat) (turns : List (List Exchange)) : Prop where
  acquired : after.1.acquired = before.1.acquired + made
  waiting : after.1.waiting = before.1.waiting.drop made
  told : List.Forall₂ (Turn policy statements) (answersTo before.1.waiting made) turns
  journal : after.2 = before.2 ++ turns.flatten
  links : after.1.links = before.1.links ++ turns.flatten.filterMap Exchange.returned?

/-- Turns are taken after turns. -/
theorem TakesTurns.trans {policy : Policy} {statements : List Statement}
    {before between after : Pool × List Exchange} {made more : Nat} {turns others : List (List Exchange)}
    (hfirst : TakesTurns policy statements before between made turns)
    (hsecond : TakesTurns policy statements between after more others) :
    TakesTurns policy statements before after (made + more) (turns ++ others) where
  acquired := by rw [hsecond.acquired, hfirst.acquired, Nat.add_assoc]
  waiting := by rw [hsecond.waiting, hfirst.waiting, List.drop_drop]
  told := by
    have hothers := hsecond.told
    rw [hfirst.waiting] at hothers
    rw [answersTo_add]
    exact List.rel_append hfirst.told hothers
  journal := by rw [hsecond.journal, hfirst.journal, List.flatten_append, List.append_assoc]
  links := by
    rw [hsecond.links, hfirst.links, List.flatten_append, List.filterMap_append, List.append_assoc]

/-- A watched pool takes a number of turns. -/
def Took (policy : Policy) (statements : List Statement) (before after : Pool × List Exchange) : Prop :=
  ∃ made turns, TakesTurns policy statements before after made turns

section

variable {policy : Policy} {statements : List Statement}

/-- A pool that changes nothing but its log takes no turn. -/
theorem Took.of_same {before after : Pool × List Exchange} (hacquired : after.1.acquired = before.1.acquired)
    (hwaiting : after.1.waiting = before.1.waiting) (hlinks : after.1.links = before.1.links)
    (hjournal : after.2 = before.2) : Took policy statements before after :=
  ⟨0, [], {
    acquired := hacquired
    waiting := hwaiting
    told := List.Forall₂.nil
    journal := by simp [hjournal]
    links := by simp [hlinks] }⟩

instance Took.instIsPreorder : IsPreorder (Pool × List Exchange) (Took policy statements) where
  refl _ := Took.of_same rfl rfl rfl rfl
  trans := by
    rintro before between after ⟨made, turns, hfirst⟩ ⟨more, others, hsecond⟩
    exact ⟨made + more, turns ++ others, hfirst.trans hsecond⟩

variable (policy statements) in
/-- A watched pool takes one turn for each use by an attempt. -/
theorem keeps_took : Pool.supplier.watched.Keeps (Took policy statements) (Attempted policy statements) where
  refused := by
    rintro ⟨⟨waiting, links, acquired, log⟩, journal⟩ f h
    match waiting with
    | [] =>
      exact ⟨1, [[.refused Pool.empty]],
        ⟨rfl, rfl, .cons (.refused _) .nil, rfl, (List.append_nil links).symm⟩⟩
    | .error g :: rest =>
      exact ⟨1, [[.refused g]], ⟨rfl, rfl, .cons (.refused g) .nil, rfl, (List.append_nil links).symm⟩⟩
    | .ok c :: rest => cases h
  used := by
    rintro ⟨⟨waiting, links, acquired, log⟩, journal⟩ link h
    match waiting with
    | [] => cases h
    | .error g :: rest => cases h
    | .ok c :: rest =>
      obtain rfl : Link.fresh c = link := Except.ok.inj h
      refine ⟨c, rfl, ?_⟩
      intro after hafter
      have hjournal : journal ++ [.acquired (Link.fresh c)] ++ [.returned after] =
          journal ++ [.acquired (Link.fresh c), .returned after] := List.append_assoc ..
      exact ⟨1, [[.acquired (Link.fresh c), .returned after]],
        ⟨rfl, rfl, .cons (.used hafter) .nil, hjournal, rfl⟩⟩
  logs := fun _ _ => Took.of_same rfl rfl rfl rfl

end

/-- A batch asks for a connection in each attempt: for one at least, if it may make attempts, and for no more than it
may make. -/
theorem run_asks (policy : Policy) (consumers : Consumers) (statements : List (StatementId × Statement))
    (state : State Pool) :
    ∃ made, (1 ≤ policy.maxAttempts → 1 ≤ made) ∧ made ≤ policy.maxAttempts ∧
      (run Pool.supplier policy consumers statements state).2.supply.acquired = state.supply.acquired + made := by
  have hdeliver (between : State Pool) :
      (deliver consumers (statements.map Prod.fst) between).2.supply = between.supply :=
    (keeps_deliver (R := Eq) consumers _ between).symm
  rcases hloop : attempts Pool.supplier policy statements policy.maxAttempts 1 state with ⟨outcome, between⟩
  have hrun : (run Pool.supplier policy consumers statements state).2.supply = between.supply := by
    cases outcome with
    | error f => rw [run, Keeping.bind_of_error hloop]
    | ok _ => rw [run, Keeping.bind_of_ok hloop, hdeliver]
  rw [hrun]
  rcases hmax : policy.maxAttempts with _ | left
  · rw [hmax] at hloop
    cases hloop
    exact ⟨0, nofun, Nat.le_refl 0, rfl⟩
  · rw [hmax] at hloop
    obtain ⟨made, last, hmade, hbefore, hends⟩ := attempts_last policy statements left 1 state
    have hcourse := (attempt_course policy statements last).acquired
    rw [← hends, hloop, hbefore.acquired, Nat.add_assoc] at hcourse
    exact ⟨made + 1, fun _ => Nat.succ_pos made, Nat.succ_le_succ hmade, hcourse⟩

/-- The journal of a batch that runs on a pool consists of turns, one for each connection asked for, of which there is
one in each attempt; that it is kept changes nothing. -/
theorem run_journal (policy : Policy) (consumers : Consumers) (statements : List (StatementId × Statement))
    (pool : Pool) (keys : Keys) :
    let watched := run Pool.supplier.watched policy consumers statements { supply := (pool, []), keys }
    let plain := run Pool.supplier policy consumers statements { supply := pool, keys }
    plain = (watched.1, watched.2.map Prod.fst) ∧
      ∃ made turns, (1 ≤ policy.maxAttempts → 1 ≤ made) ∧ made ≤ policy.maxAttempts ∧
        plain.2.supply.acquired = pool.acquired + made ∧ plain.2.supply.waiting = pool.waiting.drop made ∧
        List.Forall₂ (Turn policy (statements.map Prod.snd)) (answersTo pool.waiting made) turns ∧
        watched.2.supply.2 = turns.flatten ∧
        plain.2.supply.links = pool.links ++ turns.flatten.filterMap Exchange.returned? := by
  intro watched plain
  have hsame : plain = (watched.1, watched.2.map Prod.fst) :=
    follows_run (Supplier.watched_follows Pool.supplier) policy statements consumers
      { supply := (pool, []), keys }
  obtain ⟨made, turns, htook⟩ :=
    keeps_run (keeps_took policy _) consumers { supply := (pool, []), keys }
  obtain ⟨asked, hleast, hmost, hasked⟩ := run_asks policy consumers statements { supply := pool, keys }
  change plain.2.supply.acquired = pool.acquired + asked at hasked
  rw [hsame] at hasked
  obtain rfl : made = asked := Nat.add_left_cancel (htook.acquired.symm.trans hasked)
  refine ⟨hsame, made, turns, hleast, hmost, ?_⟩
  rw [hsame]
  exact ⟨htook.acquired, htook.waiting, htook.told, htook.journal, htook.links⟩

end Batch

end SchemaAtlas
