import SocketGraph.Proofs.Retained
import SocketGraph.Proofs.Standby

/-! Undisturbed calls. A node that stands by belongs to a graph in which nothing refers to it. Whatever the other
nodes evaluate, signal and link, they do as in the graph without it. -/
namespace SocketGraph

namespace Script

/-- The node that the first operation of a script has evaluated in a linked scene. -/
def pulled? : Script → Option NodeId
  | .pullScene _ target _ => some target.node
  | _ => none

/-- Something holds whenever the handler comes to an operation of a script, whatever its answers are. -/
def Every (P : Script → Prop) : Script → Prop
  | .done outcome => P (.done outcome)
  | .fetch socket next => P (.fetch socket next) ∧ ∀ answer, (next answer).Every P
  | .push socket v next => P (.push socket v next) ∧ next.Every P
  | .expose socket v next => P (.expose socket v next) ∧ next.Every P
  | .hasExposed socket next => P (.hasExposed socket next) ∧ ∀ answer, (next answer).Every P
  | .exposeSignal socket next => P (.exposeSignal socket next) ∧ next.Every P
  | .forward socket next => P (.forward socket next) ∧ next.Every P
  | .mark target scope next => P (.mark target scope next) ∧ next.Every P
  | .emit event next => P (.emit event next) ∧ next.Every P
  | .count name next => P (.count name next) ∧ ∀ n, (next n).Every P
  | .pullScene p target next => P (.pullScene p target next) ∧ ∀ answer, (next answer).Every P
  | .pushScene p target next => P (.pushScene p target next) ∧ ∀ result, (next result).Every P

end Script

namespace Standby

/-- The script of a handler that does not have the node that stands by evaluated in a linked scene, and that does
not expose the output if it belongs to its node. -/
def Respects (w : Standby) (a : Activation) (script : Script) : Prop :=
  script.Every fun rest => rest.pulled? ≠ some w.waiter.node ∧
    (a.node = w.output.node → ∀ v, rest.keeps? ≠ some (.exposed, w.output.socket, v))

/-- Two graphs of the same components that differ at most in what they tell of the node that stands by; its peers are
the other nodes. Nothing is fed by that node or sends signals to it, and all handlers respect it. -/
structure Fits (w : Standby) (scene scene' : Scene) : Prop where
  registry : scene'.registry = scene.registry
  limits : scene'.limits = scene.limits
  node? : ∀ {node}, node ≠ w.waiter.node →
    scene'.tables.executable.node? node = scene.tables.executable.node? node
  peers : ∀ {node info}, scene.tables.executable.node? node = some info → node ≠ w.waiter.node → w.peers node
  producers : ∀ {node}, w.peers node → ∀ socket,
    scene'.tables.executable.producers node socket = scene.tables.executable.producers node socket
  consumers : ∀ node socket,
    scene'.tables.executable.consumers node socket = scene.tables.executable.consumers node socket
  fed : ∀ node socket, ∀ l ∈ scene'.tables.executable.producers node socket, l.node ≠ w.waiter.node
  reached : ∀ node socket, ∀ l ∈ scene.tables.executable.consumers node socket, l.node ≠ w.waiter.node
  update : ∀ {c a}, scene.Instance c a → ∀ handler, c.update = some handler → w.Respects a (handler a)
  signal : ∀ {c a}, scene.Instance c a → ∀ handler, c.signal = some handler → ∀ socket,
    w.Respects a (handler a socket)

/-- Calls that are undisturbed, one by one, unless the node that stands by is asked for. -/
structure UndisturbedCalls {ω ω' : Type} (w : Standby) {watch' : Watcher ω'} (alarm : watch'.Alarm) (below : Calls ω)
    (below' : Calls ω') : Prop where
  evaluate : ∀ i {node}, node ≠ w.waiter.node → ∀ requested,
    w.Undisturbed alarm (below.evaluate i node requested) (below'.evaluate i node requested)
  propagate : ∀ socket sources provider,
    w.Undisturbed alarm (below.propagate socket sources provider) (below'.propagate socket sources provider)

variable {ω ω' : Type} {w : Standby} {scene scene' : Scene} {watch : Watcher ω} {watch' : Watcher ω'}
  {alarm : watch'.Alarm} {below : Calls ω} {below' : Calls ω'} {i : Nat}

/-- Actions that are undisturbed make up a congruence. -/
def undisturbing (w : Standby) (watch : Watcher ω) (alarm : watch'.Alarm) : Congruence watch watch' where
  Relates := w.Undisturbed alarm
  relates_pure := .pure
  relates_bind_of hx _ hanswers hf := hx.bind_of hanswers hf
  relates_emit e := .emit e e

/-! Inputs. -/

section
variable (hbelow : w.UndisturbedCalls alarm below below') {lookup : Lookup ω} {lookup' : Lookup ω'}
  (hlookup : ∀ l, w.Undisturbed alarm (lookup i l) (lookup' i l))
include hbelow hlookup

theorem undisturbed_inputOf {a : Activation} {socket : String}
    (hsame : scene'.tables.executable.producers a.node socket = scene.tables.executable.producers a.node socket)
    (hfed : ∀ l ∈ scene.tables.executable.producers a.node socket, l.node ≠ w.waiter.node) :
    w.Undisturbed alarm (inputOf scene watch below lookup i a socket)
      (inputOf scene' watch' below' lookup' i a socket) := by
  let R : Congruence watch watch' := w.undisturbing watch alarm
  have hresolve : R.Relates (resolveInput scene below lookup i a socket)
      (resolveInput scene' below' lookup' i a socket) := by
    refine R.relates_resolveInput below below' lookup lookup' hsame (fun producer hproducer => ?_)
      (.readStack fun s _ => ?_) fun _ => hlookup _
    · exact R.relates_resolveProducer below below' lookup lookup'
        (.readStack fun s _ => s.readThrough_under (fun _ _ => rfl) i) (hbelow.evaluate i (hfed producer hproducer) _)
        (hlookup producer)
    · rw [FrameStack.provider?, s.readThrough_under fun _ _ => rfl]
      rfl
  exact R.relates_inputOf below below' lookup lookup' (.readStack fun s _ => s.readThrough_under (fun _ _ => rfl) i)
    hresolve fun v => .keep i (fun h => absurd rfl h) Cache.noConfusion v

theorem undisturbed_fetchWith (hfits : w.Fits scene scene') (socket : String) :
    w.Undisturbed alarm (fetchWith scene watch below lookup i socket)
      (fetchWith scene' watch' below' lookup' i socket) := by
  refine Undisturbed.readStack_bind_of (P := fun active => ∀ a, active = some a → w.peers a.node)
    (fun s hs => ⟨hs.active?_under i, fun a => hs.peer_of_active?⟩) (fun active => ?_) fun active hactive => ?_
  · cases active with
    | none => exact Watcher.Alarm.lasts_pure _
    | some a =>
      -- the second graph is compared with itself, where it does not matter which node is active
      have hself : w.Undisturbed alarm (inputOf scene' watch below lookup i a socket)
          (inputOf scene' watch' below' lookup' i a socket) :=
        undisturbed_inputOf hbelow hlookup rfl (hfits.fed a.node socket)
      exact hself.lasts
  · cases active with
    | none => exact .pure _
    | some a =>
      have hsame := hfits.producers (hactive a rfl) socket
      exact undisturbed_inputOf hbelow hlookup hsame (hsame ▸ hfits.fed a.node socket)

end

theorem undisturbed_askHost (provider : Provider) (l : Link) :
    w.Undisturbed alarm (askHost watch provider l) (askHost watch' provider l) :=
  (w.undisturbing watch alarm).relates_askHost provider l

variable (hfits : w.Fits scene scene') (hbelow : w.UndisturbedCalls alarm below below')
include hfits hbelow

theorem undisturbed_lookupWithin (steps i : Nat) (l : Link) :
    w.Undisturbed alarm (lookupWithin scene watch below steps i l) (lookupWithin scene' watch' below' steps i l) := by
  induction steps generalizing i l with
  | zero => exact .pure _
  | succ steps ih =>
    refine Undisturbed.bind (.readStack fun s _ => s.readThrough_under (fun _ _ => rfl) i) fun provider => ?_
    match provider with
    | none => exact .pure _
    | some (.host provider) => exact (undisturbed_askHost provider l).bind fun _ => .pure _
    | some (.gateway b) =>
      dsimp only
      split
      · exact (Undisturbed.note _ _).bind fun _ => undisturbed_fetchWith hbelow (fun l => ih b.caller l) hfits _
      · exact ih _ _

theorem undisturbed_fetchInput (i : Nat) (socket : String) :
    w.Undisturbed alarm (fetchInput scene watch below i socket) (fetchInput scene' watch' below' i socket) := by
  have hprovide (l : Link) :
      w.Undisturbed alarm (provide scene watch below i l) (provide scene' watch' below' i l) := by
    rw [provide, provide]
    exact undisturbed_lookupWithin hfits hbelow (i + 1) i l
  rw [fetchInput, fetchInput]
  exact undisturbed_fetchWith hbelow hprovide hfits socket

/-! Handlers. -/

theorem undisturbed_perform (i : Nat) {a : Activation} (ha : a.node ≠ w.waiter.node) (script : Script)
    (hscript : w.Respects a script) :
    w.Undisturbed alarm (perform scene watch below i a script) (perform scene' watch' below' i a script) := by
  induction script with
  | done outcome => exact .pure _
  | fetch socket next ih =>
    rw [perform, perform]
    exact (Undisturbed.note _ _).bind fun _ => (undisturbed_fetchInput hfits hbelow i socket).bind fun answer =>
      ih answer (hscript.2 answer)
  | push socket v next ih =>
    rw [perform, perform]
    have hkeep : w.Undisturbed alarm (Action.changeStack watch (·.keep i .output ⟨a.node, socket⟩ v))
        (Action.changeStack watch' (·.keep i .output ⟨a.node, socket⟩ v)) :=
      .keep i (fun _ h => ha (congrArg Link.node h)) Cache.noConfusion v
    exact (Undisturbed.note _ _).bind fun _ => hkeep.bind fun _ => ih hscript.2
  | expose socket v next ih =>
    rw [perform, perform]
    have hkeep : w.Undisturbed alarm (Action.changeStack watch (·.keep i .exposed ⟨a.node, socket⟩ v))
        (Action.changeStack watch' (·.keep i .exposed ⟨a.node, socket⟩ v)) := by
      refine .keep i (fun _ h => ha (congrArg Link.node h)) (fun _ h => ?_) v
      exact hscript.1.2 (congrArg Link.node h) v (by rw [← h]; rfl)
    exact (Undisturbed.note _ _).bind fun _ => hkeep.bind fun _ => ih hscript.2
  | hasExposed socket next ih =>
    rw [perform, perform]
    refine (Undisturbed.note _ _).bind fun _ => Undisturbed.bind (.readStack fun s _ => ?_) fun answer =>
      ih answer (hscript.2 answer)
    rw [FrameStack.exposed?, s.readThrough_under fun _ _ => rfl]
    rfl
  | exposeSignal socket next ih =>
    rw [perform, perform]
    refine (Undisturbed.note _ _).bind fun _ => ?_
    split
    · exact Undisturbed.bind (.addSignal i _) fun _ => ih hscript.2
    · exact (Undisturbed.log _ _).bind fun _ => ih hscript.2
  | forward socket next ih =>
    rw [perform, perform]
    refine (Undisturbed.note _ _).bind fun _ => Undisturbed.bind (.readStack fun s hs => ?_) fun signal => ?_
    · rw [hs.active?_under]
    · split
      · exact Undisturbed.bind (.forward i socket) fun _ => ih hscript.2
      · exact (Undisturbed.log _ _).bind fun _ => ih hscript.2
  | mark target scope next ih =>
    rw [perform, perform]
    exact (Undisturbed.note _ _).bind fun _ => Undisturbed.bind (.mark i _ _ _ _) fun _ => ih hscript.2
  | emit event next ih =>
    rw [perform, perform]
    exact (Undisturbed.note _ _).bind fun _ => (Undisturbed.emit _ _).bind fun _ => ih hscript.2
  | count name next ih =>
    rw [perform, perform]
    exact (Undisturbed.note _ _).bind fun _ => (Undisturbed.count name).bind fun n => ih n (hscript.2 n)
  | pullScene p target next ih =>
    rw [perform, perform]
    have htarget : target.node ≠ w.waiter.node := fun h => hscript.1.1 (congrArg some h)
    exact (Undisturbed.note _ _).bind fun _ =>
      (Undisturbed.between fun inner => hbelow.evaluate inner htarget _).bind fun answer => ih answer (hscript.2 answer)
  | pushScene p target next ih =>
    rw [perform, perform]
    exact (Undisturbed.note _ _).bind fun _ =>
      (Undisturbed.between fun _ => hbelow.propagate _ _ _).bind fun result => ih result (hscript.2 result)

theorem undisturbed_attempt (i : Nat) {c : Component} {a : Activation} (ha : a.node ≠ w.waiter.node)
    (hscript : ∀ handler, c.update = some handler → w.Respects a (handler a)) (nesting nesting' : Nat) :
    w.Undisturbed alarm (attempt scene watch below i c a nesting) (attempt scene' watch' below' i c a nesting') := by
  unfold attempt
  split
  · exact .pure _
  · rename_i handler hhandler
    refine (Undisturbed.log _ _).bind fun _ => (Undisturbed.note _ _).bind fun _ => ?_
    exact (undisturbed_perform hfits hbelow i ha _ (hscript handler hhandler)).bind fun outcome =>
      (Undisturbed.note _ _).bind fun _ => .pure _

/-- The counterpart is nested one deeper, so only it may be refused. -/
theorem undisturbed_runUpdate (i : Nat) {c : Component} {a : Activation} (ha : a.node ≠ w.waiter.node)
    (hscript : ∀ handler, c.update = some handler → w.Respects a (handler a)) :
    w.Undisturbed alarm (runUpdate scene watch below i c a) (runUpdate scene' watch' below' i c a) := by
  have hwork (nesting nesting' : Nat) :
      w.Undisturbed alarm (attempt scene watch below i c a nesting) (attempt scene' watch' below' i c a nesting') :=
    undisturbed_attempt hfits hbelow i ha hscript nesting nesting'
  refine ⟨fun r' h => ?_, fun r r' hholds hjoins => ?_⟩
  · rw [runUpdate_apply]
    split_ifs
    · exact alarm.event _ h
    · exact (hwork 0 r'.state.nesting).lasts r' h
  · by_cases hlimit : scene'.limits.recursionDepth ≤ r'.state.nesting
    · refine .inl ?_
      rw [runUpdate_apply, if_pos hlimit]
      exact alarm.limit _ _ _
    · have hnesting : r'.state.nesting = r.state.nesting + 1 := congrArg EngineState.nesting hjoins.state
      have hallowed : ¬ scene.limits.recursionDepth ≤ r.state.nesting := by
        rw [← hfits.limits]
        omega
      refine ((hwork r.state.nesting r'.state.nesting).follows r r' hholds hjoins).congr ?_ ?_
      · rw [runUpdate_apply, if_neg hallowed]
      · rw [runUpdate_apply, if_neg hlimit]

omit hfits hbelow in
theorem follows_exposedBy (i : Nat) (node : NodeId) {r : Run ω} {r' : Run ω'} (hjoins : w.Joins r r') :
    w.Follows alarm (Action.readStack (·.exposedBy i node) : Action ω (Table Value))
      (Action.readStack (·.exposedBy i node)) r r' := by
  refine .inr ⟨?_, hjoins, .refl r.state⟩
  have hsame := congrArg (fun st : EngineState => st.stack.exposedBy i node) hjoins.state
  exact hsame.trans (FrameStack.exposedBy_under ..)

/-- What an evaluation answers once its handler is done. -/
def reply {ω : Type} (i : Nat) (node : NodeId) : Outcome Unit → Action ω (Outcome (Table Value))
  | .error failure => pure (.error failure)
  | .ok () => do
    let exposed ← Action.readStack (·.exposedBy i node)
    pure (.ok exposed)

omit hfits hbelow in
theorem lasts_reply (i : Nat) (node : NodeId) (outcome : Outcome Unit) :
    alarm.Lasts (reply i node outcome : Action ω' (Outcome (Table Value))) := by
  cases outcome with
  | error failure => exact Watcher.Alarm.lasts_pure _
  | ok _ => exact .readStack_bind fun _ => Watcher.Alarm.lasts_pure _

omit hfits hbelow in
theorem follows_reply (i : Nat) (node : NodeId) (outcome : Outcome Unit) {r : Run ω} {r' : Run ω'}
    (hjoins : w.Joins r r') : w.Follows alarm (reply i node outcome : Action ω (Outcome (Table Value)))
      (reply i node outcome) r r' := by
  cases outcome with
  | error failure => exact .inr ⟨rfl, hjoins, .refl r.state⟩
  | ok _ =>
    exact (follows_exposedBy i node hjoins).bind (Watcher.Alarm.lasts_pure _) fun h => .inr ⟨rfl, h.joins, .refl _⟩

/-- An evaluation is undisturbed even if no other node is active on its frame yet. -/
theorem follows_evaluateAt {node : NodeId} (hnode : node ≠ w.waiter.node) (i : Nat) (requested : Option String)
    {r : Run ω} {r' : Run ω'}
    (hentered : ∀ a : Activation, w.peers a.node → w.Holds (r.state.stack.enter i a)) (hjoins : w.Joins r r') :
    w.Follows alarm (evaluateAt scene watch below i node requested) (evaluateAt scene' watch' below' i node requested)
      r r' := by
  unfold evaluateAt
  rw [hfits.node? hnode, hfits.registry]
  cases hinfo : scene.tables.executable.node? node with
  | none => exact .inr ⟨rfl, hjoins, .refl r.state⟩
  | some info =>
    refine Follows.state_ite ?_ ?_ ?_
    · rw [hjoins.state]
      exact r.state.needsUpdate_under i node info.component
    · cases hc : scene.registry.get? info.component with
      | none => exact .inr ⟨rfl, hjoins, .refl r.state⟩
      | some c =>
        let a := c.activation node info.attributes (.pull requested)
        have hupdate : w.Undisturbed alarm (runUpdate scene watch below i c a) (runUpdate scene' watch' below' i c a) :=
          undisturbed_runUpdate hfits hbelow i hnode (hfits.update ⟨info, _, hinfo, hc, rfl⟩)
        exact (hupdate.nested.follows_entered (hentered a (hfits.peers hinfo hnode)) hjoins).bind (lasts_reply i node _)
          fun hagrees => follows_reply i node _ hagrees.joins
    · have hnoted : w.Follows alarm (Action.note watch (.skipped i node)) (Action.note watch' (.skipped i node)) r r' :=
        .inr ⟨rfl, ⟨hjoins.state, hjoins.counters⟩, .refl r.state⟩
      exact hnoted.bind (lasts_reply i node (.ok ())) fun h => follows_reply i node (.ok ()) h.joins

theorem undisturbed_evaluateAt (i : Nat) {node : NodeId} (hnode : node ≠ w.waiter.node) (requested : Option String) :
    w.Undisturbed alarm (evaluateAt scene watch below i node requested)
      (evaluateAt scene' watch' below' i node requested) where
  lasts := by
    unfold evaluateAt
    rw [hfits.node? hnode, hfits.registry]
    cases hinfo : scene.tables.executable.node? node with
    | none => exact Watcher.Alarm.lasts_pure _
    | some info =>
      refine .state_bind fun st => ?_
      split
      · cases hc : scene.registry.get? info.component with
        | none => exact Watcher.Alarm.lasts_pure _
        | some c =>
          let a := c.activation node info.attributes (.pull requested)
          have hupdate :
              w.Undisturbed alarm (runUpdate scene watch below i c a) (runUpdate scene' watch' below' i c a) :=
            undisturbed_runUpdate hfits hbelow i hnode (hfits.update ⟨info, _, hinfo, hc, rfl⟩)
          exact (hupdate.lasts.nested.entered i a).bind (lasts_reply i node)
      · exact (Watcher.Alarm.lasts_note _).bind fun _ => lasts_reply i node (.ok ())
  follows r r' hholds hjoins :=
    follows_evaluateAt hfits hbelow hnode i requested (fun a ha => hholds.enter i ha) hjoins

/-! Signals. -/

theorem undisturbed_receive (i : Nat) {a : Activation} (ha : a.node ≠ w.waiter.node) {script : Script}
    (hscript : w.Respects a script) :
    w.Undisturbed alarm (receive scene watch below i a script) (receive scene' watch' below' i a script) := by
  refine (Undisturbed.note _ _).bind fun _ => (undisturbed_perform hfits hbelow i ha _ hscript).bind fun outcome =>
    (Undisturbed.note _ _).bind fun _ => Undisturbed.bind (.readStack fun s hs => ?_) fun _ => .pure _
  rw [hs.active?_under]

theorem undisturbed_deliver (i : Nat) {link : Link} (hlink : link.node ≠ w.waiter.node) :
    w.Undisturbed alarm (deliver scene watch below i link) (deliver scene' watch' below' i link) := by
  have hsame : scene'.receiver link = scene.receiver link := by
    rw [Scene.receiver, Scene.receiver, hfits.node? hlink, hfits.registry]
  rw [deliver_eq, deliver_eq, hsame]
  refine (Undisturbed.note _ _).bind fun _ => ?_
  split
  · exact .pure _
  · rename_i a script hreceiver
    have hnode : a.node = link.node := Scene.node_of_receiver hreceiver
    have hpeers : w.peers a.node := by
      obtain ⟨info, c, handler, hinfo, -⟩ := Scene.receiver_eq_ok.1 hreceiver
      exact hnode ▸ hfits.peers hinfo hlink
    have hscript : w.Respects a script := by
      obtain ⟨c, handler, hmade, hhandler, rfl⟩ := Scene.instance_of_receiver hreceiver
      exact hfits.signal hmade handler hhandler link.socket
    have hreceive : w.Undisturbed alarm (receive scene watch below i a script)
        (receive scene' watch' below' i a script) :=
      undisturbed_receive hfits hbelow i (hnode ▸ hlink) hscript
    have hconsumers : scene'.tables.executable.consumers link.node = scene.tables.executable.consumers link.node :=
      funext (hfits.consumers link.node)
    simp only [hconsumers]
    exact (hreceive.entered i hpeers).bind fun result =>
      .pure (result.1, result.2.flatMap (scene.tables.executable.consumers link.node))

theorem undisturbed_walk (i levels : Nat) (tally : Tally) {links : List Link}
    (hlinks : ∀ l ∈ links, l.node ≠ w.waiter.node) :
    w.Undisturbed alarm (walk scene watch below i levels tally links)
      (walk scene' watch' below' i levels tally links) :=
  (w.undisturbing watch alarm).relates_walk below below' (· ≠ w.waiter.node) hfits.limits hfits.consumers
    (fun _ socket => hfits.reached _ socket) levels tally hlinks
    fun _ _ hlink => undisturbed_deliver hfits hbelow i hlink

omit hfits hbelow in
/-- What a propagation reports of its frame has nothing to do with the nodes that are active there. -/
theorem undisturbed_conclude (i : Nat) (tally : Tally) :
    w.Undisturbed alarm (conclude watch i tally) (conclude watch' i tally) := by
  let report (s : FrameStack) : TriggerResult :=
    (s.frame? i).elim ⟨[], .empty, tally.failures⟩ fun f => ⟨f.signals, f.exposed, tally.failures⟩
  have hconclude {ω : Type} (watch : Watcher ω) : conclude watch i tally =
      Action.log watch (.propagated tally.levels tally.handled tally.failures.length) >>= fun _ =>
        Action.readStack report := by
    refine bind_congr fun _ => funext fun r => ?_
    rw [Action.readStack_bind_apply]
    unfold Action.readStack report
    cases r.state.stack.frame? i <;> rfl
  rw [hconclude, hconclude]
  refine (Undisturbed.log _ _).bind fun _ => .readStack fun s _ => ?_
  unfold report
  rw [FrameStack.frame?_under]
  split_ifs
  · cases s.frame? i <;> rfl
  · rfl

theorem undisturbed_propagateLevels (socket : String) (sources : List NodeId) (provider : Option Provider) :
    w.Undisturbed alarm (propagateLevels scene watch below socket sources provider)
      (propagateLevels scene' watch' below' socket sources provider) := by
  have hfrontier : frontier scene' socket sources = frontier scene socket sources :=
    congrArg (sources.flatMap ·) (funext fun node => hfits.consumers node socket)
  have hlinks : ∀ l ∈ frontier scene socket sources, l.node ≠ w.waiter.node := by
    intro l hl
    obtain ⟨node, -, hconsumer⟩ := List.mem_flatMap.1 hl
    exact hfits.reached node socket l hconsumer
  unfold propagateLevels
  rw [hfrontier, hfits.limits]
  exact Undisturbed.between fun i => (undisturbed_walk hfits hbelow i _ _ hlinks).bind fun tally =>
    undisturbed_conclude i tally

/-- Again only the counterpart may be refused. -/
theorem undisturbed_propagateAt (socket : String) (sources : List NodeId) (provider : Option Provider) :
    w.Undisturbed alarm (propagateAt scene watch below socket sources provider)
      (propagateAt scene' watch' below' socket sources provider) := by
  have hnested : w.Undisturbed alarm (Action.nested watch (propagateLevels scene watch below socket sources provider))
      (Action.nested watch' (propagateLevels scene' watch' below' socket sources provider)) :=
    (undisturbed_propagateLevels hfits hbelow socket sources provider).nested
  refine ⟨.state_bind fun st => ?_, fun r r' hholds hjoins => ?_⟩
  · split
    · exact (Watcher.Alarm.lasts_emit _).bind fun _ => Watcher.Alarm.lasts_pure _
    · exact hnested.lasts
  · cases hrefused : refused? scene' r'.state sources with
    | some source =>
      refine .inl ?_
      rw [propagateAt, Action.state_bind_apply, hrefused]
      exact alarm.limit _ _ _
    | none =>
      have hallowed : refused? scene r.state sources = none := by
        have hnesting : r'.state.nesting = r.state.nesting + 1 := congrArg EngineState.nesting hjoins.state
        rw [refused?, hfits.limits, hnesting] at hrefused
        rw [refused?]
        split_ifs at hrefused ⊢ <;> first | exact hrefused | rfl | omega
      refine (hnested.follows r r' hholds hjoins).congr ?_ ?_
      · rw [propagateAt, Action.state_bind_apply, hallowed]
      · rw [propagateAt, Action.state_bind_apply, hrefused]

omit hbelow in
/-- At every level of nesting the calls of the two graphs go the same way. -/
theorem undisturbed_calls (watch : Watcher ω) (alarm : watch'.Alarm) (levels : Nat) :
    w.UndisturbedCalls alarm (scene.calls watch levels) (scene'.calls watch' levels) := by
  induction levels with
  | zero =>
    rw [Scene.calls, Scene.calls, Calls.exhausted, Calls.exhausted, hfits.limits]
    exact ⟨fun _ _ _ _ => .pure _, fun _ _ _ => .pure _⟩
  | succ levels ih =>
    exact ⟨fun i _ hnode requested => undisturbed_evaluateAt hfits ih i hnode requested,
      undisturbed_propagateAt hfits ih⟩

end Standby
end SocketGraph
