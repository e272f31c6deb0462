import SocketGraph.Proofs.Reception

/-! Congruences: relations of actions that are carried on from one action to the next. All that is resolved, looked
up and delivered is put together of a few actions, so a congruence that holds of these holds of the whole. -/
namespace SocketGraph

variable {ω ω' : Type}

/-- A relation between the actions of two runs, each under its own watcher, that holds of answers and of events and
is carried on from one action to the next. A property of the actions of one run is a relation of each with itself. -/
structure Congruence (watch : Watcher ω) (watch' : Watcher ω') where
  Relates : ∀ {α : Type}, Action ω α → Action ω' α → Prop
  relates_pure : ∀ {α : Type} (a : α), Relates (pure a) (pure a)
  /-- What is known of all answers of both may be used. -/
  relates_bind_of : ∀ {α β : Type} {x : Action ω α} {x' : Action ω' α} {f : α → Action ω β} {f' : α → Action ω' β}
    {P : α → Prop}, Relates x x' → (∀ r, P (x r).1) → (∀ r', P (x' r').1) → (∀ a, P a → Relates (f a) (f' a)) →
      Relates (x >>= f) (x' >>= f')
  relates_emit : ∀ e, Relates (Action.emit watch e) (Action.emit watch' e)

namespace Congruence

variable {watch : Watcher ω} {watch' : Watcher ω'} (R : Congruence watch watch')

/-- Both read the same off their frames. -/
def Reads {α : Type} (read : FrameStack → α) : Prop :=
  R.Relates (Action.readStack read) (Action.readStack read)

theorem relates_bind {α β : Type} {x : Action ω α} {x' : Action ω' α} {f : α → Action ω β} {f' : α → Action ω' β}
    (hx : R.Relates x x') (hf : ∀ a, R.Relates (f a) (f' a)) : R.Relates (x >>= f) (x' >>= f') :=
  R.relates_bind_of (P := fun _ => True) hx (fun _ => trivial) (fun _ => trivial) fun a _ => hf a

theorem relates_log (m : Message) : R.Relates (Action.log watch m) (Action.log watch' m) := R.relates_emit _

theorem relates_askHost (provider : Provider) (socket : Link) :
    R.Relates (askHost watch provider socket) (askHost watch' provider socket) := by
  unfold askHost
  split
  · exact R.relates_bind (R.relates_emit _) fun _ => R.relates_pure _
  · exact R.relates_pure _

/-! Inputs. -/

section
variable (below : Calls ω) (below' : Calls ω') (lookup : Lookup ω) (lookup' : Lookup ω') {i : Nat}

theorem relates_resolveProducer {producer : Link} (houtput : R.Reads (·.output? i producer))
    (hevaluate : R.Relates (below.evaluate i producer.node (some producer.socket))
      (below'.evaluate i producer.node (some producer.socket)))
    (hlookup : R.Relates (lookup i producer) (lookup' i producer)) :
    R.Relates (resolveProducer below lookup i producer) (resolveProducer below' lookup' i producer) := by
  refine R.relates_bind houtput fun known => ?_
  cases known with
  | some v => exact R.relates_pure _
  | none =>
    refine R.relates_bind hevaluate fun outcome => ?_
    cases outcome with
    | error failure => exact R.relates_pure _
    | ok _ =>
      refine R.relates_bind houtput fun known => ?_
      cases known with
      | some v => exact R.relates_pure _
      | none => exact hlookup

theorem relates_resolveProducers {producers : List Link} (hproducers : ∀ producer ∈ producers,
      R.Relates (resolveProducer below lookup i producer) (resolveProducer below' lookup' i producer)) :
    R.Relates (resolveProducers below lookup i producers) (resolveProducers below' lookup' i producers) := by
  induction producers with
  | nil => exact R.relates_pure _
  | cons producer rest ih =>
    obtain ⟨hproducer, hrest⟩ := List.forall_mem_cons.1 hproducers
    refine R.relates_bind hproducer fun outcome => ?_
    cases outcome with
    | error failure => exact R.relates_pure _
    | ok v =>
      refine R.relates_bind (ih hrest) fun outcome => ?_
      cases outcome <;> exact R.relates_pure _

variable {scene scene' : Scene} {a : Activation} {socket : String}

/-- An input is resolved from the same producers, or an exposed one is looked up. -/
theorem relates_resolveInput
    (hsame : scene'.tables.executable.producers a.node socket = scene.tables.executable.producers a.node socket)
    (hproducers : ∀ producer ∈ scene.tables.executable.producers a.node socket,
      R.Relates (resolveProducer below lookup i producer) (resolveProducer below' lookup' i producer))
    (hprovided : R.Reads fun s => (s.provider? i).isSome)
    (hlookup : (declared? a.sockets socket).any Socket.exposed = true →
      R.Relates (lookup i ⟨a.node, socket⟩) (lookup' i ⟨a.node, socket⟩)) :
    R.Relates (resolveInput scene below lookup i a socket) (resolveInput scene' below' lookup' i a socket) := by
  unfold resolveInput
  rw [hsame]
  split
  · rename_i first rest heq
    rw [heq] at hproducers
    split
    · refine R.relates_bind (R.relates_resolveProducers below below' lookup lookup' hproducers) fun outcome => ?_
      cases outcome <;> exact R.relates_pure _
    · exact hproducers first List.mem_cons_self
  · refine R.relates_bind hprovided fun provided => ?_
    split
    · rename_i hasked
      exact hlookup (Bool.and_eq_true_iff.1 hasked).1
    · exact R.relates_pure _

/-- An input that is not known is resolved and kept. -/
theorem relates_inputOf (hinput : R.Reads (·.input? i ⟨a.node, socket⟩))
    (hresolve : R.Relates (resolveInput scene below lookup i a socket) (resolveInput scene' below' lookup' i a socket))
    (hkeep : ∀ v, R.Relates (Action.changeStack watch (·.putInput i ⟨a.node, socket⟩ v))
      (Action.changeStack watch' (·.putInput i ⟨a.node, socket⟩ v))) :
    R.Relates (inputOf scene watch below lookup i a socket) (inputOf scene' watch' below' lookup' i a socket) := by
  refine R.relates_bind hinput fun known => ?_
  cases known with
  | some v => exact R.relates_pure _
  | none =>
    refine R.relates_bind hresolve fun outcome => ?_
    match outcome with
    | .error failure => exact R.relates_pure _
    | .ok none => exact R.relates_pure _
    | .ok (some v) => exact R.relates_bind (hkeep v) fun _ => R.relates_pure _

end

/-! Inputs, for a congruence that holds of all that is read off the frames. -/

section
variable {scene : Scene} (below : Calls ω) (below' : Calls ω')
  (hreads : ∀ {α : Type} (read : FrameStack → α), R.Reads read)
  (hkeep : ∀ i l v, R.Relates (Action.changeStack watch (·.putInput i l v))
    (Action.changeStack watch' (·.putInput i l v)))
include hreads hkeep

theorem relates_fetchWith (lookup : Lookup ω) (lookup' : Lookup ω') {i : Nat}
    (hevaluate : ∀ node requested, R.Relates (below.evaluate i node requested) (below'.evaluate i node requested))
    (hlookup : ∀ l, R.Relates (lookup i l) (lookup' i l)) (socket : String) :
    R.Relates (fetchWith scene watch below lookup i socket) (fetchWith scene watch' below' lookup' i socket) := by
  refine R.relates_bind (hreads _) fun active => ?_
  cases active with
  | none => exact R.relates_pure _
  | some a =>
    have hproducer (l : Link) :
        R.Relates (resolveProducer below lookup i l) (resolveProducer below' lookup' i l) :=
      R.relates_resolveProducer below below' lookup lookup' (hreads _) (hevaluate _ _) (hlookup l)
    have hresolve : R.Relates (resolveInput scene below lookup i a socket)
        (resolveInput scene below' lookup' i a socket) :=
      R.relates_resolveInput below below' lookup lookup' rfl (fun l _ => hproducer l) (hreads _) fun _ => hlookup _
    exact R.relates_inputOf below below' lookup lookup' (hreads _) hresolve fun v => hkeep i _ v

variable (hevaluate : ∀ i node requested,
    R.Relates (below.evaluate i node requested) (below'.evaluate i node requested))
  (hpaired : ∀ i b l own, R.Relates (Action.note watch (.paired i b l own))
    (Action.note watch' (.paired i b l own)))
include hevaluate hpaired

/-- A look-up goes from gateway to gateway, down to the host. -/
theorem relates_lookupWithin (steps i : Nat) (l : Link) :
    R.Relates (lookupWithin scene watch below steps i l) (lookupWithin scene watch' below' steps i l) := by
  induction steps generalizing i l with
  | zero => exact R.relates_pure _
  | succ steps ih =>
    refine R.relates_bind (hreads _) fun provider => ?_
    match provider with
    | none => exact R.relates_pure _
    | some (.host provider) => exact R.relates_bind (R.relates_askHost provider l) fun _ => R.relates_pure _
    | some (.gateway b) =>
      dsimp only
      split
      · exact R.relates_bind (hpaired i b l _) fun _ =>
          R.relates_fetchWith below below' hreads hkeep _ _ (hevaluate b.caller) (fun l => ih b.caller l) _
      · exact ih _ _

theorem relates_fetchInput (i : Nat) (socket : String) :
    R.Relates (fetchInput scene watch below i socket) (fetchInput scene watch' below' i socket) := by
  refine R.relates_fetchWith below below' hreads hkeep _ _ (hevaluate i) (fun l => ?_) socket
  exact R.relates_lookupWithin below below' hreads hkeep hevaluate hpaired (i + 1) i l

end

/-! Signals. -/

section
variable {scene scene' : Scene} (below : Calls ω) (below' : Calls ω') {i : Nat}

/-- The signals of a level are delivered one after the other, and failures are reported in between. -/
theorem relates_deliverAll {links : List Link} (hdeliver : ∀ link ∈ links,
      R.Relates (deliver scene watch below i link) (deliver scene' watch' below' i link)) :
    R.Relates (deliverAll scene watch below i links) (deliverAll scene' watch' below' i links) := by
  induction links with
  | nil => exact R.relates_pure _
  | cons link rest ih =>
    obtain ⟨hlink, hrest⟩ := List.forall_mem_cons.1 hdeliver
    refine R.relates_bind hlink fun ⟨outcome, next⟩ => ?_
    cases outcome with
    | ok _ => exact R.relates_bind (ih hrest) fun _ => R.relates_pure _
    | error failure =>
      exact R.relates_bind (R.relates_log _) fun _ => R.relates_bind (ih hrest) fun _ => R.relates_pure _

/-- A walk delivers signals to nodes of a kind only, if the edges of these nodes lead to no others; one that has
reached nothing is over. -/
theorem relates_walk (nodes : NodeId → Prop) (hlimits : scene'.limits = scene.limits)
    (hsame : ∀ node socket,
      scene'.tables.executable.consumers node socket = scene.tables.executable.consumers node socket)
    (hconsumers : ∀ {node}, nodes node → ∀ socket,
      ∀ l ∈ scene.tables.executable.consumers node socket, nodes l.node)
    (levels : Nat) (tally : Tally) {links : List Link} (hlinks : ∀ l ∈ links, nodes l.node)
    (hdeliver : links ≠ [] → ∀ link, nodes link.node →
      R.Relates (deliver scene watch below i link) (deliver scene' watch' below' i link)) :
    R.Relates (walk scene watch below i levels tally links) (walk scene' watch' below' i levels tally links) := by
  induction levels generalizing tally links with
  | zero =>
    cases links with
    | nil => exact R.relates_pure _
    | cons link rest =>
      simp only [walk, hlimits]
      exact R.relates_bind (R.relates_log _) fun _ => R.relates_pure _
  | succ levels ih =>
    cases links with
    | nil => exact R.relates_pure _
    | cons link rest =>
      have hdeliver := hdeliver (List.cons_ne_nil _ _)
      have hconsumers' : ∀ {node}, nodes node → ∀ socket,
          ∀ l ∈ scene'.tables.executable.consumers node socket, nodes l.node :=
        fun hnode socket => (hsame _ socket).symm ▸ hconsumers hnode socket
      exact R.relates_bind_of (R.relates_deliverAll below below' fun l hl => hdeliver l (hlinks l hl))
        (nodes_of_deliverAll hconsumers hlinks) (nodes_of_deliverAll hconsumers' hlinks)
        fun result hnext => ih _ hnext fun _ => hdeliver

/-- In one graph signals may be delivered to any node. -/
theorem relates_walk_of_any (levels : Nat) (tally : Tally) {links : List Link}
    (hdeliver : links ≠ [] → ∀ link,
      R.Relates (deliver scene watch below i link) (deliver scene watch' below' i link)) :
    R.Relates (walk scene watch below i levels tally links) (walk scene watch' below' i levels tally links) :=
  R.relates_walk below below' (fun _ => True) rfl (fun _ _ => rfl) (fun _ _ _ _ => trivial) levels tally
    (fun _ _ => trivial) fun hlinks link _ => hdeliver hlinks link

theorem relates_conclude (tally : Tally) (hframe : R.Reads (·.frame? i)) :
    R.Relates (conclude watch i tally) (conclude watch' i tally) := by
  refine R.relates_bind (R.relates_log _) fun _ => R.relates_bind hframe fun own => ?_
  cases own <;> exact R.relates_pure _

end

end Congruence
end SocketGraph
