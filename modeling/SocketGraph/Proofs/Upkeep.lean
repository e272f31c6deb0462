import SocketGraph.Proofs.Course

/-! Upkeep: what holds between the beginning and the end of everything that is begun and completed. It is
enough to know it of single changes, of frames that are opened and closed again, of nodes that have been
active, and of an input that is kept once it is resolved. -/
namespace SocketGraph

/-- A run after a change of its state. -/
def Run.change {ω : Type} (watch : Watcher ω) (change : EngineState → EngineState) (r : Run ω) : Run ω :=
  (Action.changeState watch change r).2

/-- The providers of a frame lead from gateway to gateway, none of which pairs a socket, to the host or to
nobody; so many gateways are passed. -/
inductive FrameStack.Forwards (s : FrameStack) (l : Link) : Nat → Nat → Option Provider → Prop
  | nobody {i : Nat} (provider : s.provider? i = none) : Forwards s l i 0 none
  | host {i : Nat} {p : Provider} (provider : s.provider? i = some (.host p)) : Forwards s l i 0 (some p)
  | gateway {i passed : Nat} {b : Binding} {p : Option Provider}
      (provider : s.provider? i = some (.gateway b)) (unpaired : b.pairings.socketFor? l = none)
      (rest : Forwards s l b.caller passed p) : Forwards s l i (passed + 1) p

theorem FrameStack.lt_height_of_active? {s : FrameStack} {i : Nat} {a : Activation}
    (h : s.active? i = some a) : i < s.height := by
  obtain ⟨f, hf, -⟩ := Option.bind_eq_some_iff.1 h
  exact lt_height_of_frame? hf

theorem FrameStack.top_lt_height_push (s : FrameStack) (f : Frame) : (s.push f).top < (s.push f).height := by
  rw [top_push, height_push]
  omega

/-- The answer that a provider, if there is one, has for a socket. -/
def answer? (p : Option Provider) (l : Link) : Option Value := p.bind fun p => p.answer l.socket l.node

/-- What is known of a value that an exposed input without producers is resolved to: where gateways only
forward, it is the answer of the host. -/
def Scene.Resolves (scene : Scene) (s : FrameStack) (i : Nat) (a : Activation) (socket : String)
    (v : Value) : Prop :=
  scene.tables.executable.producers a.node socket = [] → (declared? a.sockets socket).any Socket.exposed →
    (s.provider? i).isSome → ∀ passed p, s.Forwards ⟨a.node, socket⟩ i passed p →
      answer? p ⟨a.node, socket⟩ = some v

/-- What is kept up by the runs of a scene under a watcher. -/
structure Upkeep {ω : Type} (scene : Scene) (watch : Watcher ω) where
  keeps : Run ω → Run ω → Prop
  refl : ∀ r, keeps r r
  trans : ∀ {r r' r''}, keeps r r' → keeps r' r'' → keeps r r''
  height : ∀ {r r'}, keeps r r' → r'.state.stack.height = r.state.stack.height
  emit : ∀ r e, keeps r (Action.emit watch e r).2
  note : ∀ r step, keeps r (Action.note watch step r).2
  count : ∀ r name, keeps r (Action.count name r).2
  effect : ∀ r i a (script : Script), keeps r (r.change watch fun st => script.effect i a st)
  input : ∀ {r r' i a socket v}, keeps r r' → r.state.stack.active? i = some a →
    r.state.stack.input? i ⟨a.node, socket⟩ = none → scene.Resolves r.state.stack i a socket v →
    keeps r (r'.change watch fun st => { st with stack := st.stack.putInput i ⟨a.node, socket⟩ v })
  nested : ∀ {r r'}, keeps (r.change watch .deeper) r' → keeps r (r'.change watch .shallower)
  active : ∀ {r r' i a c}, scene.Instance c a → keeps (r.change watch (·.enter i a)) r' →
    keeps r (r'.change watch (·.leave i))
  linked : ∀ {r r' i} (p : Pairings), i < r.state.stack.height →
    keeps ((r.change watch (·.push (.fresh false (some (.gateway ⟨i, p⟩))))).change watch
      (·.push (.fresh true none))) r' →
    keeps r ((r'.change watch .closeFrame).change watch .closeFrame)
  called : ∀ {r r'}, keeps ((r.change watch (·.push (.fresh true none))).change watch
      (·.push (.fresh true none))) r' →
    keeps r ((r'.change watch .closeFrame).change watch .closeFrame)

namespace Upkeep

variable {ω α β : Type} {scene : Scene} {watch : Watcher ω} {K : Upkeep scene watch}

/-- An action that keeps something up wherever there is some frame. -/
def Keeps (K : Upkeep scene watch) (i : Nat) (x : Action ω α) : Prop :=
  ∀ r : Run ω, i < r.state.stack.height → K.keeps r (x r).2

variable {i : Nat}

theorem Keeps.mono {x : Action ω α} {j : Nat} (hx : K.Keeps i x) (h : i ≤ j) : K.Keeps j x :=
  fun r hr => hx r (Nat.lt_of_le_of_lt h hr)

theorem keeps_pure (i : Nat) (a : α) : K.Keeps i (pure a : Action ω α) := fun r _ => K.refl r

theorem Keeps.bind_of {x : Action ω α} {f : α → Action ω β} {P : α → Prop} (hx : K.Keeps i x)
    (hanswers : ∀ r, P (x r).1) (hf : ∀ a, P a → K.Keeps i (f a)) : K.Keeps i (x >>= f) := by
  intro r hr
  exact K.trans (hx r hr) (hf _ (hanswers r) _ (by rwa [K.height (hx r hr)]))

theorem Keeps.bind {x : Action ω α} {f : α → Action ω β} (hx : K.Keeps i x)
    (hf : ∀ a, K.Keeps i (f a)) : K.Keeps i (x >>= f) :=
  hx.bind_of (P := fun _ => True) (fun _ => trivial) fun a _ => hf a

theorem keeps_readStack (i : Nat) (read : FrameStack → α) : K.Keeps i (Action.readStack read : Action ω α) :=
  fun r _ => K.refl r

theorem Keeps.readStack_bind {read : FrameStack → α} {f : α → Action ω β} (hf : ∀ a, K.Keeps i (f a)) :
    K.Keeps i (Action.readStack read >>= f) := fun r hr => hf _ r hr

theorem Keeps.state_bind {f : EngineState → Action ω β} (hf : ∀ st, K.Keeps i (f st)) :
    K.Keeps i (Action.state >>= f) := fun r hr => hf _ r hr

theorem keeps_emit (i : Nat) (e : Event) : K.Keeps i (Action.emit watch e) := fun r _ => K.emit r e

theorem keeps_log (i : Nat) (m : Message) : K.Keeps i (Action.log watch m) := keeps_emit i _

theorem keeps_note (i : Nat) (s : Step) : K.Keeps i (Action.note watch s) := fun r _ => K.note r s

theorem keeps_count (i : Nat) (name : String) : K.Keeps i (Action.count name : Action ω Nat) :=
  fun r _ => K.count r name

theorem Keeps.nested {x : Action ω α} (hx : K.Keeps i x) : K.Keeps i (Action.nested watch x) :=
  fun r hr => K.nested (hx (r.change watch .deeper) hr)

theorem Keeps.linked {body : Nat → Action ω α} (p : Pairings)
    (hbody : ∀ j, K.Keeps j (body j)) : K.Keeps i (Action.sceneScope watch i p body) := by
  intro r hr
  let r' := (r.change watch (·.push (.fresh false (some (.gateway ⟨i, p⟩))))).change watch
    (·.push (.fresh true none))
  exact K.linked p hr (hbody _ r' (FrameStack.top_lt_height_push _ _))

theorem Keeps.called {body : Nat → Action ω α} (hbody : ∀ j, K.Keeps j (body j)) :
    K.Keeps i (Action.callScope watch none body) := by
  intro r _
  let r' := (r.change watch (·.push (.fresh true none))).change watch (·.push (.fresh true none))
  exact K.called (hbody _ r' (FrameStack.top_lt_height_push _ _))

/-- What is done while a node is active. -/
theorem Keeps.active_bind {x : Action ω α} {f : α → Action ω β} {a : Activation} {c : Component}
    (hmade : scene.Instance c a) (hx : K.Keeps i x) (hf : ∀ b, K.Keeps i (f b)) : K.Keeps i (do
      Action.changeStack watch (·.enter i a)
      let b ← x
      Action.changeStack watch (·.leave i)
      f b) := by
  intro r hr
  let r' := r.change watch (·.enter i a)
  have hr' : i < r'.state.stack.height := by
    simpa [r', Run.change, Action.changeState] using hr
  have hactive := K.active hmade (hx r' hr')
  exact K.trans hactive (hf _ _ (by rwa [K.height hactive]))

variable (K) in
/-- Actions that keep something up make up a congruence. -/
def keeping (i : Nat) : Congruence watch watch where
  Relates x _ := K.Keeps i x
  relates_pure := keeps_pure i
  relates_bind_of hx hanswers _ hf := hx.bind_of hanswers hf
  relates_emit := keeps_emit i

/-- Lookups that keep something up and answer with what the host has where gateways only forward. -/
structure Looks (K : Upkeep scene watch) (lookup : Lookup ω) : Prop where
  keeps : ∀ i l, K.Keeps 0 (lookup i l)
  answers : ∀ {r : Run ω} {i l passed p v}, r.state.stack.Forwards l i passed p →
    (lookup i l r).1 = .ok (some v) → answer? p l = some v

/-- Calls that keep something up wherever they are made. -/
structure Serves (K : Upkeep scene watch) (below : Calls ω) : Prop where
  evaluate : ∀ i node requested, K.Keeps i (below.evaluate i node requested)
  propagate : ∀ socket sources, K.Keeps 0 (below.propagate socket sources none)

variable {below : Calls ω}

section
variable {lookup : Lookup ω} (hbelow : K.Serves below) (hlookup : K.Looks lookup)
include hbelow hlookup

theorem keeps_resolveProducer (i : Nat) (producer : Link) :
    K.Keeps i (resolveProducer below lookup i producer) :=
  (K.keeping i).relates_resolveProducer below below lookup lookup
    (keeps_readStack i _) (hbelow.evaluate i _ _) ((hlookup.keeps i producer).mono (Nat.zero_le i))

theorem keeps_resolveInput (i : Nat) (a : Activation) (socket : String) :
    K.Keeps i (resolveInput scene below lookup i a socket) :=
  (K.keeping i).relates_resolveInput below below lookup lookup rfl
    (fun producer _ => keeps_resolveProducer hbelow hlookup i producer) (keeps_readStack i _)
    fun _ => (hlookup.keeps i _).mono (Nat.zero_le i)

omit hbelow in
/-- An exposed socket without producers is resolved by a lookup. -/
theorem resolves_resolveInput {i : Nat} {a : Activation} {socket : String} {v : Value} {r : Run ω}
    (hv : (resolveInput scene below lookup i a socket r).1 = .ok (some v)) :
    scene.Resolves r.state.stack i a socket v := by
  intro hproducers hexposed hprovided passed p hforwards
  refine hlookup.answers hforwards ?_
  rw [resolveInput, hproducers] at hv
  dsimp only at hv
  rw [Action.readStack_bind_apply, hexposed, hprovided] at hv
  exact hv

/-- An input is kept only after a walk has missed it. -/
theorem keeps_inputOf {a : Activation} (socket : String) {r : Run ω}
    (hactive : r.state.stack.active? i = some a) :
    K.keeps r (inputOf scene watch below lookup i a socket r).2 := by
  have hresolve := keeps_resolveInput hbelow hlookup i a socket r (FrameStack.lt_height_of_active? hactive)
  rw [inputOf, Action.readStack_bind_apply]
  cases hknown : r.state.stack.input? i ⟨a.node, socket⟩ with
  | some v => exact K.refl r
  | none =>
    have hresolves (v : Value) (hv : (resolveInput scene below lookup i a socket r).1 = .ok (some v)) :
        scene.Resolves r.state.stack i a socket v := resolves_resolveInput hlookup hv
    show K.keeps r ((resolveInput scene below lookup i a socket >>= _) r).2
    generalize resolveInput scene below lookup i a socket = x at hresolve hresolves ⊢
    rw [Action.bind_apply]
    match hx : (x r).1 with
    | .error failure => exact hresolve
    | .ok none => exact hresolve
    | .ok (some v) => exact K.input hresolve hactive hknown (hresolves v hx)

theorem keeps_fetchWith (i : Nat) (socket : String) :
    K.Keeps 0 (fetchWith scene watch below lookup i socket) := by
  intro r _
  rw [fetchWith, Action.readStack_bind_apply]
  cases hactive : r.state.stack.active? i with
  | none => exact K.refl r
  | some a => exact keeps_inputOf hbelow hlookup socket hactive

end

theorem keeps_askHost (provider : Provider) (socket : Link) : K.Keeps i (askHost watch provider socket) :=
  (K.keeping i).relates_askHost provider socket

omit K in
theorem answer_askHost (p : Provider) (l : Link) (r : Run ω) :
    (askHost watch p l r).1 = p.answer l.socket l.node := by
  unfold askHost
  split <;> rfl

theorem looks_lookupWithin (hbelow : K.Serves below) (steps : Nat) :
    K.Looks (lookupWithin scene watch below steps) := by
  induction steps with
  | zero => exact ⟨fun _ _ => keeps_pure 0 _, fun _ hv => nomatch hv⟩
  | succ steps ih =>
    constructor
    · intro i l
      refine .readStack_bind fun provider => ?_
      match provider with
      | none => exact keeps_pure 0 _
      | some (.host provider) => exact (keeps_askHost provider l).bind fun _ => keeps_pure 0 _
      | some (.gateway binding) =>
        dsimp only
        split
        · exact (keeps_note 0 _).bind fun _ => keeps_fetchWith hbelow ih _ _
        · exact ih.keeps _ _
    · intro r i l passed p v hforwards hv
      rw [lookupWithin, Action.readStack_bind_apply] at hv
      cases hforwards with
      | nobody provider =>
        rw [provider] at hv
        exact nomatch hv
      | host provider =>
        rw [provider] at hv
        dsimp only at hv
        rw [Action.bind_apply, answer_askHost] at hv
        exact Except.ok.inj hv
      | gateway provider unpaired rest =>
        rw [provider] at hv
        dsimp only at hv
        rw [unpaired] at hv
        exact ih.answers rest hv

theorem looks_provide (hbelow : K.Serves below) : K.Looks (provide scene watch below) :=
  ⟨fun i => (looks_lookupWithin hbelow (i + 1)).keeps i, (looks_lookupWithin hbelow _).answers⟩

theorem keeps_fetchInput (hbelow : K.Serves below) (i : Nat) (socket : String) :
    K.Keeps 0 (fetchInput scene watch below i socket) :=
  keeps_fetchWith hbelow (looks_provide hbelow) i socket

end Upkeep

/-! Handlers, operation by operation. -/

section
variable {ω : Type} (scene : Scene) (watch : Watcher ω) (below : Calls ω)

/-- Perform the first operation of a script; what is left of the script then. -/
def operate (frame : Nat) (a : Activation) : Script → Action ω Script
  | .done outcome => pure (.done outcome)
  | .fetch socket next => do
    Action.note watch (.performed frame a (.fetch socket next))
    let answer ← fetchInput scene watch below frame socket
    pure (next answer)
  | .push socket v next => do
    Action.note watch (.performed frame a (.push socket v next))
    Action.changeStack watch (·.putOutput frame ⟨a.node, socket⟩ v)
    pure next
  | .expose socket v next => do
    Action.note watch (.performed frame a (.expose socket v next))
    Action.changeStack watch (·.putExposed frame ⟨a.node, socket⟩ v)
    pure next
  | .hasExposed socket next => do
    Action.note watch (.performed frame a (.hasExposed socket next))
    let answer ← Action.readStack fun s => (s.exposed? frame ⟨a.node, socket⟩).isSome
    pure (next answer)
  | .exposeSignal socket next => do
    Action.note watch (.performed frame a (.exposeSignal socket next))
    if a.isSignal then Action.changeStack watch (·.addSignal frame ⟨a.node, socket⟩)
    else Action.log watch (.signalIgnored a.node socket)
    pure next
  | .forward socket next => do
    Action.note watch (.performed frame a (.forward socket next))
    if ← Action.readStack fun s => (s.active? frame).any Activation.isSignal then
      Action.changeStack watch (·.forward frame socket)
    else Action.log watch (.forwardIgnored a.node socket)
    pure next
  | .mark target scope next => do
    Action.note watch (.performed frame a (.mark target scope next))
    Action.changeState watch (·.mark frame a.node a.component target scope)
    pure next
  | .emit event next => do
    Action.note watch (.performed frame a (.emit event next))
    Action.emit watch event
    pure next
  | .count name next => do
    Action.note watch (.performed frame a (.count name next))
    let n ← Action.count name
    pure (next n)
  | .pullScene pairings target next => do
    Action.note watch (.performed frame a (.pullScene pairings target next))
    let answer ← Action.sceneScope watch frame pairings fun inner =>
      below.evaluate inner target.node (some target.socket)
    pure (next answer)
  | .pushScene pairings target next => do
    Action.note watch (.performed frame a (.pushScene pairings target next))
    let answer ← Action.sceneScope watch frame pairings fun _ =>
      below.propagate target.socket [target.node] none
    pure (next answer)

/-- A script is performed by performing its first operation and then what is left of it. -/
theorem perform_eq_operate (i : Nat) (a : Activation) (script : Script) :
    perform scene watch below i a script = (do
      let rest ← operate scene watch below i a script
      perform scene watch below i a rest) := by
  cases script with
  | exposeSignal socket next =>
    rw [perform, operate]
    split <;> rfl
  | forward socket next =>
    rw [perform, operate]
    simp only [bind_assoc]
    refine bind_congr fun _ => bind_congr fun isSignal => ?_
    cases isSignal <;> rfl
  | _ => rfl

/-- What holds of a script that is done, and of one if it holds of whatever its first operation leaves of it, holds
of all scripts. -/
theorem perform_induction (i : Nat) (a : Activation) {P : Script → Prop} (done : ∀ outcome, P (.done outcome))
    (operated : ∀ script, (∀ r, P (operate scene watch below i a script r).1) → P script) (script : Script) :
    P script := by
  induction script with
  | done outcome => exact done outcome
  | fetch _ _ ih | hasExposed _ _ ih | count _ _ ih | pullScene _ _ _ ih | pushScene _ _ _ ih =>
    exact operated _ fun _ => ih _
  | push _ _ _ ih | expose _ _ _ ih | mark _ _ _ ih | emit _ _ ih => exact operated _ fun _ => ih
  | exposeSignal socket next ih =>
    refine operated _ fun r => ?_
    rw [operate]
    split <;> exact ih
  | forward socket next ih =>
    refine operated _ fun r => ?_
    rw [operate, Action.bind_apply, Action.readStack_bind_apply]
    split <;> exact ih

variable {scene watch below}

namespace Upkeep

variable {K : Upkeep scene watch} {i : Nat}

/-- An operation that does nothing but write. -/
theorem keeps_effect (a : Activation) (script rest : Script) {change : EngineState → EngineState}
    (hchange : ∀ st, change st = script.effect i a st) :
    K.Keeps i (do Action.changeState watch change; pure rest : Action ω Script) := by
  obtain rfl : change = fun st => script.effect i a st := funext hchange
  exact fun r _ => K.effect r i a script

theorem keeps_operate (hbelow : K.Serves below) (i : Nat) (a : Activation) (script : Script) :
    K.Keeps i (operate scene watch below i a script) := by
  cases script with
  | done outcome => exact keeps_pure i _
  | fetch socket next =>
    exact (keeps_note i _).bind fun _ =>
      ((keeps_fetchInput hbelow i socket).mono (Nat.zero_le i)).bind fun _ => keeps_pure i _
  | push socket v next =>
    exact (keeps_note i _).bind fun _ => keeps_effect a (.push socket v next) next fun _ => rfl
  | expose socket v next =>
    exact (keeps_note i _).bind fun _ => keeps_effect a (.expose socket v next) next fun _ => rfl
  | hasExposed socket next =>
    exact (keeps_note i _).bind fun _ => .readStack_bind fun _ => keeps_pure i _
  | exposeSignal socket next =>
    refine (keeps_note i _).bind fun _ => ?_
    split
    · rename_i hsignal
      exact keeps_effect a (.exposeSignal socket next) next fun _ => by rw [Script.effect, if_pos hsignal]
    · exact (keeps_log i _).bind fun _ => keeps_pure i _
  | forward socket next =>
    refine (keeps_note i _).bind fun _ r hr => ?_
    rw [Action.readStack_bind_apply]
    split
    · rename_i hsignal
      have heffect := K.effect r i a (.forward socket next)
      rw [Run.change, Action.changeState, Script.effect, if_pos hsignal] at heffect
      exact heffect
    · exact (keeps_log i _).bind (fun _ => keeps_pure i next) r hr
  | mark target scope next =>
    exact (keeps_note i _).bind fun _ => keeps_effect a (.mark target scope next) next fun _ => rfl
  | emit event next => exact (keeps_note i _).bind fun _ => (keeps_emit i _).bind fun _ => keeps_pure i _
  | count name next => exact (keeps_note i _).bind fun _ => (keeps_count i _).bind fun _ => keeps_pure i _
  | pullScene pairings target next =>
    refine (keeps_note i _).bind fun _ => .bind (.linked pairings fun inner => ?_) fun _ => keeps_pure i _
    exact hbelow.evaluate inner target.node (some target.socket)
  | pushScene pairings target next =>
    refine (keeps_note i _).bind fun _ => .bind (.linked pairings fun inner => ?_) fun _ => keeps_pure i _
    exact (hbelow.propagate target.socket [target.node]).mono (Nat.zero_le inner)

theorem keeps_perform (hbelow : K.Serves below) (i : Nat) (a : Activation) (script : Script) :
    K.Keeps i (perform scene watch below i a script) := by
  induction script using perform_induction scene watch below i a with
  | done outcome => exact keeps_pure i _
  | operated script ih =>
    intro r hr
    have hoperate := keeps_operate hbelow i a script r hr
    rw [perform_eq_operate, Action.bind_apply]
    exact K.trans hoperate (ih r _ (by rwa [K.height hoperate]))

/-! Evaluations and propagations. -/

theorem keeps_runUpdate (hbelow : K.Serves below) (i : Nat) (c : Component) (a : Activation) :
    K.Keeps i (runUpdate scene watch below i c a) := by
  refine .state_bind fun st => ?_
  split
  · exact (keeps_log i _).bind fun _ => keeps_pure i _
  · split
    · exact keeps_pure i _
    · exact (keeps_log i _).bind fun _ => (keeps_note i _).bind fun _ =>
        (keeps_perform hbelow i a _).bind fun _ => (keeps_note i _).bind fun _ => keeps_pure i _

theorem keeps_evaluateAt (hbelow : K.Serves below) (i : Nat) (node : NodeId) (requested : Option String) :
    K.Keeps i (evaluateAt scene watch below i node requested) := by
  intro r hr
  rcases evaluateAt_cases watch below i node requested r with
    ⟨failure, h⟩ | ⟨info, -, -, h⟩ | ⟨info, c, hinfo, hc, -, h⟩
  · rw [h]
    exact K.refl r
  · rw [h]
    exact K.note r _
  · rw [h]
    have hmade : scene.Instance c (c.activation node info.attributes (.pull requested)) := ⟨info, _, hinfo, hc, rfl⟩
    exact Keeps.active_bind hmade (.nested (keeps_runUpdate hbelow i _ _)) (fun _ => keeps_pure i _) r hr

theorem keeps_deliver (hbelow : K.Serves below) (i : Nat) (link : Link) :
    K.Keeps i (deliver scene watch below i link) := by
  rw [deliver_eq]
  refine (keeps_note i _).bind fun _ => ?_
  split
  · exact keeps_pure i _
  · rename_i a script hreceiver
    obtain ⟨c, handler, hmade, -⟩ := Scene.instance_of_receiver hreceiver
    have hreceive : K.Keeps i (receive scene watch below i a script) :=
      (keeps_note i _).bind fun _ => (keeps_perform hbelow i a _).bind fun _ =>
        (keeps_note i _).bind fun _ => .readStack_bind fun _ => keeps_pure i _
    exact .active_bind hmade hreceive fun _ => keeps_pure i _

theorem keeps_deliverAll (hbelow : K.Serves below) (i : Nat) (links : List Link) :
    K.Keeps i (deliverAll scene watch below i links) :=
  have hdeliver (link : Link) : (K.keeping i).Relates (deliver scene watch below i link)
      (deliver scene watch below i link) := keeps_deliver hbelow i link
  (K.keeping i).relates_deliverAll below below fun link _ => hdeliver link

theorem keeps_walk (hbelow : K.Serves below) (i levels : Nat) (tally : Tally) (links : List Link) :
    K.Keeps i (walk scene watch below i levels tally links) :=
  (K.keeping i).relates_walk_of_any below below levels tally fun _ link => keeps_deliver hbelow i link

/-- What a propagation does on the frame of its call. -/
theorem keeps_levels (hbelow : K.Serves below) (i levels : Nat) (links : List Link) : K.Keeps i (do
    let tally ← walk scene watch below i levels .start links
    conclude watch i tally) :=
  (keeps_walk hbelow i levels _ links).bind fun tally =>
    (K.keeping i).relates_conclude tally (keeps_readStack i _)

theorem keeps_propagateAt (hbelow : K.Serves below) (socket : String) (sources : List NodeId) :
    K.Keeps 0 (propagateAt scene watch below socket sources none) := by
  refine .state_bind fun st => ?_
  split
  · exact (keeps_log 0 _).bind fun _ => keeps_pure 0 _
  · exact .nested (.called fun i => keeps_levels hbelow i _ _)

variable (K) in
/-- What single changes keep up all calls of handlers do. -/
theorem serves_calls (levels : Nat) : K.Serves (scene.calls watch levels) := by
  induction levels with
  | zero => exact ⟨fun i _ _ => keeps_pure i _, fun _ _ => keeps_pure 0 _⟩
  | succ levels ih => exact ⟨keeps_evaluateAt ih, keeps_propagateAt ih⟩

end Upkeep

end
end SocketGraph
