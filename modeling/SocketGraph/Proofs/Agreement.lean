import SocketGraph.Proofs.Congruence

/-! Two runs that begin alike. What an engine answers is decided by its state and by the counters that
its handlers ask for; neither what a watcher has seen nor what would be done at a nesting that is never
reached has a part in it. -/
namespace SocketGraph

/-- A script that counts only if that is allowed. -/
def Script.Counts (allowed : Prop) : Script → Prop
  | .done _ => True
  | .fetch _ next => ∀ answer, (next answer).Counts allowed
  | .push _ _ next => next.Counts allowed
  | .expose _ _ next => next.Counts allowed
  | .hasExposed _ next => ∀ answer, (next answer).Counts allowed
  | .exposeSignal _ next => next.Counts allowed
  | .forward _ next => next.Counts allowed
  | .mark _ _ next => next.Counts allowed
  | .emit _ next => next.Counts allowed
  | .count _ next => allowed ∧ ∀ n, (next n).Counts allowed
  | .pullScene _ _ next => ∀ answer, (next answer).Counts allowed
  | .pushScene _ _ next => ∀ result, (next result).Counts allowed

theorem Script.counts_of_allowed {allowed : Prop} (h : allowed) (s : Script) : s.Counts allowed := by
  induction s with
  | done => trivial
  | fetch _ _ ih | hasExposed _ _ ih | pullScene _ _ _ ih | pushScene _ _ _ ih => exact ih
  | push _ _ _ ih | expose _ _ _ ih | mark _ _ _ ih => exact ih
  | exposeSignal _ _ ih | forward _ _ ih | emit _ _ ih => exact ih
  | count _ _ ih => exact ⟨h, ih⟩

/-- The handlers of all components count only if that is allowed. -/
def Registry.Counts (allowed : Prop) (registry : Registry) : Prop :=
  ∀ name c, registry.get? name = some c →
    (∀ handler, c.update = some handler → ∀ a, (handler a).Counts allowed) ∧
    ∀ handler, c.signal = some handler → ∀ a socket, (handler a socket).Counts allowed

theorem Registry.counts_of_allowed {allowed : Prop} (h : allowed) (registry : Registry) :
    registry.Counts allowed :=
  fun _ _ _ => ⟨fun _ _ _ => Script.counts_of_allowed h _,
    fun _ _ _ _ => Script.counts_of_allowed h _⟩

/-- A way in which two runs are alike, each under its own watcher: their states are the same, and they
stay alike whatever is reported and whatever input is kept. -/
structure Likeness {ω ω' : Type} (watch : Watcher ω) (watch' : Watcher ω') where
  like : Run ω → Run ω' → Prop
  state : ∀ {r r'}, like r r' → r.state = r'.state
  emit : ∀ {r r'} e, like r r' → like (Action.emit watch e r).2 (Action.emit watch' e r').2
  note : ∀ {r r'} s, like r r' → like (Action.note watch s r).2 (Action.note watch' s r').2
  keep : ∀ {r r'} i socket v, like r r' →
    like (Action.changeStack watch (·.putInput i socket v) r).2
      (Action.changeStack watch' (·.putInput i socket v) r').2

namespace Likeness

variable {ω ω' α β : Type} {scene : Scene} {watch : Watcher ω} {watch' : Watcher ω'}
  (L : Likeness watch watch')

/-- Alike runs stay alike whatever change is made to both. -/
def Lasting : Prop :=
  ∀ change : EngineState → EngineState, ∀ r r', L.like r r' →
    L.like (Action.changeState watch change r).2 (Action.changeState watch' change r').2

/-- Alike runs count alike. -/
def Counting : Prop :=
  ∀ name r r', L.like r r' → (Action.count name r).1 = (Action.count name r').1 ∧
    L.like (Action.count name r).2 (Action.count name r').2

/-- Two actions answer the same and leave alike runs alike, and the nesting as it was. -/
def Agree (n : Nat) (x : Action ω α) (x' : Action ω' α) : Prop :=
  ∀ r r', L.like r r' → r.state.nesting = n →
    (x r).1 = (x' r').1 ∧ L.like (x r).2 (x' r').2 ∧ (x r).2.state.nesting = n

/-- Calls that agree, one by one. -/
structure AgreeCalls (n : Nat) (below : Calls ω) (below' : Calls ω') : Prop where
  evaluate : ∀ frame node requested,
    L.Agree n (below.evaluate frame node requested) (below'.evaluate frame node requested)
  propagate : ∀ socket sources provider,
    L.Agree n (below.propagate socket sources provider) (below'.propagate socket sources provider)

variable {L} {n : Nat}

theorem agree_pure (a : α) : L.Agree n (pure a) (pure a) := fun _ _ h hn => ⟨rfl, h, hn⟩

theorem Agree.bind_of {x : Action ω α} {x' : Action ω' α} {f : α → Action ω β} {f' : α → Action ω' β}
    {P : α → Prop} (hx : L.Agree n x x') (hanswers : ∀ r', P (x' r').1)
    (hf : ∀ a, P a → L.Agree n (f a) (f' a)) : L.Agree n (x >>= f) (x' >>= f') := by
  intro r r' h hn
  obtain ⟨ha, hlike, hn'⟩ := hx r r' h hn
  change (f (x r).1 (x r).2).1 = (f' (x' r').1 (x' r').2).1 ∧
    L.like (f (x r).1 (x r).2).2 (f' (x' r').1 (x' r').2).2 ∧ (f (x r).1 (x r).2).2.state.nesting = n
  rw [ha]
  exact hf _ (hanswers r') _ _ hlike hn'

theorem Agree.bind {x : Action ω α} {x' : Action ω' α} {f : α → Action ω β} {f' : α → Action ω' β}
    (hx : L.Agree n x x') (hf : ∀ a, L.Agree n (f a) (f' a)) : L.Agree n (x >>= f) (x' >>= f') :=
  hx.bind_of (P := fun _ => True) (fun _ => trivial) fun a _ => hf a

theorem agree_readStack (read : FrameStack → α) :
    L.Agree n (Action.readStack read) (Action.readStack read) := by
  intro r r' h hn
  refine ⟨?_, h, hn⟩
  change read r.state.stack = read r'.state.stack
  rw [L.state h]

/-- What is known of alike runs is known of what they read. -/
theorem Agree.readStack_bind {read : FrameStack → α} {f : α → Action ω β} {f' : α → Action ω' β}
    {P : α → Prop} (hread : ∀ r r', L.like r r' → P (read r.state.stack))
    (hf : ∀ a, P a → L.Agree n (f a) (f' a)) :
    L.Agree n (Action.readStack read >>= f) (Action.readStack read >>= f') := by
  intro r r' h hn
  have hrun := hf _ (hread r r' h) r r' h hn
  change (f (read r.state.stack) r).1 = (f' (read r'.state.stack) r').1 ∧
    L.like (f (read r.state.stack) r).2 (f' (read r'.state.stack) r').2 ∧ _
  rw [← L.state h]
  exact hrun

/-- The state that both read is the same, and its nesting is known. -/
theorem Agree.state_bind {f : EngineState → Action ω β} {f' : EngineState → Action ω' β}
    (hf : ∀ st, st.nesting = n → L.Agree n (f st) (f' st)) :
    L.Agree n (Action.state >>= f) (Action.state >>= f') := by
  intro r r' h hn
  have hrun := hf r.state hn r r' h hn
  change (f r.state r).1 = (f' r'.state r').1 ∧ L.like (f r.state r).2 (f' r'.state r').2 ∧ _
  rw [← L.state h]
  exact hrun

theorem agree_emit (e : Event) : L.Agree n (Action.emit watch e) (Action.emit watch' e) :=
  fun _ _ h hn => ⟨rfl, L.emit e h, hn⟩

theorem agree_log (m : Message) : L.Agree n (Action.log watch m) (Action.log watch' m) :=
  agree_emit _

theorem agree_note (s : Step) : L.Agree n (Action.note watch s) (Action.note watch' s) :=
  fun _ _ h hn => ⟨rfl, L.note s h, hn⟩

variable (L n) in
/-- Actions that agree make up a congruence. -/
def agreeing : Congruence watch watch' where
  Relates := L.Agree n
  relates_pure := agree_pure
  relates_bind_of hx _ hanswers hf := hx.bind_of hanswers hf
  relates_emit := agree_emit

/-! Inputs. -/

theorem agree_putInput (i : Nat) (l : Link) (v : Value) :
    L.Agree n (Action.changeStack watch (·.putInput i l v)) (Action.changeStack watch' (·.putInput i l v)) :=
  fun _ _ h hn => ⟨rfl, L.keep i l v h, hn⟩

theorem agree_askHost (provider : Provider) (socket : Link) :
    L.Agree n (askHost watch provider socket) (askHost watch' provider socket) :=
  (L.agreeing n).relates_askHost provider socket

section
variable {below : Calls ω} {below' : Calls ω'}

theorem agree_fetchWith {i : Nat} {lookup : Lookup ω} {lookup' : Lookup ω'}
    (hbelow : ∀ node requested, L.Agree n (below.evaluate i node requested) (below'.evaluate i node requested))
    (hlookup : ∀ socket, L.Agree n (lookup i socket) (lookup' i socket)) (socket : String) :
    L.Agree n (fetchWith scene watch below lookup i socket) (fetchWith scene watch' below' lookup' i socket) :=
  (L.agreeing n).relates_fetchWith below below' agree_readStack agree_putInput lookup lookup' hbelow hlookup socket

theorem agree_fetchInput
    (hbelow : ∀ i node requested, L.Agree n (below.evaluate i node requested) (below'.evaluate i node requested))
    (i : Nat) (socket : String) :
    L.Agree n (fetchInput scene watch below i socket) (fetchInput scene watch' below' i socket) :=
  (L.agreeing n).relates_fetchInput below below' agree_readStack agree_putInput hbelow
    (fun i b l own => agree_note (.paired i b l own)) i socket

end

/-! Handlers and signals. Here all kinds of changes are made. -/

section
variable (hlasting : L.Lasting)
include hlasting

theorem agree_changeState (change : EngineState → EngineState) {m : Nat}
    (hnesting : ∀ st : EngineState, st.nesting = n → (change st).nesting = m) (r : Run ω) (r' : Run ω')
    (h : L.like r r') (hn : r.state.nesting = n) :
    L.like (Action.changeState watch change r).2 (Action.changeState watch' change r').2 ∧
      (Action.changeState watch change r).2.state.nesting = m :=
  ⟨hlasting change r r' h, hnesting _ hn⟩

theorem agree_changeStack (change : FrameStack → FrameStack) :
    L.Agree n (Action.changeStack watch change) (Action.changeStack watch' change) :=
  fun r r' h hn => ⟨rfl, agree_changeState hlasting
    (fun st => { st with stack := change st.stack }) (fun _ h => h) r r' h hn⟩

theorem Agree.between {outer inner : Frame} {body : Nat → Action ω α} {body' : Nat → Action ω' α}
    (hbody : ∀ frame, L.Agree n (body frame) (body' frame)) :
    L.Agree n (Action.between watch outer inner body) (Action.between watch' outer inner body') :=
  (agree_changeStack hlasting _).bind fun _ => (agree_changeStack hlasting _).bind fun _ =>
    (agree_readStack _).bind fun frame => (hbody frame).bind fun result =>
      (agree_changeStack hlasting _).bind fun _ => (agree_changeStack hlasting _).bind fun _ =>
        agree_pure result

theorem Agree.nested {x : Action ω α} {x' : Action ω' α} (hx : L.Agree (n + 1) x x') :
    L.Agree n (Action.nested watch x) (Action.nested watch' x') := by
  intro r r' h hn
  obtain ⟨hlike, hn'⟩ := agree_changeState hlasting .deeper (m := n + 1)
    (fun st hst => congrArg (· + 1) hst) r r' h hn
  obtain ⟨hanswer, hlike, hn'⟩ := hx _ _ hlike hn'
  exact ⟨hanswer, agree_changeState hlasting .shallower (m := n)
    (fun st hst => congrArg (· - 1) hst) _ _ hlike hn'⟩

variable {below : Calls ω} {below' : Calls ω'} {allowed : Prop} (hcount : allowed → L.Counting)
include hcount

theorem agree_perform (hbelow : L.AgreeCalls n below below') (i : Nat) (a : Activation)
    (script : Script) (hscript : script.Counts allowed) :
    L.Agree n (perform scene watch below i a script) (perform scene watch' below' i a script) := by
  induction script with
  | done outcome => exact agree_pure _
  | fetch socket next ih =>
    rw [perform, perform]
    exact (agree_note _).bind fun _ => (agree_fetchInput hbelow.evaluate i socket).bind fun answer =>
      ih answer (hscript answer)
  | push socket v next ih | expose socket v next ih =>
    rw [perform, perform]
    exact (agree_note _).bind fun _ => (agree_changeStack hlasting _).bind fun _ => ih hscript
  | hasExposed socket next ih =>
    rw [perform, perform]
    exact (agree_note _).bind fun _ => (agree_readStack _).bind fun answer =>
      ih answer (hscript answer)
  | exposeSignal socket next ih =>
    rw [perform, perform]
    refine (agree_note _).bind fun _ => ?_
    split
    · exact (agree_changeStack hlasting _).bind fun _ => ih hscript
    · exact (agree_log _).bind fun _ => ih hscript
  | forward socket next ih =>
    rw [perform, perform]
    refine (agree_note _).bind fun _ => (agree_readStack _).bind fun signal => ?_
    split
    · exact (agree_changeStack hlasting _).bind fun _ => ih hscript
    · exact (agree_log _).bind fun _ => ih hscript
  | mark target scope next ih =>
    rw [perform, perform]
    refine (agree_note _).bind fun _ => Agree.bind (fun r r' h hn => ⟨rfl, ?_⟩) fun _ => ih hscript
    exact agree_changeState hlasting _ (fun st hst => by cases scope <;> exact hst) r r' h hn
  | emit event next ih =>
    rw [perform, perform]
    exact (agree_note _).bind fun _ => (agree_emit _).bind fun _ => ih hscript
  | count name next ih =>
    rw [perform, perform]
    refine (agree_note _).bind fun _ => Agree.bind (fun r r' h hn => ?_) fun m => ih m (hscript.2 m)
    obtain ⟨hanswer, hlike⟩ := hcount hscript.1 name r r' h
    exact ⟨hanswer, hlike, hn⟩
  | pullScene p target next ih =>
    rw [perform, perform]
    exact (agree_note _).bind fun _ =>
      (Agree.between hlasting fun inner => hbelow.evaluate _ _ _).bind fun answer =>
        ih answer (hscript answer)
  | pushScene p target next ih =>
    rw [perform, perform]
    exact (agree_note _).bind fun _ =>
      (Agree.between hlasting fun _ => hbelow.propagate _ _ _).bind fun result =>
        ih result (hscript result)

variable (hscripts : scene.registry.Counts allowed)
include hscripts

omit hcount hscripts hlasting in
theorem agree_refuse (node : NodeId) :
    L.Agree n (refuse scene watch node) (refuse scene watch' node) :=
  (agree_log _).bind fun _ => agree_pure _

/-- Handlers run only below the nesting at which they are refused, so their calls need to agree only
there. -/
theorem agree_evaluateAt
    (hbelow : n + 1 < scene.limits.recursionDepth → L.AgreeCalls (n + 1) below below')
    (i : Nat) (node : NodeId) (requested : Option String) :
    L.Agree n (evaluateAt scene watch below i node requested)
      (evaluateAt scene watch' below' i node requested) := by
  unfold evaluateAt
  split
  · exact agree_pure _
  · refine Agree.state_bind fun st _ => ?_
    split
    · split
      · exact agree_pure _
      · rename_i info _ _ c hc
        refine (agree_changeStack hlasting _).bind fun _ => ?_
        refine (Agree.nested hlasting (Agree.state_bind fun st hst => ?_)).bind fun outcome =>
          (agree_changeStack hlasting _).bind fun _ => ?_
        · rw [hst]
          split
          · exact (agree_refuse _).bind fun _ => agree_pure _
          · rename_i hdepth
            split
            · exact agree_pure _
            · rename_i handler hhandler
              refine (agree_log _).bind fun _ => (agree_note _).bind fun _ => ?_
              refine (agree_perform hlasting hcount (hbelow (Nat.lt_of_not_le hdepth)) i _ _
                ((hscripts _ c hc).1 handler hhandler _)).bind fun outcome => ?_
              exact (agree_note _).bind fun _ => agree_pure _
        · cases outcome with
          | error failure => exact agree_pure _
          | ok _ => exact (agree_readStack _).bind fun _ => agree_pure _
    · exact (agree_note _).bind fun _ => (agree_readStack _).bind fun _ => agree_pure _

theorem agree_deliver (hbelow : L.AgreeCalls n below below') (i : Nat) (link : Link) :
    L.Agree n (deliver scene watch below i link) (deliver scene watch' below' i link) := by
  rw [deliver_eq, deliver_eq]
  refine (agree_note _).bind fun _ => ?_
  split
  · exact agree_pure _
  · rename_i a script hreceiver
    have hscript : script.Counts allowed := by
      obtain ⟨info, c, handler, -, hc, hhandler, -, rfl⟩ := Scene.receiver_eq_ok.1 hreceiver
      exact (hscripts _ c hc).2 handler hhandler _ _
    have hreceive : L.Agree n (receive scene watch below i a script) (receive scene watch' below' i a script) :=
      (agree_note _).bind fun _ => (agree_perform hlasting hcount hbelow i a script hscript).bind fun _ =>
        (agree_note _).bind fun _ => (agree_readStack _).bind fun _ => agree_pure _
    exact (agree_changeStack hlasting _).bind fun _ => hreceive.bind fun _ =>
      (agree_changeStack hlasting _).bind fun _ => agree_pure _

theorem agree_walk (i levels : Nat) (tally : Tally) (links : List Link)
    (hbelow : links ≠ [] → L.AgreeCalls n below below') :
    L.Agree n (walk scene watch below i levels tally links) (walk scene watch' below' i levels tally links) :=
  (L.agreeing n).relates_walk_of_any below below' levels tally fun hlinks link =>
    agree_deliver hlasting hcount hscripts (hbelow hlinks) i link

theorem agree_propagateAt
    (hbelow : n + 1 < scene.limits.recursionDepth → L.AgreeCalls (n + 1) below below')
    (socket : String) (sources : List NodeId) (provider : Option Provider) :
    L.Agree n (propagateAt scene watch below socket sources provider)
      (propagateAt scene watch' below' socket sources provider) := by
  refine Agree.state_bind fun st hst => ?_
  split
  · exact (agree_refuse _).bind fun _ => agree_pure _
  · rename_i hrefused
    refine Agree.nested hlasting (Agree.between hlasting fun frame => ?_)
    refine (agree_walk hlasting hcount hscripts frame _ _ _ fun hlinks => ?_).bind fun tally => ?_
    -- a propagation that reaches an input has a source, so it was not refused for its nesting
    · refine hbelow (Nat.lt_of_not_le fun hdeep => hlinks ?_)
      rw [refused?, if_pos (hst ▸ hdeep), List.head?_eq_none_iff] at hrefused
      rw [hrefused]
      rfl
    · exact (L.agreeing (n + 1)).relates_conclude tally (agree_readStack _)

end

end Likeness

/-- The calls of a scene when other calls are made once no nesting is left. -/
def Scene.callsOver {ω : Type} (scene : Scene) (watch : Watcher ω) (bottom : Calls ω) : Nat → Calls ω
  | 0 => bottom
  | levels + 1 =>
    ⟨fun frame node requested =>
        evaluateAt scene watch (scene.callsOver watch bottom levels) frame node requested,
      fun socket sources provider =>
        propagateAt scene watch (scene.callsOver watch bottom levels) socket sources provider⟩

theorem Scene.calls_eq_callsOver {ω : Type} (scene : Scene) (watch : Watcher ω) (levels : Nat) :
    scene.calls watch levels = scene.callsOver watch (.exhausted scene) levels := by
  induction levels with
  | zero => rfl
  | succ levels ih => rw [Scene.calls, Scene.callsOver, ih]

namespace Likeness

variable {ω ω' : Type} {scene : Scene} {watch : Watcher ω} {watch' : Watcher ω'}
  {L : Likeness watch watch'}

/-- Calls agree as soon as there is a level for every nesting that is left, whatever is done when the
levels are used up. -/
theorem agree_callsOver (hlasting : L.Lasting) {allowed : Prop} (hcount : allowed → L.Counting)
    (hscripts : scene.registry.Counts allowed) (bottom : Calls ω) (bottom' : Calls ω') {n : Nat}
    (levels levels' : Nat) (h : scene.limits.recursionDepth ≤ n + levels + 1)
    (h' : scene.limits.recursionDepth ≤ n + levels' + 1) :
    L.AgreeCalls n (scene.callsOver watch bottom (levels + 1))
      (scene.callsOver watch' bottom' (levels' + 1)) := by
  induction levels generalizing n levels' with
  | zero =>
    have hbelow : n + 1 < scene.limits.recursionDepth → False := by omega
    exact ⟨fun i node requested => agree_evaluateAt hlasting hcount hscripts
        (fun hdepth => (hbelow hdepth).elim) i node requested,
      fun socket sources provider => agree_propagateAt hlasting hcount hscripts
        (fun hdepth => (hbelow hdepth).elim) socket sources provider⟩
  | succ levels ih =>
    have hbelow (hdepth : n + 1 < scene.limits.recursionDepth) : L.AgreeCalls (n + 1)
        (scene.callsOver watch bottom (levels + 1)) (scene.callsOver watch' bottom' levels') := by
      -- a handler is nested one deeper here, so there is a level left on both sides
      cases levels' with
      | zero => omega
      | succ levels' => exact ih levels' (by omega) (by omega)
    exact ⟨fun i node requested => agree_evaluateAt hlasting hcount hscripts hbelow i node requested,
      fun socket sources provider =>
        agree_propagateAt hlasting hcount hscripts hbelow socket sources provider⟩

/-- Calls with the same levels left agree at every nesting. -/
theorem agree_calls (hlasting : L.Lasting) {allowed : Prop} (hcount : allowed → L.Counting)
    (hscripts : scene.registry.Counts allowed) (levels n : Nat) :
    L.AgreeCalls n (scene.calls watch levels) (scene.calls watch' levels) := by
  induction levels generalizing n with
  | zero => exact ⟨fun _ _ _ => agree_pure _, fun _ _ _ => agree_pure _⟩
  | succ levels ih =>
    exact ⟨fun i node requested =>
        agree_evaluateAt hlasting hcount hscripts (fun _ => ih (n + 1)) i node requested,
      fun socket sources provider =>
        agree_propagateAt hlasting hcount hscripts (fun _ => ih (n + 1)) socket sources provider⟩

/-- Runs with the same state and the same counters are alike, whoever watches them. -/
def unwatched (watch : Watcher ω) (watch' : Watcher ω') : Likeness watch watch' where
  like r r' := r.state = r'.state ∧ r.counters = r'.counters
  state h := h.1
  emit _ h := h
  note _ h := h
  keep i socket v h :=
    ⟨congrArg (fun st : EngineState => { st with stack := st.stack.putInput i socket v }) h.1, h.2⟩

theorem lasting_unwatched (watch : Watcher ω) (watch' : Watcher ω') :
    (unwatched watch watch').Lasting :=
  fun change _ _ h => ⟨congrArg change h.1, h.2⟩

theorem counting_unwatched (watch : Watcher ω) (watch' : Watcher ω') :
    (unwatched watch watch').Counting := by
  rintro name ⟨st, counters, w⟩ ⟨st', counters', w'⟩ ⟨rfl, rfl⟩
  exact ⟨rfl, rfl, rfl⟩

end Likeness
end SocketGraph
