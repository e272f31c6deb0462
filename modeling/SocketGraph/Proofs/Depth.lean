import SocketGraph.Proofs.Forwarding
import SocketGraph.Proofs.Repeatable
import SocketGraph.Proofs.Sharing

/-! How deep evaluations are nested. Without linked scenes an evaluation is nested in those of the nodes that
it feeds, one level deeper for each. So nothing is refused as long as every path of producers is shorter than
the limit. -/
namespace SocketGraph

namespace Executable

/-- Nodes of which each is fed by the next one. -/
def Path (x : Executable) (nodes : List NodeId) : Prop :=
  nodes.IsChain fun consumer producer => x.Feeds producer consumer

/-- With a node at a nesting, and its producers one level deeper each, no path goes down to the limit. -/
def StaysBelow (x : Executable) (limit nesting : Nat) (node : NodeId) : Prop :=
  ∀ path, x.Path (node :: path) → nesting + (node :: path).length < limit

variable {x : Executable} {limit nesting : Nat} {node consumer : NodeId}

theorem StaysBelow.lt (h : x.StaysBelow limit nesting node) : nesting + 1 < limit :=
  h [] (List.isChain_singleton node)

/-- A node that feeds another one stays below the limit one level deeper. -/
theorem StaysBelow.feeds (h : x.StaysBelow limit nesting consumer) (hfeeds : x.Feeds node consumer) :
    x.StaysBelow limit (nesting + 1) node := by
  intro path hpath
  have hlonger := h (node :: path) (List.isChain_cons_cons.2 ⟨hfeeds, hpath⟩)
  rw [List.length_cons] at hlonger
  omega

end Executable

/-- The failure of a node that is nested too deep. -/
def Failure.IsTooDeep : Failure → Prop
  | .tooDeep _ _ => True
  | _ => False

/-- Something has failed because a node is nested too deep. -/
def Outcome.Refused {α : Type} (outcome : Outcome α) : Prop :=
  match outcome with
  | .error failure => failure.IsTooDeep
  | .ok _ => False

/-- A script that does not say by itself that it is nested too deep: as long as nothing that it asks for has
failed for that reason, it does not either. -/
def Script.Candid : Script → Prop
  | .done outcome => ¬ outcome.Refused
  | .fetch _ next => ∀ answer, ¬ Outcome.Refused answer → (next answer).Candid
  | .push _ _ next => next.Candid
  | .expose _ _ next => next.Candid
  | .hasExposed _ next => ∀ answer, (next answer).Candid
  | .exposeSignal _ next => next.Candid
  | .forward _ next => next.Candid
  | .mark _ _ next => next.Candid
  | .emit _ next => next.Candid
  | .count _ next => ∀ n, (next n).Candid
  | .pullScene _ _ next => ∀ answer, ¬ Outcome.Refused answer → (next answer).Candid
  | .pushScene _ _ next => ∀ result, (next result).Candid

/-- What a component does when its node is updated is candid. -/
def Component.Candid (c : Component) (a : Activation) : Prop :=
  ∀ handler, c.update = some handler → (handler a).Candid

/-- The nesting, the providers, and the nodes that are active stay as they are. -/
def Upkeep.steadfast {ω : Type} (scene : Scene) (watch : Watcher ω) : Upkeep scene watch where
  keeps r r' := r'.state.nesting = r.state.nesting ∧
    r'.state.stack.fittings = r.state.stack.fittings ∧ r.state.stack.Settles r'.state.stack
  refl r := ⟨rfl, rfl, .refl r.state.stack⟩
  trans h h' := ⟨h'.1.trans h.1, h'.2.1.trans h.2.1, h.2.2.trans h'.2.2⟩
  height h := FrameStack.height_of_outline h.2.2.outline
  emit r _ := ⟨rfl, rfl, .refl r.state.stack⟩
  note r _ := ⟨rfl, rfl, .refl r.state.stack⟩
  count r _ := ⟨rfl, rfl, .refl r.state.stack⟩
  effect r i a script :=
    ⟨script.nesting_effect i a r.state, script.fittings_effect i a r.state,
      script.settles_effect i a r.state⟩
  input h _ hmiss _ := ⟨h.1, (FrameStack.fittings_of_shape (FrameStack.shape_putInput ..)).trans h.2.1,
    h.2.2.putInput hmiss _⟩
  nested h := ⟨congrArg (· - 1) h.1, h.2⟩
  active := by
    rintro r r' i a c hmade ⟨hnesting, hfittings, hsettles⟩
    have hentered := FrameStack.fittings_enter r.state.stack i a
    exact ⟨hnesting, (FrameStack.fittings_leave _ i).trans (hfittings.trans hentered), hsettles.left⟩
  linked _ _ h := ⟨h.1, EngineState.view_closeBoth h.2.1, h.2.2.popBoth⟩
  called h := ⟨h.1, EngineState.view_closeBoth h.2.1, h.2.2.popBoth⟩

/-- One run leads to another, and all moments on the way are nested less deep than the limit. -/
def Run.Below (limit : Nat) (r r' : Run History) : Prop :=
  ∃ ms, r'.seen.moments = ms ++ r.seen.moments ∧ ∀ m ∈ ms, m.state.nesting < limit

namespace Run.Below

variable {limit : Nat} {r r' r'' : Run History}

theorem of_eq (h : r'.seen.moments = r.seen.moments) : Run.Below limit r r' := ⟨[], h, nofun⟩

theorem refl (r : Run History) : Run.Below limit r r := of_eq rfl

theorem trans (h : Run.Below limit r r') (h' : Run.Below limit r' r'') : Run.Below limit r r'' := by
  obtain ⟨ms, hseen, hms⟩ := h
  obtain ⟨ms', hseen', hms'⟩ := h'
  exact ⟨ms' ++ ms, by rw [hseen', hseen, List.append_assoc], List.forall_mem_append.2 ⟨hms', hms⟩⟩

theorem note (hr : r.state.nesting < limit) (s : Step) :
    Run.Below limit r (Action.note .history s r).2 :=
  ⟨[⟨r.state, r.seen.calls, s⟩], rfl, List.forall_mem_singleton.2 hr⟩

theorem change (change : EngineState → EngineState) (hr : (change r.state).nesting < limit) :
    Run.Below limit r (r.change .history change) :=
  ⟨[.change r.seen.calls (change r.state)], rfl, List.forall_mem_singleton.2 hr⟩

end Run.Below

/-- In a run, an action stays below the limit, and it does not fail for being nested too deep if the handlers
are candid. -/
def Run.Allows {α : Type} (limit : Nat) (candid : Prop) (r : Run History) (x : Action History (Outcome α)) :
    Prop := Run.Below limit r (x r).2 ∧ (candid → ¬ (x r).1.Refused)

namespace Run.Allows

variable {α β : Type} {limit : Nat} {candid : Prop} {r : Run History}

theorem pure {outcome : Outcome α} (h : candid → ¬ outcome.Refused) :
    r.Allows limit candid (Pure.pure outcome : Action History (Outcome α)) := ⟨.refl r, h⟩

theorem pure_ok (a : α) : r.Allows limit candid (Pure.pure (.ok a) : Action History (Outcome α)) :=
  pure fun _ => not_false

/-- After an action that stays below the limit. -/
theorem after {x : Action History α} {f : α → Action History (Outcome β)}
    (hx : Run.Below limit r (x r).2) (hf : (x r).2.Allows limit candid (f (x r).1)) :
    r.Allows limit candid (x >>= f) := ⟨hx.trans hf.1, hf.2⟩

/-- What fails after an action has failed fails for the same reason. -/
theorem bind {x : Action History (Outcome α)} {f : Outcome α → Action History (Outcome β)}
    (hx : r.Allows limit candid x)
    (hf : (candid → ¬ (x r).1.Refused) → (x r).2.Allows limit candid (f (x r).1)) :
    r.Allows limit candid (x >>= f) := after hx.1 (hf hx.2)

theorem readStack {read : FrameStack → α} {f : α → Action History (Outcome β)}
    (hf : r.Allows limit candid (f (read r.state.stack))) :
    r.Allows limit candid (Action.readStack read >>= f) := hf

/-- What is allowed one level deeper. -/
theorem nested {x : Action History (Outcome α)}
    (hx : (r.change .history .deeper).Allows limit candid x)
    (hdeeper : (r.change .history .deeper).state.nesting < limit)
    (hback : (x (r.change .history .deeper)).2.state.nesting - 1 < limit) :
    r.Allows limit candid (Action.nested .history x) :=
  ⟨.trans (.change .deeper hdeeper) (hx.1.trans (.change .shallower hback)), hx.2⟩

/-- What is allowed on the frames of a call. -/
theorem called (p : Option Provider) {body : Nat → Action History (Outcome α)}
    (hr : r.state.nesting < limit)
    (hbody : let r' := Course.opened r (.fresh true none) (.fresh true (p.map .host))
      r'.Allows limit candid (body r'.state.stack.top) ∧
        (body r'.state.stack.top r').2.state.nesting < limit) :
    r.Allows limit candid (Action.callScope .history p body) := by
  obtain ⟨⟨hbelow, hrefused⟩, hback⟩ := hbody
  refine ⟨.trans (.change (·.push (.fresh true none)) hr) ?_, hrefused⟩
  refine .trans (.change (·.push (.fresh true (p.map .host))) hr) ?_
  exact hbelow.trans (.trans (.change .closeFrame hback) (.change .closeFrame hback))

end Run.Allows

/-- No gateway answers on any frame. -/
def FrameStack.Ungated (s : FrameStack) : Prop := ∀ i b, s.provider? i ≠ some (.gateway b)

/-- On the frames of a call nobody but the host answers. -/
theorem FrameStack.Ungated.of_call {s : FrameStack} (hs : s.Bracketed) (p : Option Provider) :
    ((s.push (.fresh true none)).push (.fresh true (p.map .host))).Ungated := by
  intro i b hb
  obtain ⟨j, -, f, hf, hprovider⟩ := exists_of_readThrough hb
  rcases frame?_push_cases hf with ⟨-, hf⟩ | ⟨-, rfl⟩
  · exact nomatch hprovider.symm.trans (congrArg Frame.Shape.provider (hs.push.frame? hf))
  · cases p <;> exact nomatch hprovider

/-- What is known of a run in which nodes are evaluated from a nesting on a frame. -/
structure Run.Level (nesting i : Nat) (r : Run History) : Prop where
  nesting : r.state.nesting = nesting
  ungated : r.state.stack.Ungated
  frame : i < r.state.stack.height

/-- What is known, besides, of a run in which a node is active innermost on the frame. -/
structure Run.Attends (nesting i : Nat) (node : NodeId) (r : Run History) : Prop
    extends r.Level nesting i where
  active : (r.state.stack.active? i).map Activation.node = some node

theorem Run.Level.keep {scene : Scene} {n i : Nat} {r r' : Run History} (h : r.Level n i)
    (hkeep : (Upkeep.steadfast scene .history).keeps r r') : r'.Level n i := by
  obtain ⟨hnesting, hfittings, -⟩ := hkeep
  refine ⟨hnesting.trans h.nesting, fun j b hb => ?_, ?_⟩
  · rw [FrameStack.provider?_of_fittings hfittings] at hb
    exact h.ungated j b hb
  · rw [FrameStack.height_of_view hfittings]
    exact h.frame

/-- A node is entered, and its handler will be one level deeper. -/
theorem Run.Level.deeper {n i : Nat} {r : Run History} (h : r.Level n i) (a : Activation) :
    ((r.change .history (·.enter i a)).change .history .deeper).Attends (n + 1) i a.node where
  nesting := congrArg (· + 1) h.nesting
  ungated j b hb := by
    have hprovider : (r.state.stack.enter i a).provider? j = r.state.stack.provider? j :=
      FrameStack.provider?_enter ..
    exact h.ungated j b (hprovider ▸ hb)
  frame := Nat.lt_of_lt_of_eq h.frame (FrameStack.height_enter r.state.stack i a).symm
  active := congrArg (Option.map Activation.node) (FrameStack.active?_enter_self h.frame a)

theorem Run.Attends.keep {scene : Scene} {n i : Nat} {node : NodeId} {r r' : Run History}
    (h : r.Attends n i node) (hkeep : (Upkeep.steadfast scene .history).keeps r r') :
    r'.Attends n i node :=
  ⟨h.toLevel.keep hkeep, (hkeep.2.2.active? i).trans h.active⟩

section
variable (scene : Scene) (candid : Prop) (below : Calls History) (n i : Nat)

/-- Evaluations of nodes that stay below the limit are allowed in all runs at a nesting. -/
structure Calls.Allow : Prop where
  serves : (Upkeep.steadfast scene .history).Serves below
  evaluate : ∀ node requested, scene.tables.executable.StaysBelow scene.limits.recursionDepth n node →
    ∀ r : Run History, r.Level n i → r.Allows scene.limits.recursionDepth candid
      (below.evaluate i node requested)

variable {scene candid below n i} {r : Run History} {a : Activation}

/-- Where no gateway answers, a lookup only asks the host. -/
theorem allows_provide (hr : r.Level n i) (l : Link) :
    r.Allows scene.limits.recursionDepth candid (provide scene .history below i l) := by
  refine Run.Allows.readStack ?_
  match hprovider : r.state.stack.provider? i with
  | none => exact .pure_ok none
  | some (.host p) =>
    refine Run.Allows.after (.of_eq ?_) (.pure_ok _)
    unfold askHost
    split <;> rfl
  | some (.gateway b) => exact absurd hprovider (hr.ungated i b)

variable (hbelow : below.Allow scene candid n i)
  (hfeeding : ∀ node, scene.tables.executable.Feeds node a.node →
    scene.tables.executable.StaysBelow scene.limits.recursionDepth n node)
include hbelow

theorem allows_resolveProducer {producer : Link}
    (hproducer : scene.tables.executable.StaysBelow scene.limits.recursionDepth n producer.node)
    (hr : r.Level n i) : r.Allows scene.limits.recursionDepth candid
      (resolveProducer below (provide scene .history below) i producer) := by
  refine Run.Allows.readStack ?_
  cases r.state.stack.output? i producer with
  | some v => exact .pure_ok _
  | none =>
    have hkeep := hbelow.serves.evaluate i producer.node (some producer.socket) r hr.frame
    refine Run.Allows.bind (hbelow.evaluate _ _ hproducer r hr) fun hasked => ?_
    generalize below.evaluate i producer.node (some producer.socket) r = answer at hkeep hasked ⊢
    obtain ⟨outcome, r'⟩ := answer
    cases outcome with
    | error failure => exact .pure hasked
    | ok _ =>
      refine Run.Allows.readStack ?_
      dsimp only
      cases r'.state.stack.output? i producer with
      | some v => exact .pure_ok _
      | none => exact allows_provide (hr.keep hkeep) producer

theorem allows_resolveProducers {producers : List Link}
    (hproducers : ∀ producer ∈ producers,
      scene.tables.executable.StaysBelow scene.limits.recursionDepth n producer.node)
    (hr : r.Level n i) : r.Allows scene.limits.recursionDepth candid
      (resolveProducers below (provide scene .history below) i producers) := by
  induction producers generalizing r with
  | nil => exact .pure_ok _
  | cons producer rest ih =>
    obtain ⟨hproducer, hrest⟩ := List.forall_mem_cons.1 hproducers
    have hlooks := Upkeep.looks_provide hbelow.serves
    have hkeep := Upkeep.keeps_resolveProducer hbelow.serves hlooks i producer r hr.frame
    refine Run.Allows.bind (allows_resolveProducer hbelow hproducer hr) fun hasked => ?_
    generalize resolveProducer below _ i producer r = answer at hkeep hasked ⊢
    obtain ⟨outcome, r'⟩ := answer
    cases outcome with
    | error failure => exact .pure hasked
    | ok v =>
      refine Run.Allows.bind (ih hrest (hr.keep hkeep)) fun hasked => ?_
      generalize (resolveProducers below _ i rest r').1 = outcome at hasked ⊢
      cases outcome with
      | error failure => exact .pure hasked
      | ok vs => exact .pure_ok _

include hfeeding

theorem allows_resolveInput (socket : String) (hr : r.Level n i) :
    r.Allows scene.limits.recursionDepth candid
      (resolveInput scene below (provide scene .history below) i a socket) := by
  have hproducers : ∀ producer ∈ scene.tables.executable.producers a.node socket,
      scene.tables.executable.StaysBelow scene.limits.recursionDepth n producer.node :=
    fun producer hproducer => hfeeding _ ⟨producer.socket, socket, hproducer⟩
  unfold resolveInput
  split
  · rename_i first rest hlist
    rw [hlist] at hproducers
    split
    · refine Run.Allows.bind (allows_resolveProducers hbelow hproducers hr) fun hasked => ?_
      generalize (resolveProducers below _ i (first :: rest) r).1 = outcome at hasked ⊢
      cases outcome with
      | error failure => exact .pure hasked
      | ok vs => exact .pure_ok _
    · exact allows_resolveProducer hbelow (hproducers first List.mem_cons_self) hr
  · refine Run.Allows.readStack ?_
    split
    · exact allows_provide hr _
    · exact .pure_ok _

variable (hlimit : n < scene.limits.recursionDepth)
include hlimit

/-- A fetch evaluates only nodes that feed the one that is active. -/
theorem allows_fetchInput (socket : String) (hr : r.Attends n i a.node) :
    r.Allows scene.limits.recursionDepth candid (fetchInput scene .history below i socket) := by
  obtain ⟨b, hactive, hnode⟩ := Option.map_eq_some_iff.1 hr.active
  refine Run.Allows.readStack ?_
  rw [hactive]
  refine Run.Allows.readStack ?_
  cases r.state.stack.input? i ⟨b.node, socket⟩ with
  | some v => exact .pure_ok _
  | none =>
    rw [← hnode] at hfeeding
    have hlooks := Upkeep.looks_provide hbelow.serves
    have hkeep := Upkeep.keeps_resolveInput hbelow.serves hlooks i b socket r hr.frame
    refine Run.Allows.bind (allows_resolveInput hbelow hfeeding socket hr.toLevel) fun hasked => ?_
    generalize resolveInput scene below _ i b socket r = answer at hkeep hasked ⊢
    obtain ⟨outcome, r'⟩ := answer
    match outcome with
    | .error failure => exact .pure hasked
    | .ok none => exact .pure_ok _
    | .ok (some v) =>
      have hnesting : r'.state.nesting = n := (hr.toLevel.keep hkeep).nesting
      exact Run.Allows.after (.change _ (hnesting.symm ▸ hlimit)) (.pure_ok _)

omit hbelow hfeeding in
/-- An operation that asks for nothing. -/
theorem below_operate {script : Script} (hfetch : ∀ socket next, script ≠ .fetch socket next)
    (hlinks : script.Links fun _ => False) (hr : r.state.nesting = n) :
    Run.Below scene.limits.recursionDepth r (operate scene .history below i a script r).2 := by
  rw [← hr] at hlimit
  have hnote (script : Script) : Run.Below scene.limits.recursionDepth r
      (Action.note .history (.performed i a script) r).2 := .note hlimit _
  have hwrite (script : Script) (change : EngineState → EngineState)
      (hchange : (change r.state).nesting = r.state.nesting) : Run.Below scene.limits.recursionDepth r
        ((Action.note .history (.performed i a script) r).2.change .history change) :=
    (hnote script).trans (.change change (hchange.symm ▸ hlimit))
  cases script with
  | done outcome => exact .refl r
  | fetch socket next => exact absurd rfl (hfetch socket next)
  | push socket v next =>
    exact hwrite (.push socket v next)
      (fun st => { st with stack := st.stack.putOutput i ⟨a.node, socket⟩ v }) rfl
  | expose socket v next =>
    exact hwrite (.expose socket v next)
      (fun st => { st with stack := st.stack.putExposed i ⟨a.node, socket⟩ v }) rfl
  | hasExposed | emit | count => exact hnote _
  | exposeSignal socket next =>
    rw [operate]
    split
    · exact hwrite (.exposeSignal socket next)
        (fun st => { st with stack := st.stack.addSignal i ⟨a.node, socket⟩ }) rfl
    · exact hnote _
  | forward socket next =>
    rw [operate, Action.bind_apply, Action.readStack_bind_apply]
    split
    · exact hwrite (.forward socket next) (fun st => { st with stack := st.stack.forward i socket }) rfl
    · exact hnote _
  | mark target scope next =>
    exact hwrite (.mark target scope next) (·.mark i a.node a.component target scope)
      ((Script.mark target scope next).nesting_effect i a r.state)
  | pullScene pairings target next | pushScene pairings target next => exact hlinks.1.elim

/-- The script of an active node. -/
theorem allows_perform {script : Script} (hlinks : script.Links fun _ => False)
    (hcandid : candid → script.Candid) (hr : r.Attends n i a.node) :
    r.Allows scene.limits.recursionDepth candid (perform scene .history below i a script) := by
  have hrest {script : Script} {r : Run History} (hr : r.Attends n i a.node)
      (hfetch : ∀ socket next, script ≠ .fetch socket next) (hlinks : script.Links fun _ => False)
      (h : ∀ r' : Run History, r'.Attends n i a.node →
        r'.Allows scene.limits.recursionDepth candid
          (perform scene .history below i a (operate scene .history below i a script r).1)) :
      r.Allows scene.limits.recursionDepth candid (perform scene .history below i a script) := by
    have hkeep := Upkeep.keeps_operate hbelow.serves i a script r hr.frame
    rw [perform_eq_operate]
    exact Run.Allows.after (below_operate hlimit hfetch hlinks hr.nesting) (h _ (hr.keep hkeep))
  induction script generalizing r with
  | done outcome => exact .pure hcandid
  | fetch socket next ih =>
    have hnoted : Run.Attends n i a.node (Action.note .history (.performed i a (.fetch socket next)) r).2 :=
      hr.keep ((Upkeep.steadfast scene .history).note r _)
    have hkeep := Upkeep.keeps_fetchInput hbelow.serves i socket _ (Nat.zero_lt_of_lt hnoted.frame)
    refine Run.Allows.after (.note (hr.nesting.symm ▸ hlimit) _) ?_
    refine Run.Allows.bind (allows_fetchInput hbelow hfeeding hlimit socket hnoted) fun hasked => ?_
    exact ih _ (hlinks _) (fun hc => hcandid hc _ (hasked hc)) (hnoted.keep hkeep)
  | push _ _ _ ih | expose _ _ _ ih | mark _ _ _ ih | emit _ _ ih =>
    exact hrest hr (fun _ _ => Script.noConfusion) hlinks fun r' hr' => ih hlinks hcandid hr'
  | hasExposed _ _ ih | count _ _ ih =>
    exact hrest hr (fun _ _ => Script.noConfusion) hlinks fun r' hr' => ih _ (hlinks _) (fun hc => hcandid hc _) hr'
  | exposeSignal socket next ih =>
    refine hrest hr (fun _ _ => Script.noConfusion) hlinks fun r' hr' => ?_
    rw [operate]
    split <;> exact ih hlinks hcandid hr'
  | forward socket next ih =>
    refine hrest hr (fun _ _ => Script.noConfusion) hlinks fun r' hr' => ?_
    rw [operate, Action.bind_apply, Action.readStack_bind_apply]
    split <;> exact ih hlinks hcandid hr'
  | pullScene | pushScene => exact hlinks.1.elim

end

section
variable {scene : Scene} {candid : Prop} {below : Calls History} {n i : Nat} {r : Run History}
  (hlinks : ∀ c a, scene.Instance c a → c.Links (fun _ _ => False) a)
  (hcandid : candid → ∀ c a, scene.Instance c a → c.Candid a)
include hlinks hcandid

theorem allows_runUpdate (hbelow : below.Allow scene candid n i) {c : Component} {a : Activation}
    (hmade : scene.Instance c a) (hfeeding : ∀ node, scene.tables.executable.Feeds node a.node →
      scene.tables.executable.StaysBelow scene.limits.recursionDepth n node)
    (hlimit : n < scene.limits.recursionDepth) (hr : r.Attends n i a.node) :
    r.Allows scene.limits.recursionDepth candid (runUpdate scene .history below i c a) := by
  have hnoted (step : Step) {r : Run History} (hr : r.Attends n i a.node) :
      Run.Below scene.limits.recursionDepth r (Action.note .history step r).2 :=
    .note (hr.nesting.symm ▸ hlimit) step
  rw [runUpdate]
  show r.Allows _ candid (if scene.limits.recursionDepth ≤ r.state.nesting then _ else _)
  rw [if_neg (by rw [hr.nesting]; omega)]
  cases hupdate : c.update with
  | none => exact .pure_ok ()
  | some handler =>
    have hstarted : Run.Attends n i a.node (Action.note .history (.started i a) r).2 :=
      hr.keep ((Upkeep.steadfast scene .history).note r _)
    have hkeep := Upkeep.keeps_perform hbelow.serves i a (handler a) _ hstarted.frame
    refine Run.Allows.after (.of_eq rfl) (Run.Allows.after (hnoted (.started i a) hr) ?_)
    refine Run.Allows.bind (allows_perform hbelow hfeeding hlimit ((hlinks c a hmade).update handler hupdate)
      (fun hc => hcandid hc c a hmade handler hupdate) hstarted) fun hasked => ?_
    exact Run.Allows.after (hnoted _ (hstarted.keep hkeep)) (.pure hasked)

/-- A node is evaluated one level deeper, and so are the nodes that feed it still deeper. -/
theorem allows_evaluateAt (hbelow : below.Allow scene candid (n + 1) i) {node : NodeId}
    (requested : Option String)
    (hnode : scene.tables.executable.StaysBelow scene.limits.recursionDepth n node) (hr : r.Level n i) :
    r.Allows scene.limits.recursionDepth candid (evaluateAt scene .history below i node requested) := by
  have hdeeper : n + 1 < scene.limits.recursionDepth := hnode.lt
  have hhere : r.state.nesting < scene.limits.recursionDepth := hr.nesting.trans_lt (by omega)
  rw [evaluateAt]
  cases hinfo : scene.tables.executable.node? node with
  | none => exact .pure fun _ => id
  | some info =>
    show r.Allows _ candid (if r.state.needsUpdate i node info.component = true then _ else _)
    split
    · cases hc : scene.registry.get? info.component with
      | none => exact .pure fun _ => id
      | some c =>
        let a := c.activation node info.attributes (.pull requested)
        let r' := (r.change .history (·.enter i a)).change .history .deeper
        have hmade : scene.Instance c a := ⟨info, _, hinfo, hc, rfl⟩
        have hr' : r'.Attends (n + 1) i a.node := hr.deeper a
        have hupdate : r'.Allows scene.limits.recursionDepth candid (runUpdate scene .history below i c a) :=
          allows_runUpdate hlinks hcandid hbelow hmade (fun producer hfeeds => hnode.feeds hfeeds) hdeeper hr'
        have hback : (runUpdate scene .history below i c a r').2.state.nesting - 1 <
            scene.limits.recursionDepth := by
          have hkeep := Upkeep.keeps_runUpdate hbelow.serves i c a r' hr'.frame
          rw [(hr'.keep hkeep).nesting]
          omega
        refine Run.Allows.after (.change (·.enter i a) hhere) ?_
        refine Run.Allows.bind (hupdate.nested (hr'.nesting.trans_lt hdeeper) hback) fun hasked => ?_
        refine Run.Allows.after (.change (·.leave i) hback) ?_
        generalize (Action.nested .history _ _).1 = outcome at hasked ⊢
        cases outcome with
        | error failure => exact .pure hasked
        | ok _ => exact .readStack (.pure_ok _)
    · exact Run.Allows.after (.note hhere _) (.readStack (.pure_ok _))

/-- With a level of calls for each nesting up to the limit. -/
theorem allow_calls (levels n i : Nat) (hlevels : scene.limits.recursionDepth ≤ n + levels) :
    (scene.calls .history levels).Allow scene candid n i := by
  refine ⟨(Upkeep.steadfast scene .history).serves_calls levels, fun node requested hnode r hr => ?_⟩
  induction levels generalizing n node requested r with
  | zero =>
    have hlt := hnode.lt
    omega
  | succ levels ih =>
    have hserves := (Upkeep.steadfast scene .history).serves_calls levels
    exact allows_evaluateAt hlinks hcandid ⟨hserves, ih (n + 1) (by omega)⟩ requested hnode hr

/-- In a call of the host on an engine at rest a node is evaluated, and its answer is read off. -/
theorem allows_callScope {α : Type} {node : NodeId}
    (hnode : scene.tables.executable.StaysBelow scene.limits.recursionDepth 0 node)
    (hr : r.state.Resting) (requested : Option String) (p : Option Provider)
    {f : Nat → Outcome (Table Value) → Action History (Outcome α)}
    (hf : ∀ i outcome r, (f i outcome r).2 = r ∧ ((f i outcome r).1.Refused → outcome.Refused)) :
    r.Allows scene.limits.recursionDepth candid (Action.callScope .history p fun i =>
      (scene.hostCalls .history).evaluate i node requested >>= f i) := by
  let r' := Course.opened r (.fresh true none) (.fresh true (p.map .host))
  have hr' : r'.Level 0 r'.state.stack.top :=
    ⟨hr.nesting, .of_call hr.bracketed p, FrameStack.top_lt_height_push _ _⟩
  have hcalls := allow_calls hlinks hcandid (scene.limits.allowance + 1) 0 r'.state.stack.top
    (by rw [Limits.allowance]; omega)
  have hbegun : r.state.nesting < scene.limits.recursionDepth := hr.nesting.trans_lt (by have := hnode.lt; omega)
  have hkeep := hcalls.serves.evaluate r'.state.stack.top node requested r' hr'.frame
  have hended : ((scene.hostCalls .history).evaluate r'.state.stack.top node requested r').2.state.nesting <
      scene.limits.recursionDepth := by
    rw [Scene.hostCalls, (hr'.keep hkeep).nesting]
    exact hr.nesting ▸ hbegun
  refine Run.Allows.called p hbegun ⟨?_, ?_⟩
  · refine Run.Allows.bind (hcalls.evaluate node requested hnode r' hr') fun hasked => ⟨.of_eq ?_, fun hc hf' => ?_⟩
    · rw [(hf _ _ _).1]
    · exact hasked hc ((hf _ _ _).2 hf')
  · rw [Action.bind_apply, (hf _ _ _).1]
    exact hended

omit hlinks hcandid in
theorem allows_reportFailure {α : Type} {x : Action History (Outcome α)}
    (hx : r.Allows scene.limits.recursionDepth candid x) (node : NodeId) (socket : String) :
    r.Allows scene.limits.recursionDepth candid (x >>= reportFailure .history node socket) := by
  refine hx.bind fun hasked => ?_
  generalize (x r).1 = outcome at hasked ⊢
  cases outcome with
  | error failure => exact Run.Allows.after (.of_eq rfl) (.pure hasked)
  | ok a => exact .pure_ok a

theorem allows_updateNode {node : NodeId}
    (hnode : scene.tables.executable.StaysBelow scene.limits.recursionDepth 0 node)
    (hr : r.state.Resting) (p : Option Provider) :
    r.Allows scene.limits.recursionDepth candid (scene.updateNode .history node p) :=
  allows_reportFailure (allows_callScope hlinks hcandid hnode hr none p (f := fun _ outcome => pure outcome)
    fun _ _ _ => ⟨rfl, id⟩) node "*"

theorem allows_requestValue {node : NodeId}
    (hnode : scene.tables.executable.StaysBelow scene.limits.recursionDepth 0 node)
    (hr : r.state.Resting) (socket : String) (p : Option Provider) :
    r.Allows scene.limits.recursionDepth candid (scene.requestValue .history node socket p) := by
  rw [Scene.requestValue]
  cases scene.tables.exposed.socket? node socket with
  | none => exact Run.Allows.after (.of_eq rfl) (.pure fun _ => id)
  | some _ =>
    refine Run.Allows.after (.of_eq rfl) (allows_reportFailure ?_ node socket)
    refine allows_callScope hlinks hcandid hnode hr (some socket) p fun i outcome r => ?_
    cases outcome with
    | error failure => exact ⟨rfl, id⟩
    | ok exposed => exact ⟨rfl, id⟩

end
end SocketGraph
