import SocketGraph.Proofs.Propagations
import SocketGraph.Proofs.Upkeep

/-! Scripted deliveries. The operations that a history tells of a delivery are those of the script of its
handler, on one of the ways through its answers. -/
namespace SocketGraph

namespace Script

/-- What a script goes on with after its first operation, whatever that is answered with. -/
inductive Leads : Script → Script → Prop
  | fetch (socket : String) (next : Outcome (Option Value) → Script) (answer : Outcome (Option Value)) :
      Leads (.fetch socket next) (next answer)
  | push (socket : String) (v : Value) (next : Script) : Leads (.push socket v next) next
  | expose (socket : String) (v : Value) (next : Script) : Leads (.expose socket v next) next
  | hasExposed (socket : String) (next : Bool → Script) (answer : Bool) :
      Leads (.hasExposed socket next) (next answer)
  | exposeSignal (socket : String) (next : Script) : Leads (.exposeSignal socket next) next
  | forward (socket : String) (next : Script) : Leads (.forward socket next) next
  | mark (target : MarkTarget) (scope : MarkScope) (next : Script) : Leads (.mark target scope next) next
  | emit (event : Event) (next : Script) : Leads (.emit event next) next
  | count (name : String) (next : Nat → Script) (n : Nat) : Leads (.count name next) (next n)
  | pullScene (p : Pairings) (target : Link) (next : Outcome (Table Value) → Script)
      (answer : Outcome (Table Value)) : Leads (.pullScene p target next) (next answer)
  | pushScene (p : Pairings) (target : Link) (next : TriggerResult → Script) (result : TriggerResult) :
      Leads (.pushScene p target next) (next result)

/-- A way through a script: the operations on it, each with the script that it is the first one of, and
the outcome in the end. -/
inductive Ends : Script → List Script → Outcome Unit → Prop
  | done (outcome : Outcome Unit) : Ends (.done outcome) [] outcome
  | step {script rest : Script} {operations : List Script} {outcome : Outcome Unit}
      (leads : script.Leads rest) (ends : Ends rest operations outcome) :
      Ends script (script :: operations) outcome

end Script

/-- The script that a signal to an input has performed, if there is a handler for it. -/
def Scene.script? (scene : Scene) (link : Link) : Option Script := do
  let info ← scene.tables.executable.node? link.node
  let c ← scene.registry.get? info.component
  let handler ← c.signal
  some (handler (c.activation link.node info.attributes (.push link.socket [])) link.socket)

theorem Scene.script?_eq (scene : Scene) (link : Link) :
    scene.script? link = (scene.receiver link).toOption.map Prod.snd := by
  unfold script? receiver
  cases scene.tables.executable.node? link.node with
  | none => rfl
  | some info =>
    dsimp only [Option.bind_eq_bind, Option.bind_some]
    cases scene.registry.get? info.component with
    | none => rfl
    | some c => cases hhandler : c.signal <;> simp [hhandler, Except.toOption]

/-- A delivery does what the script says that it has performed; with no script it does nothing. -/
def Delivery.Obeys (scene : Scene) (d : Delivery) : Prop :=
  match scene.script? d.link with
  | none => d.operations = [] ∧ d.outcome = none
  | some script => ∃ outcome, d.outcome = some outcome ∧ script.Ends d.operations outcome

theorem Delivery.Obeys.of_script {scene : Scene} {d : Delivery} {script : Script} {outcome : Outcome Unit}
    (hscript : scene.script? d.link = some script) (houtcome : d.outcome = some outcome)
    (hends : script.Ends d.operations outcome) : d.Obeys scene := by
  rw [Obeys, hscript]
  exact ⟨outcome, houtcome, hends⟩

/-- One run leads to another, and the moments in between change the deliveries that are told of at some
depth. -/
def Run.Extends (depth : Nat) (change : List Delivery → List Delivery) (r r' : Run History) : Prop :=
  ∃ ms : List Moment, r'.seen.moments = ms.reverse ++ r.seen.moments ∧
    ∀ earlier, ms.foldl (Delivery.extend depth) earlier = change earlier

namespace Run.Extends

variable {depth : Nat} {change change' : List Delivery → List Delivery} {r r' r'' : Run History}

theorem of_eq (h : r'.seen.moments = r.seen.moments) : r.Extends depth id r' := ⟨[], h, fun _ => rfl⟩

theorem trans (h : r.Extends depth change r') (h' : r'.Extends depth change' r'') :
    r.Extends depth (change' ∘ change) r'' := by
  obtain ⟨ms, hseen, hms⟩ := h
  obtain ⟨ms', hseen', hms'⟩ := h'
  refine ⟨ms ++ ms', ?_, fun earlier => ?_⟩
  · rw [hseen', hseen, List.reverse_append, List.append_assoc]
  · rw [List.foldl_append, hms, hms', Function.comp_apply]

end Run.Extends

/-! What handlers ask for. -/

/-- All that an action does while some handlers are at work is done inside of the innermost one. -/
def Inward {α : Type} (calls : CallStack) (x : Action History α) : Prop :=
  ∀ r : Run History, r.seen.calls = calls → ∃ ms : List Moment,
    (x r).2.seen = ⟨calls, ms.reverse ++ r.seen.moments⟩ ∧ ∀ m ∈ ms, m.Inside calls.length

section
variable {α β : Type} {scene : Scene} {below : Calls History} {calls : CallStack}

theorem inward_of_follows {x : Action History α} (hx : Course.Follows scene calls .asked x) :
    Inward calls x := by
  intro r hr
  obtain ⟨ms, hseen, hcourse⟩ := hx.asked r hr
  exact ⟨ms, hseen, hcourse.inside⟩

theorem inward_of_seen {x : Action History α} (hx : ∀ r, (x r).2.seen = r.seen) : Inward calls x := by
  rintro r rfl
  exact ⟨[], hx r, nofun⟩

theorem inward_changeState (change : EngineState → EngineState) :
    Inward calls (Action.changeState .history change) := by
  rintro r rfl
  exact ⟨[.change r.seen.calls (change r.state)], rfl,
    List.forall_mem_singleton.2 (Moment.inside_change _ _)⟩

theorem Inward.bind {x : Action History α} {f : α → Action History β} (hx : Inward calls x)
    (hf : ∀ a, Inward calls (f a)) : Inward calls (x >>= f) := by
  intro r hr
  obtain ⟨ms, hseen, hms⟩ := hx r hr
  obtain ⟨ms', hseen', hms'⟩ := hf (x r).1 (x r).2 (congrArg History.calls hseen)
  refine ⟨ms ++ ms', ?_, List.forall_mem_append.2 ⟨hms, hms'⟩⟩
  rw [Action.bind_apply, hseen', hseen]
  simp

theorem Inward.sceneScope {body : Nat → Action History α} (hbody : ∀ j, Inward calls (body j)) (i : Nat)
    (p : Pairings) : Inward calls (Action.sceneScope .history i p body) := by
  rintro r rfl
  obtain ⟨ms, hseen, hms⟩ := hbody (r.state.stack.height + 1)
    (Course.opened r (.fresh false (some (.gateway ⟨i, p⟩))) (.fresh true none)) rfl
  obtain ⟨-, -, hscope⟩ := Course.recorded_between _ _ body r ms rfl hseen
  exact ⟨_, hscope, Moment.inside_scope hms _ _ _ _⟩

theorem inward_propagate (hbelow : Course.Tracked scene below) (socket : String) (node : NodeId)
    (provider : Option Provider) : Inward calls (below.propagate socket [node] provider) := by
  rintro r rfl
  rcases hbelow.propagate socket node provider r with ⟨-, hseen⟩ | ⟨-, ms, st, hcourse, -, hseen⟩
  · exact ⟨[], hseen, nofun⟩
  · exact ⟨_, hseen, Moment.inside_propagating hcourse.inside _ _ _⟩

end

/-! Handlers at work. -/

/-- An operation of a handler is noted, and what it asks for is done inside of the handler. -/
theorem extends_performed {calls : CallStack} {g : Invocation} {r : Run History}
    (hr : r.seen.calls = g :: calls) (i : Nat) (a : Activation) (script : Script)
    {x : Action History Script} (hx : ∀ g, Inward (g :: calls) x) :
    let run := (Action.note .history (.performed i a script) >>= fun _ => x) r
    (∃ g', run.2.seen.calls = g' :: calls) ∧
      r.Extends calls.length (List.modifyHead (·.perform script)) run.2 := by
  let noted : Run History := (Action.note .history (.performed i a script) r).2
  have hcalls : noted.seen.calls = g.perform r.state.stack.height script :: calls :=
    congrArg (CallStack.after · r.state.stack.height (.performed i a script)) hr
  have hnoted : r.Extends calls.length (List.modifyHead (·.perform script)) noted := by
    refine ⟨[⟨r.state, r.seen.calls, .performed i a script⟩], rfl, fun earlier => if_pos ?_⟩
    rw [hr]
    rfl
  obtain ⟨ms, hseen, hms⟩ := hx _ noted hcalls
  have hinside : noted.Extends calls.length id (x noted).2 :=
    ⟨ms, congrArg History.moments hseen, Delivery.foldl_extend hms⟩
  exact ⟨⟨_, congrArg History.calls hseen⟩, hnoted.trans hinside⟩

section
variable {scene : Scene} {below : Calls History} (hbelow : Course.Tracked scene below)

omit hbelow in
/-- An operation goes on with what is left of the script. -/
theorem leads_operate {ω : Type} (scene : Scene) (watch : Watcher ω) (below : Calls ω) (i : Nat) (a : Activation)
    (script : Script) (r : Run ω) :
    (∃ outcome, script = .done outcome) ∨ script.Leads (operate scene watch below i a script r).1 := by
  cases script with
  | done outcome => exact .inl ⟨outcome, rfl⟩
  | fetch socket next => exact .inr (.fetch socket next _)
  | push socket v next => exact .inr (.push socket v next)
  | expose socket v next => exact .inr (.expose socket v next)
  | hasExposed socket next => exact .inr (.hasExposed socket next _)
  | exposeSignal socket next =>
    rw [operate]
    split <;> exact .inr (.exposeSignal socket next)
  | forward socket next =>
    rw [operate, Action.bind_apply, Action.readStack_bind_apply]
    split <;> exact .inr (.forward socket next)
  | mark target scope next => exact .inr (.mark target scope next)
  | emit event next => exact .inr (.emit event next)
  | count name next => exact .inr (.count name next _)
  | pullScene p target next => exact .inr (.pullScene p target next _)
  | pushScene p target next => exact .inr (.pushScene p target next _)

include hbelow

/-- A delivery whose handler performs an operation has performed one more. -/
theorem extends_operate {calls : CallStack} {g : Invocation} {r : Run History}
    (hr : r.seen.calls = g :: calls) (i : Nat) (a : Activation) (script : Script) :
    let run := operate scene .history below i a script r
    (∃ outcome, script = .done outcome) ∨ (∃ g', run.2.seen.calls = g' :: calls) ∧
      r.Extends calls.length (List.modifyHead (·.perform script)) run.2 := by
  have hwrite (change : EngineState → EngineState) (next : Script) (g : Invocation) :
      Inward (g :: calls) (Action.changeState .history change >>= fun _ => pure next) :=
    (inward_changeState change).bind fun _ => inward_of_seen fun _ => rfl
  have hlog (message : Message) (next : Script) (g : Invocation) :
      Inward (g :: calls) (Action.log .history message >>= fun _ => pure next) :=
    inward_of_seen fun _ => rfl
  have hscene {α : Type} {body : Nat → Action History α} (p : Pairings) (next : α → Script)
      (hbody : ∀ g j, Inward (g :: calls) (body j)) (g : Invocation) : Inward (g :: calls)
        (Action.sceneScope .history i p body >>= fun answer => pure (next answer)) :=
    (Inward.sceneScope (hbody g) i p).bind fun _ => inward_of_seen fun _ => rfl
  cases script with
  | done outcome => exact .inl ⟨outcome, rfl⟩
  | fetch socket next =>
    refine .inr (extends_performed hr i a (.fetch socket next) fun g => ?_)
    exact (inward_of_follows (Course.follows_fetchInput (hbelow.evaluate _) i socket)).bind fun _ =>
      inward_of_seen fun _ => rfl
  | push socket v next => exact .inr (extends_performed hr i a (.push socket v next) (hwrite _ next))
  | expose socket v next => exact .inr (extends_performed hr i a (.expose socket v next) (hwrite _ next))
  | hasExposed socket next =>
    exact .inr (extends_performed hr i a (.hasExposed socket next) fun _ => inward_of_seen fun _ => rfl)
  | exposeSignal socket next =>
    rw [operate]
    split
    · exact .inr (extends_performed hr i a (.exposeSignal socket next) (hwrite _ next))
    · exact .inr (extends_performed hr i a (.exposeSignal socket next) (hlog _ next))
  | forward socket next =>
    refine .inr (extends_performed hr i a (.forward socket next) fun g r' hr' => ?_)
    rw [Action.readStack_bind_apply]
    split
    · exact hwrite _ next g r' hr'
    · exact hlog _ next g r' hr'
  | mark target scope next =>
    exact .inr (extends_performed hr i a (.mark target scope next) (hwrite _ next))
  | emit event next =>
    exact .inr (extends_performed hr i a (.emit event next) fun _ => inward_of_seen fun _ => rfl)
  | count name next =>
    exact .inr (extends_performed hr i a (.count name next) fun _ => inward_of_seen fun _ => rfl)
  | pullScene p target next =>
    refine .inr (extends_performed hr i a (.pullScene p target next) (hscene p next fun g j => ?_))
    exact inward_of_follows (hbelow.evaluate _ j _ _)
  | pushScene p target next =>
    refine .inr (extends_performed hr i a (.pushScene p target next) (hscene p next fun g _ => ?_))
    exact inward_propagate hbelow _ _ _

/-- A handler performs its script on one of the ways through it. -/
theorem extends_perform {calls : CallStack} {g : Invocation} {r : Run History}
    (hr : r.seen.calls = g :: calls) (i : Nat) (a : Activation) (script : Script) :
    let run := perform scene .history below i a script r
    ∃ operations, script.Ends operations run.1 ∧ (∃ g', run.2.seen.calls = g' :: calls) ∧
      r.Extends calls.length (List.modifyHead (·.performAll operations)) run.2 := by
  induction script using perform_induction scene .history below i a generalizing g r with
  | done outcome =>
    refine ⟨[], .done outcome, ⟨g, hr⟩, [], rfl, fun earlier => ?_⟩
    cases earlier <;> simp
  | operated script ih =>
    rw [perform_eq_operate, Action.bind_apply]
    rcases leads_operate scene .history below i a script r with ⟨outcome, rfl⟩ | hleads
    · exact ih r hr
    rcases extends_operate hbelow hr i a script with ⟨outcome, rfl⟩ | ⟨⟨g', hg'⟩, hfirst⟩
    · exact ih r hr
    obtain ⟨operations, hends, hcalls, hrest⟩ := ih r hg'
    refine ⟨script :: operations, .step hleads hends, hcalls, ?_⟩
    obtain ⟨ms, hseen, hms⟩ := hfirst.trans hrest
    refine ⟨ms, hseen, fun earlier => (hms earlier).trans ?_⟩
    cases earlier <;> simp [Delivery.perform, Delivery.performAll]

end

/-! Propagations. -/

/-- One run leads to another with the same handlers at work, and what is told in between are some
deliveries that all obey. -/
structure Run.Sends (scene : Scene) (r : Run History) (ds : List Delivery) (r' : Run History) : Prop where
  calls : r'.seen.calls = r.seen.calls
  told : r.Extends r.seen.calls.length (ds.reverse ++ ·) r'
  obey : ∀ d ∈ ds, d.Obeys scene

namespace Run.Sends

variable {scene : Scene} {r r' r'' : Run History} {ds ds' : List Delivery}

theorem nothing (h : r'.seen = r.seen) : r.Sends scene [] r' :=
  ⟨congrArg History.calls h, .of_eq (congrArg History.moments h), nofun⟩

theorem trans (h : r.Sends scene ds r') (h' : r'.Sends scene ds' r'') : r.Sends scene (ds ++ ds') r'' := by
  obtain ⟨ms, hseen, hms⟩ := h.told.trans (h.calls ▸ h'.told)
  refine ⟨h'.calls.trans h.calls, ⟨ms, hseen, fun earlier => (hms earlier).trans ?_⟩,
    List.forall_mem_append.2 ⟨h.obey, h'.obey⟩⟩
  simp

theorem changeState (change : EngineState → EngineState) (r : Run History) :
    r.Sends scene [] (Action.changeState .history change r).2 :=
  ⟨rfl, ⟨[.change r.seen.calls (change r.state)], rfl, fun _ => rfl⟩, nofun⟩

end Run.Sends

section
variable {scene : Scene} {below : Calls History} (hbelow : Course.Tracked scene below)
include hbelow

/-- What is delivered is told of in one delivery, which obeys the script of its handler. -/
theorem sends_deliver (i : Nat) (link : Link) (r : Run History) :
    ∃ d, r.Sends scene [d] (deliver scene .history below i link r).2 := by
  have hscript := scene.script?_eq link
  rw [deliver_eq]
  cases hreceiver : scene.receiver link with
  | error answer =>
    -- without a handler the delivery is all that is told
    refine ⟨.start link, rfl, ⟨[⟨r.state, r.seen.calls, .delivered i link⟩], rfl, fun _ => if_pos rfl⟩,
      List.forall_mem_singleton.2 ?_⟩
    rw [Delivery.Obeys, Delivery.start, hscript, hreceiver]
    exact ⟨rfl, rfl⟩
  | ok reception =>
    obtain ⟨a, script⟩ := reception
    -- the run of the handler, after the signal is delivered and its node is active
    let st := r.state.enter i a
    let delivered : List Moment := [⟨r.state, r.seen.calls, .delivered i link⟩,
      .change r.seen.calls st, ⟨st, r.seen.calls, .started i a⟩]
    let started : Run History :=
      ⟨st, r.counters, ⟨i, a, [], none⟩ :: r.seen.calls, delivered.reverse ++ r.seen.moments⟩
    obtain ⟨operations, hends, ⟨g, hg⟩, ms, hseen, hms⟩ := extends_perform hbelow (r := started) rfl i a script
    let run := perform scene .history below i a script started
    let finished : List Moment := [⟨run.2.state, run.2.seen.calls, .finished i a run.1⟩,
      .change run.2.seen.calls.tail (run.2.state.leave i)]
    refine ⟨((Delivery.start link).performAll operations).finish run.1, congrArg List.tail hg,
      ⟨delivered ++ ms ++ finished, ?_, fun earlier => ?_⟩, List.forall_mem_singleton.2 ?_⟩
    · have hrun : run.2.seen.moments = ms.reverse ++ (delivered.reverse ++ r.seen.moments) := hseen
      rw [List.reverse_append, List.reverse_append, List.append_assoc, List.append_assoc, ← hrun]
      rfl
    · have hdelivered : delivered.foldl (Delivery.extend r.seen.calls.length) earlier =
          .start link :: earlier := if_pos rfl
      rw [List.foldl_append, List.foldl_append, hdelivered, hms]
      exact if_pos (congrArg List.length hg)
    · exact .of_script (hscript.trans (by rw [hreceiver]; rfl)) rfl hends

/-- What is delivered on a level is told of in its deliveries. -/
theorem sends_deliverAll (i : Nat) (links : List Link) (r : Run History) :
    ∃ ds, r.Sends scene ds (deliverAll scene .history below i links r).2 := by
  induction links generalizing r with
  | nil => exact ⟨[], .nothing rfl⟩
  | cons link rest ih =>
    obtain ⟨d, hfirst⟩ := sends_deliver hbelow i link r
    obtain ⟨ds, hrest⟩ := ih (deliver scene .history below i link r).2
    rw [deliverAll_cons_apply]
    exact ⟨d :: ds, hfirst.trans hrest⟩

theorem sends_walk (i levels : Nat) (tally : Tally) (links : List Link) (r : Run History) :
    ∃ ds, r.Sends scene ds (walk scene .history below i levels tally links r).2 := by
  induction levels generalizing tally links r with
  | zero => cases links <;> exact ⟨[], .nothing rfl⟩
  | succ levels ih =>
    cases links with
    | nil => exact ⟨[], .nothing rfl⟩
    | cons link rest =>
      obtain ⟨ds, hlevel⟩ := sends_deliverAll hbelow i (link :: rest) r
      obtain ⟨ds', hwalk⟩ := ih _ _ (deliverAll scene .history below i (link :: rest) r).2
      exact ⟨ds ++ ds', hlevel.trans hwalk⟩

theorem sends_propagateAt (socket : String) (sources : List NodeId) (provider : Option Provider)
    (r : Run History) : ∃ ds, r.Sends scene ds
      (propagateAt scene .history below socket sources provider r).2 := by
  cases hrefused : refused? scene r.state sources with
  | some source =>
    rw [propagateAt_of_refused socket sources provider r hrefused]
    exact ⟨[], .nothing rfl⟩
  | none =>
    rw [propagateAt, Action.state_bind_apply, hrefused]
    -- the frames of the call are opened and closed by changes, which tell of no deliveries
    let deeper := (Action.changeState .history .deeper r).2
    let opened := (Action.changeStack .history (·.push (.fresh true (provider.map .host)))
      (Action.changeStack .history (·.push (.fresh true none)) deeper).2).2
    have hopened : r.Sends scene [] opened :=
      (Run.Sends.changeState .deeper r).trans ((Run.Sends.changeState _ deeper).trans (.changeState _ _))
    obtain ⟨ds, hwalk⟩ := sends_walk hbelow opened.state.stack.top scene.limits.signalLevels .start
      (frontier scene socket sources) opened
    have hconclude (i : Nat) (tally : Tally) (r' : Run History) :
        r'.Sends scene [] (conclude .history i tally r').2 := by
      refine .nothing ?_
      rw [conclude, Action.log_bind_apply, Action.readStack_bind_apply]
      cases FrameStack.frame? _ _ <;> rfl
    have hclosed (r' : Run History) : r'.Sends scene [] (Action.changeState .history .shallower
        (Action.changeStack .history FrameStack.pop
          (Action.changeStack .history FrameStack.pop r').2).2).2 :=
      (Run.Sends.changeState _ r').trans ((Run.Sends.changeState _ _).trans (.changeState .shallower _))
    exact ⟨_, hopened.trans (hwalk.trans ((hconclude _ _ _).trans (hclosed _)))⟩

end

/-- Whatever a propagation delivers obeys the scripts of the scene, on every level of nesting. -/
theorem Scene.propagations_obey (scene : Scene) (levels : Nat) (socket : String) (sources : List NodeId)
    (provider : Option Provider) (r : Run History) :
    let run := (scene.calls .history (levels + 1)).propagate socket sources provider r
    ∃ new, run.2.seen.moments = new ++ r.seen.moments ∧
      ∀ d ∈ deliveries r.seen.calls.length new.reverse, d.Obeys scene := by
  obtain ⟨ds, -, ⟨ms, hseen, hms⟩, hobey⟩ :=
    sends_propagateAt (scene.tracked_calls levels) socket sources provider r
  refine ⟨ms.reverse, hseen, fun d hd => hobey d ?_⟩
  rw [List.reverse_reverse, deliveries, hms] at hd
  simpa using hd

end SocketGraph
