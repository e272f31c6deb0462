import SocketGraph.Component.Node
import SocketGraph.Proofs.Breadth
import SocketGraph.Proofs.Reports
import SocketGraph.Proofs.Scripted
import SocketGraph.Tables.Builder

/-! Additive propagations. Where the handlers of signals keep no state, no source is in the way of another
one: a signal out of some sources and more reaches, exposes and fails at what it does out of the ones and
out of the others. -/
namespace SocketGraph

/-- Whether a failure is that of a limit: handlers are nested too deep, or a signal travels too far. -/
def Failure.isLimit : Failure → Bool
  | .tooDeep _ _ | .tooManyLevels _ => true
  | _ => false

/-- The failures that no limit is to blame for. -/
def TriggerResult.mishaps (result : TriggerResult) : List Failure := result.failures.filter (!·.isLimit)

/-- What a delivery comes to, apart from how: its input, the outputs that signals are forwarded out of, the
signals that are exposed and the outcome. -/
structure Delivery.Account where
  link : Link
  forwards : List String
  signals : List Link
  outcome : Option (Outcome Unit)

namespace Delivery

def account (d : Delivery) : Account := ⟨d.link, d.forwards, d.signals, d.outcome⟩

/-- The inputs that the forwarded signals reach. -/
def Account.reached (scene : Scene) (c : Account) : List Link :=
  c.forwards.flatMap (scene.tables.executable.consumers c.link.node)

/-- Why a delivery has failed, if it has. Its operations do not matter for that. -/
def Account.failure? (scene : Scene) (c : Account) : Option Failure :=
  Delivery.failure? scene ⟨c.link, [], c.outcome⟩

variable {scene : Scene} (ds : List Delivery)

theorem flatMap_reached_account :
    (ds.map account).flatMap (Account.reached scene) = ds.flatMap (reached scene) :=
  List.flatMap_map ..

theorem flatMap_signals_account : (ds.map account).flatMap Account.signals = ds.flatMap signals :=
  List.flatMap_map ..

theorem filterMap_failure?_account :
    (ds.map account).filterMap (Account.failure? scene) = ds.filterMap (failure? scene) :=
  List.filterMap_map ..

end Delivery

namespace Scene

/-- A delivery of some propagation that is made at a nesting, in whatever state. -/
def Makes (scene : Scene) (levels nesting : Nat) (d : Delivery) : Prop :=
  ∃ socket sources provider, ∃ r : Run History, ∃ new, r.state.nesting = nesting ∧
    ((scene.calls .history (levels + 1)).propagate socket sources provider r).2.seen.moments =
      new ++ r.seen.moments ∧ d ∈ deliveries r.seen.calls.length new.reverse

/-- The handlers of signals keep no state: what a delivery forwards, exposes and returns depends on nothing
but its input. The node of the input has its attributes from the tables. -/
def Stateless (scene : Scene) (levels nesting : Nat) : Prop :=
  ∀ d d', scene.Makes levels nesting d → scene.Makes levels nesting d' → d.link = d'.link →
    d.account = d'.account

/-- The inputs that a propagation starts with: none if it is refused. -/
def entered (scene : Scene) (st : EngineState) (socket : String) (sources : List NodeId) : List Link :=
  if scene.limits.recursionDepth ≤ st.nesting + 1 then [] else frontier scene socket sources

variable {scene : Scene} {st : EngineState} {socket : String} {sources : List NodeId}

theorem entered_append (A B : List NodeId) :
    scene.entered st socket (A ++ B) = scene.entered st socket A ++ scene.entered st socket B := by
  unfold entered frontier
  split_ifs
  · rfl
  · exact List.flatMap_append

theorem entered_of_refused {source : NodeId} (h : refused? scene st sources = some source) :
    scene.entered st socket sources = [] := by
  rw [refused?] at h
  split_ifs at h with hdeep
  exact if_pos hdeep

theorem entered_of_accepted (h : refused? scene st sources = none) :
    scene.entered st socket sources = frontier scene socket sources := by
  rw [refused?] at h
  unfold entered
  split_ifs at h ⊢
  · rw [List.head?_eq_none_iff.1 h]
    rfl
  · rfl

theorem entered_congr {st' : EngineState} (h : st'.nesting = st.nesting) :
    scene.entered st' socket sources = scene.entered st socket sources := by
  rw [entered, entered, h]

end Scene

/-- The inputs on each level of a propagation: those that it delivers to, and then what is left over. -/
def levelInputs (layers : List (List Delivery)) (left : List Link) (k : Nat) : List Link :=
  (layers.map (·.map Delivery.link) ++ [left]).getD k []

namespace Layered

variable {scene : Scene} {levels : Nat} {links left : List Link} {layers : List (List Delivery)}

theorem of_zero (h : Layered scene 0 links layers left) : layers = [] ∧ left = links := by
  cases h <;> exact ⟨rfl, rfl⟩

/-- The first level and the levels after it. With no inputs they all are empty. -/
theorem of_succ (h : Layered scene (levels + 1) links layers left) : ∃ ds layers',
    ds.map Delivery.link = links ∧ Layered scene levels (ds.flatMap (Delivery.reached scene)) layers' left ∧
      layers.flatten = ds ++ layers'.flatten ∧ levelInputs layers left 0 = links ∧
      ∀ k, levelInputs layers left (k + 1) = levelInputs layers' left k := by
  cases h with
  | finished => exact ⟨[], [], rfl, .finished _, rfl, rfl, fun k => by cases k <;> rfl⟩
  | @layer _ _ _ layers' ds _ dispatched next =>
    exact ⟨ds, layers', dispatched, next, rfl, dispatched, fun _ => rfl⟩

end Layered

/-! Deliveries that come to the same wherever their inputs are the same. -/

section
variable {scene : Scene} {depth nesting : Nat} (hstateless : scene.Stateless depth nesting)
include hstateless

theorem map_account_of_map_link {ds ds' : List Delivery} (hds : ∀ d ∈ ds, scene.Makes depth nesting d)
    (hds' : ∀ d ∈ ds', scene.Makes depth nesting d)
    (h : ds.map Delivery.link = ds'.map Delivery.link) :
    ds.map Delivery.account = ds'.map Delivery.account := by
  induction ds generalizing ds' with
  | nil =>
    rw [List.map_nil, eq_comm, List.map_eq_nil_iff] at h
    rw [h]
  | cons d ds ih =>
    cases ds' with
    | nil => simp at h
    | cons d' ds' =>
      obtain ⟨hd, hds⟩ := List.forall_mem_cons.1 hds
      obtain ⟨hd', hds'⟩ := List.forall_mem_cons.1 hds'
      obtain ⟨hlink, hlinks⟩ := List.cons.inj h
      rw [List.map_cons, List.map_cons, hstateless d d' hd hd' hlink, ih hds hds' hlinks]

/-- A propagation that starts with the inputs of two others has on each level the inputs of the first one
and then those of the second one, by induction on the levels that are left. -/
theorem Layered.additive {levels : Nat} {links linksA linksB left leftA leftB : List Link}
    {layers layersA layersB : List (List Delivery)} (h : Layered scene levels links layers left)
    (hA : Layered scene levels linksA layersA leftA) (hB : Layered scene levels linksB layersB leftB)
    (hlinks : links = linksA ++ linksB) (hmade : ∀ d ∈ layers.flatten, scene.Makes depth nesting d)
    (hmadeA : ∀ d ∈ layersA.flatten, scene.Makes depth nesting d)
    (hmadeB : ∀ d ∈ layersB.flatten, scene.Makes depth nesting d) :
    (∀ k, levelInputs layers left k = levelInputs layersA leftA k ++ levelInputs layersB leftB k) ∧
      (layers.flatten.map Delivery.account).Perm
        (layersA.flatten.map Delivery.account ++ layersB.flatten.map Delivery.account) := by
  induction levels generalizing links linksA linksB layers layersA layersB with
  | zero =>
    obtain ⟨rfl, rfl⟩ := h.of_zero
    obtain ⟨rfl, rfl⟩ := hA.of_zero
    obtain ⟨rfl, rfl⟩ := hB.of_zero
    refine ⟨fun k => ?_, .refl _⟩
    cases k with
    | zero => exact hlinks
    | succ k => rfl
  | succ levels ih =>
    obtain ⟨ds, later, hds, hnext, hflatten, hfirst, hlater⟩ := h.of_succ
    obtain ⟨dsA, laterA, hdsA, hnextA, hflattenA, hfirstA, hlaterA⟩ := hA.of_succ
    obtain ⟨dsB, laterB, hdsB, hnextB, hflattenB, hfirstB, hlaterB⟩ := hB.of_succ
    rw [hflatten, List.forall_mem_append] at hmade
    rw [hflattenA, List.forall_mem_append] at hmadeA
    rw [hflattenB, List.forall_mem_append] at hmadeB
    -- the deliveries of this level come to the same one by one, and so does what they reach
    have haccount : ds.map Delivery.account = dsA.map Delivery.account ++ dsB.map Delivery.account := by
      rw [← List.map_append]
      refine map_account_of_map_link hstateless hmade.1
        (List.forall_mem_append.2 ⟨hmadeA.1, hmadeB.1⟩) ?_
      rw [hds, hlinks, List.map_append, hdsA, hdsB]
    have hreached : ds.flatMap (Delivery.reached scene) =
        dsA.flatMap (Delivery.reached scene) ++ dsB.flatMap (Delivery.reached scene) := by
      simp only [← Delivery.flatMap_reached_account, haccount, List.flatMap_append]
    obtain ⟨hlevels, hperm⟩ := ih hnext hnextA hnextB hreached hmade.2 hmadeA.2 hmadeB.2
    refine ⟨fun k => ?_, ?_⟩
    · cases k with
      | zero => rw [hfirst, hfirstA, hfirstB, hlinks]
      | succ k => rw [hlater, hlaterA, hlaterB, hlevels]
    · simp only [hflatten, hflattenA, hflattenB, List.map_append, haccount, List.append_assoc]
      refine .append_left _ ((hperm.append_left _).trans ?_)
      exact List.perm_append_comm_assoc _ _ _

end

/-- The inputs that a propagation has on each level, as its history tells of them. -/
def Run.Reaches (r : Run History) (scene : Scene) (socket : String) (sources : List NodeId)
    (run : TriggerResult × Run History) (inputs : Nat → List Link) : Prop :=
  ∃ new layers left, run.2.seen.moments = new ++ r.seen.moments ∧
    deliveries r.seen.calls.length new.reverse = layers.flatten ∧
    Layered scene scene.limits.signalLevels (scene.entered r.state socket sources) layers left ∧
    inputs = levelInputs layers left

/-- A propagation out of some sources and more is made up of one out of the ones and one out of the others:
level by level it reaches what the two reach, and up to their order it exposes the same signals and fails
for the same reasons, those of limits apart. -/
def Run.MadeUp (r rA rB : Run History) (scene : Scene) (socket : String) (A B : List NodeId)
    (run runA runB : TriggerResult × Run History) : Prop :=
  ∃ inputs inputsA inputsB, r.Reaches scene socket (A ++ B) run inputs ∧
    rA.Reaches scene socket A runA inputsA ∧ rB.Reaches scene socket B runB inputsB ∧
    (∀ k, inputs k = inputsA k ++ inputsB k) ∧
    run.1.signals.Perm (runA.1.signals ++ runB.1.signals) ∧
    run.1.mishaps.Perm (runA.1.mishaps ++ runB.1.mishaps)

/-- What a propagation answers is told by its levels, if it is refused as well. -/
theorem Scene.exists_layered (scene : Scene) (levels : Nat) (socket : String) (sources : List NodeId)
    (provider : Option Provider) (r : Run History) :
    let run := (scene.calls .history (levels + 1)).propagate socket sources provider r
    ∃ new layers left, run.2.seen.moments = new ++ r.seen.moments ∧
      deliveries r.seen.calls.length new.reverse = layers.flatten ∧
      Layered scene scene.limits.signalLevels (scene.entered r.state socket sources) layers left ∧
      run.1.signals = layers.flatten.flatMap Delivery.signals ∧
      run.1.mishaps = (layers.flatten.filterMap (Delivery.failure? scene)).filter (!·.isLimit) := by
  intro run
  cases hrefused : refused? scene r.state sources with
  | some source =>
    have hrun : run = (⟨[], .empty, [.tooDeep source scene.limits.recursionDepth]⟩, r) :=
      propagateAt_of_refused socket sources provider r hrefused
    rw [hrun, entered_of_refused hrefused]
    exact ⟨[], [], [], rfl, rfl, .finished _, rfl, rfl⟩
  | none =>
    obtain ⟨ms, st, layers, left, h⟩ : ∃ ms st layers left,
        Propagated scene socket sources provider r run ms st layers left :=
      propagated_propagateAt (scene.tracked_calls levels) socket sources provider r hrefused
    obtain ⟨new, hmoments, hreports⟩ := h.reported
    obtain ⟨new', layers, left, hmoments', htold, hlayered, hfailures⟩ := h.breadthFirst
    obtain rfl : new = new' := List.append_cancel_right (hmoments.symm.trans hmoments')
    rw [entered_of_accepted hrefused]
    refine ⟨new, layers, left, hmoments, htold, hlayered, htold ▸ hreports.signals, ?_⟩
    rw [TriggerResult.mishaps, hfailures, failuresOf, List.filter_append]
    split_ifs <;> simp [Failure.isLimit]

section
variable (scene : Scene) (socket : String) (A B : List NodeId) (provider providerA providerB : Option Provider)
  {r rA rB : Run History} (hA : rA.state.nesting = r.state.nesting) (hB : rB.state.nesting = r.state.nesting)
include hA hB

/-- Propagations are additive over their sources, be they of the host or nested in a handler, and however
the reaches of the sources overlap. They start at the same nesting, each in a state of its own. -/
theorem Scene.propagations_additive :
    (∀ levels, scene.Stateless levels r.state.nesting → r.MadeUp rA rB scene socket A B
      ((scene.calls .history (levels + 1)).propagate socket (A ++ B) provider r)
      ((scene.calls .history (levels + 1)).propagate socket A providerA rA)
      ((scene.calls .history (levels + 1)).propagate socket B providerB rB)) ∧
    ∀ source sourceA sourceB, scene.Stateless scene.limits.allowance r.state.nesting →
      scene.sources socket source = A ++ B → scene.sources socket sourceA = A →
      scene.sources socket sourceB = B → r.MadeUp rA rB scene socket A B
        (scene.triggerSignal .history socket (some source) provider r)
        (scene.triggerSignal .history socket (some sourceA) providerA rA)
        (scene.triggerSignal .history socket (some sourceB) providerB rB) := by
  have hnested (levels : Nat) (hstateless : scene.Stateless levels r.state.nesting) :
      r.MadeUp rA rB scene socket A B
        ((scene.calls .history (levels + 1)).propagate socket (A ++ B) provider r)
        ((scene.calls .history (levels + 1)).propagate socket A providerA rA)
        ((scene.calls .history (levels + 1)).propagate socket B providerB rB) := by
    obtain ⟨new, layers, left, hseen, htold, hlayered, hsignals, hmishaps⟩ :=
      scene.exists_layered levels socket (A ++ B) provider r
    obtain ⟨newA, layersA, leftA, hseenA, htoldA, hlayeredA, hsignalsA, hmishapsA⟩ :=
      scene.exists_layered levels socket A providerA rA
    obtain ⟨newB, layersB, leftB, hseenB, htoldB, hlayeredB, hsignalsB, hmishapsB⟩ :=
      scene.exists_layered levels socket B providerB rB
    have hentered : scene.entered r.state socket (A ++ B) =
        scene.entered rA.state socket A ++ scene.entered rB.state socket B := by
      rw [entered_congr hA, entered_congr hB, entered_append]
    obtain ⟨hlevels, haccounts⟩ := hlayered.additive hstateless hlayeredA hlayeredB hentered
      (fun d hd => ⟨socket, _, provider, r, new, rfl, hseen, htold ▸ hd⟩)
      (fun d hd => ⟨socket, _, providerA, rA, newA, hA, hseenA, htoldA ▸ hd⟩)
      fun d hd => ⟨socket, _, providerB, rB, newB, hB, hseenB, htoldB ▸ hd⟩
    refine ⟨_, _, _, ⟨new, layers, left, hseen, htold, hlayered, rfl⟩,
      ⟨newA, layersA, leftA, hseenA, htoldA, hlayeredA, rfl⟩,
      ⟨newB, layersB, leftB, hseenB, htoldB, hlayeredB, rfl⟩, hlevels, ?_, ?_⟩
    · have hperm := haccounts.flatMap_right Delivery.Account.signals
      simpa only [List.flatMap_append, Delivery.flatMap_signals_account, ← hsignals, ← hsignalsA,
        ← hsignalsB] using hperm
    · have hperm := (haccounts.filterMap (Delivery.Account.failure? scene)).filter (!·.isLimit)
      simpa only [List.filterMap_append, List.filter_append, Delivery.filterMap_failure?_account,
        ← hmishaps, ← hmishapsA, ← hmishapsB] using hperm
  refine ⟨hnested, ?_⟩
  rintro source sourceA sourceB hstateless hsources rfl rfl
  have htrigger := hnested scene.limits.allowance hstateless
  rw [← hsources] at htrigger
  exact htrigger

end
/-! Registries whose handlers of signals keep no state. -/

/-- Whatever a script is answered, it forwards signals out of these outputs, exposes signals at these
sockets and has this outcome. -/
def Script.Amounts (script : Script) (forwards signals : List String) (outcome : Outcome Unit) : Prop :=
  ∀ operations outcome', script.Ends operations outcome' → operations.filterMap forwarded? = forwards ∧
    operations.filterMap signalled? = signals ∧ outcome' = outcome

namespace Script

variable {script : Script} {forwards signals : List String} {outcome : Outcome Unit}

theorem amounts_done (outcome : Outcome Unit) : (done outcome).Amounts [] [] outcome := by
  intro operations outcome' hends
  cases hends with
  | done => exact ⟨rfl, rfl, rfl⟩
  | step leads => cases leads

/-- What an operation adds, if whatever it is answered makes no difference. -/
theorem Amounts.of_leads (hscript : ∀ outcome, script ≠ .done outcome)
    (h : ∀ rest, script.Leads rest → rest.Amounts forwards signals outcome) :
    script.Amounts (script.forwarded?.toList ++ forwards) (script.signalled?.toList ++ signals) outcome := by
  intro operations outcome' hends
  cases hends with
  | done => exact absurd rfl (hscript outcome')
  | step leads ends =>
    obtain ⟨rfl, rfl, houtcome⟩ := h _ leads _ _ ends
    rw [List.filterMap_cons, List.filterMap_cons]
    refine ⟨?_, ?_, houtcome⟩
    · cases script.forwarded? <;> rfl
    · cases script.signalled? <;> rfl

end Script

/-- The handler of signals always does the same for the same node, attributes and input. -/
def Component.Stateless (c : Component) : Prop :=
  ∀ handler, c.signal = some handler → ∀ a socket, ∃ forwards signals outcome,
    (handler a socket).Amounts forwards signals outcome

/-- Without a handler of its own, a component with the usual behaviour exposes the signals of an exposed
input, whatever has happened before. -/
theorem NodeComponent.stateless_component (c : NodeComponent) (hc : c.signal = none) :
    c.component.Stateless := by
  rintro handler ⟨⟩ a socket
  rw [signalScript, hc]
  dsimp only
  split_ifs
  · refine ⟨[], [socket], .ok (), .of_leads nofun fun rest hrest => ?_⟩
    cases hrest
    exact Script.amounts_done _
  · exact ⟨[], [], .ok (), Script.amounts_done _⟩

def Registry.Stateless (registry : Registry) : Prop :=
  ∀ name c, registry.get? name = some c → c.Stateless

theorem Registry.stateless_ofComponents {cs : List Component} (h : ∀ c ∈ cs, c.Stateless) :
    (ofComponents cs).Stateless := fun _ c hget => h c (mem_of_get?_ofComponents hget)

theorem Registry.Stateless.amounts {scene : Scene} (h : scene.registry.Stateless) {link : Link}
    {script : Script} (hscript : scene.script? link = some script) :
    ∃ forwards signals outcome, script.Amounts forwards signals outcome := by
  obtain ⟨info, -, hrest⟩ := Option.bind_eq_some_iff.1 hscript
  obtain ⟨c, hc, hrest⟩ := Option.bind_eq_some_iff.1 hrest
  obtain ⟨handler, hhandler, hrest⟩ := Option.bind_eq_some_iff.1 hrest
  exact Option.some.inj hrest ▸ h info.component c hc handler hhandler _ _

/-- A scene keeps no state if the handlers of its registry do not. -/
theorem Registry.Stateless.scene {scene : Scene} (h : scene.registry.Stateless) (levels nesting : Nat) :
    scene.Stateless levels nesting := by
  have hobeys {d : Delivery} (hd : scene.Makes levels nesting d) : d.Obeys scene := by
    obtain ⟨socket, sources, provider, r, new, -, hseen, hmem⟩ := hd
    obtain ⟨new', hseen', hnew⟩ := scene.propagations_obey levels socket sources provider r
    obtain rfl : new = new' := List.append_cancel_right (hseen.symm.trans hseen')
    exact hnew d hmem
  intro d d' hd hd' hlink
  have hfirst := hobeys hd
  have hsecond := hobeys hd'
  rw [Delivery.Obeys, hlink] at hfirst
  rw [Delivery.Obeys] at hsecond
  unfold Delivery.account Delivery.forwards Delivery.signals
  cases hscript : scene.script? d'.link with
  | none =>
    rw [hscript] at hfirst hsecond
    rw [hfirst.1, hfirst.2, hsecond.1, hsecond.2, hlink]
  | some script =>
    rw [hscript] at hfirst hsecond
    obtain ⟨forwards, signals, outcome, hamounts⟩ := h.amounts hscript
    obtain ⟨o, ho, hends⟩ := hfirst
    obtain ⟨o', ho', hends'⟩ := hsecond
    obtain ⟨hforwards, hsignals, rfl⟩ := hamounts _ _ hends
    obtain ⟨hforwards', hsignals', rfl⟩ := hamounts _ _ hends'
    rw [hforwards, hforwards', hsignals, hsignals', ho, ho', hlink]

/-- A node that asks for an input, tells of every signal and passes it on, and then fails whatever it has got.
-/
def relayComponent : Component :=
  ⟨"relay", [], none, some fun a socket => .fetch "x" fun _ => .exposeSignal socket
    (.forward "o" (.fail (.handler a.node a.component "no room")))⟩

def lampComponent : NodeComponent := .plain "lamp" [⟨"on", signalType, .input, true, false, none⟩]

theorem stateless_relayComponent : relayComponent.Stateless := by
  rintro handler ⟨⟩ a socket
  let failed : Outcome Unit := .error (.handler a.node a.component "no room")
  have hforward : (Script.forward "o" (.done failed)).Amounts ["o"] [] failed := by
    refine .of_leads nofun fun rest hrest => ?_
    cases hrest
    exact Script.amounts_done failed
  have hsignal : (Script.exposeSignal socket (.forward "o" (.done failed))).Amounts ["o"] [socket] failed := by
    refine .of_leads nofun fun rest hrest => ?_
    cases hrest
    exact hforward
  refine ⟨["o"], [socket], failed, .of_leads nofun fun rest hrest => ?_⟩
  cases hrest
  exact hsignal

/-- Two sources that reach the same node on the same level; from there a signal goes round, to a lamp and to
a node without a component. -/
def meetingScene : Scene :=
  let calls : List BuildCall := [.node "a" "relay" .null, .node "b" "relay" .null, .node "c" "relay" .null,
    .node "d" "lost" .null, .node "l" "lamp" .null, .connectSignal ⟨"a", "o"⟩ ⟨"c", "i"⟩,
    .connectSignal ⟨"b", "o"⟩ ⟨"c", "j"⟩, .connectSignal ⟨"b", "o"⟩ ⟨"c", "i"⟩,
    .connectSignal ⟨"c", "o"⟩ ⟨"a", "i"⟩, .connectSignal ⟨"c", "o"⟩ ⟨"l", "on"⟩,
    .connectSignal ⟨"c", "o"⟩ ⟨"d", "i"⟩, .trigger "relay" "o" "a", .trigger "relay" "o" "b"]
  let registry := .ofComponents [relayComponent, lampComponent.component]
  ⟨Builder.run registry calls, registry, ⟨20, 3⟩⟩

/-- Both sources reach the shared node, one of them twice, and the trigger on both interleaves what the two
triggers expose; each of the three is cut. -/
theorem propagations_additive_meeting :
    let r : Run History := ⟨.fresh, .empty, [], []⟩
    let run source := meetingScene.triggerSignal .history "o" (some source) none r
    r.MadeUp r r meetingScene "o" ["a"] ["b"] (run (.component "relay")) (run (.node "a"))
        (run (.node "b")) ∧
      (run (.component "relay")).1.signals.map Link.node =
        ["c", "c", "c", "a", "l", "a", "l", "a", "l", "c", "c", "c"] ∧
      (run (.node "a")).1.signals.map Link.node = ["c", "a", "l", "c"] ∧
      (run (.node "b")).1.signals.map Link.node = ["c", "c", "a", "l", "a", "l", "c", "c"] ∧
      (run (.component "relay")).1.failures.getLast?.map Failure.kind = some "SignalLevelLimitExceeded" := by
  refine ⟨?_, by decide +kernel, by decide +kernel, by decide +kernel, by decide +kernel⟩
  have hstateless : meetingScene.registry.Stateless := Registry.stateless_ofComponents <|
    List.forall_mem_cons.2 ⟨stateless_relayComponent,
      List.forall_mem_singleton.2 (lampComponent.stateless_component rfl)⟩
  exact (Scene.propagations_additive meetingScene "o" ["a"] ["b"] none none none rfl rfl).2
    (.component "relay") (.node "a") (.node "b") (hstateless.scene _ _) (by decide +kernel) rfl rfl

end SocketGraph
