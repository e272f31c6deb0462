import SocketGraph.Proofs.Faithfulness

/-! The transparency of caches. Whatever an evaluation without caches answers, the engine answers,
whichever calls of the host have filled its caches before. -/
namespace SocketGraph

/-- The value of an exposed socket: what its node exposes there, or else its output. -/
def Scene.recomputeValue (scene : Scene) (levels : Nat) (provider : Option Provider) (node : NodeId)
    (socket : String) : Outcome (Option Value) :=
  match scene.tables.exposed.socket? node socket with
  | none => .error (.notExposed node socket)
  | some _ => do
    let y ← scene.recompute levels (.host provider) node (some socket)
    pure ((y.exposed.get? socket).or (y.pushed.get? socket))

/-- What a node exposes. -/
def Scene.recomputeNode (scene : Scene) (levels : Nat) (provider : Option Provider) (node : NodeId) :
    Outcome (Table Value) :=
  Yield.exposed <$> scene.recompute levels (.host provider) node none

/-- A call of a host that pulls values or brackets other calls. -/
inductive PullCall
  | beginCycle
  | endCycle
  | requestValue (node : NodeId) (socket : String)
  | updateNode (node : NodeId)

namespace PullCall

def hostCall (provider : Option Provider) : PullCall → HostCall
  | .beginCycle => .beginCycle
  | .endCycle => .endCycle
  | .requestValue node socket => .requestValue node socket provider
  | .updateNode node => .updateNode node provider

/-- The answer without caches, for which no other call matters. -/
def recompute (scene : Scene) (provider : Option Provider) : PullCall → Outcome Answer
  | .beginCycle | .endCycle => .ok .none
  | .requestValue node socket =>
    (.value ∘ .ok) <$> scene.recomputeValue scene.limits.allowance provider node socket
  | .updateNode node =>
    (.exposed ∘ .ok) <$> scene.recomputeNode scene.limits.allowance provider node

end PullCall

/-- Whether an answer is a failure. -/
def Answer.failed : Answer → Bool
  | .done outcome => !outcome.isOk
  | .value outcome => !outcome.isOk
  | .exposed outcome => !outcome.isOk
  | .none | .result _ => false

/-- The vantage from outside of all evaluations. -/
def Vantage.host (levels : Nat) (provider : Option Provider) (stack : FrameStack) : Vantage :=
  ⟨levels, fun _ => .host provider, stack, 0⟩

section
variable {ω α : Type} {scene : Scene} {watch : Watcher ω} {levels : Nat}
  {provider : Option Provider} {stack : FrameStack} {r : Run ω}

theorem finds_reportFailure {v : Vantage} {x : Action ω (Outcome α)} {expected : Nat → Outcome α}
    (node : NodeId) (socket : String) (hx : Finds scene v r x expected) (h : v.Holds scene r) :
    Finds scene v r (x >>= reportFailure watch node socket) expected := by
  refine Meets.bind hx (fun _ hb => ⟨_, hb⟩) (fun e _ => ⟨e, rfl⟩) ?_ h
  intro a r' _ h'
  refine Meets.succeed h' ?_
  rintro m b - ⟨hb, b', hb', rfl, -⟩
  exact Except.ok.inj (hb.symm.trans hb')

variable (hsteady : scene.registry.Steady) (hstack : stack.Bracketed)
include hsteady hstack

theorem finds_requestValue (node : NodeId) (socket : String)
    (h : (Vantage.host levels provider stack).Holds scene r) :
    Finds scene (.host levels provider stack) r (scene.requestValue watch node socket provider)
      fun m => scene.recomputeValue m provider node socket := by
  unfold Scene.requestValue Scene.recomputeValue
  cases scene.tables.exposed.socket? node socket with
  | none => exact Meets.skip rfl (Meets.fail fun _ hb => (nomatch hb))
  | some _ =>
    refine Meets.skip rfl (finds_reportFailure node socket ?_ (h.congr rfl))
    refine Meets.between (h.congr rfl) (fun _ _ => rfl) rfl rfl fun h' => ?_
    have hsited := FrameStack.Sited.hosted scene provider hstack
    refine Meets.bind ((faithful_hostCalls watch hsteady).evaluate node (some socket) rfl hsited h')
      ?_ (fun e _ => ⟨e, rfl⟩) ?_ h'
    · intro m b _ hb
      obtain ⟨y, hy, -⟩ := Outcome.bind_eq_ok.1 hb
      exact ⟨y, hy⟩
    · intro exposed r' _ h'
      refine Meets.readStack (Meets.succeed h' ?_)
      rintro m b - ⟨hb, y, hy, ⟨rfl, hkept⟩, -⟩
      obtain ⟨z, hz, hb⟩ := Outcome.bind_eq_ok.1 hb
      obtain rfl := Except.ok.inj (hy.symm.trans hz)
      have hout : r'.state.stack.output? (stack.height + 1) ⟨node, socket⟩ = y.pushed.get? socket :=
        hkept socket rfl
      exact (Except.ok.inj hb).symm.trans (congrArg (y.exposed.get? socket).or hout.symm)

theorem finds_updateNode (node : NodeId) (h : (Vantage.host levels provider stack).Holds scene r) :
    Finds scene (.host levels provider stack) r (scene.updateNode watch node provider)
      fun m => scene.recomputeNode m provider node := by
  refine finds_reportFailure node "*" ?_ h
  refine Meets.between h (fun _ _ => rfl) rfl rfl fun h' => ?_
  have hsited := FrameStack.Sited.hosted scene provider hstack
  refine ((faithful_hostCalls watch hsteady).evaluate node none rfl hsited h').translate ?_
  intro m b _ hb
  obtain ⟨y, hy, rfl⟩ := Outcome.map_eq_ok.1 hb
  exact ⟨y, hy, fun hright => hright.1⟩

end

/-- A state between pull calls with sound caches: no handler is at work, and every frame stands for what
the provider answers. -/
structure EngineState.Settled (scene : Scene) (provider : Option Provider) (st : EngineState) : Prop
    extends st.Resting where
  sound : Sound scene scene.limits.allowance (fun _ => .host provider) st

/-- An engine is active for a scene, between pull calls with sound caches. -/
def Session.Settled {ω : Type} (scene : Scene) (provider : Option Provider) (s : Session ω) : Prop :=
  s.engine.scene scene.tables = scene ∧
    ∃ st : EngineState, s.engine.active = some (scene.tables, st) ∧ st.Settled scene provider

namespace EngineState.Settled

variable {ω α : Type} {scene : Scene} {provider : Option Provider} {st : EngineState}

theorem fresh (scene : Scene) (provider : Option Provider) :
    EngineState.fresh.Settled scene provider := ⟨⟨.empty, rfl⟩, .fresh _ _ _⟩

theorem openFrame (h : st.Settled scene provider) : st.openFrame.Settled scene provider :=
  ⟨⟨h.bracketed.push, h.nesting⟩, h.sound.push true none⟩

theorem closeFrame (h : st.Settled scene provider) : st.closeFrame.Settled scene provider :=
  ⟨⟨h.bracketed.pop, h.nesting⟩, h.sound.pop⟩

/-- An action that finds what is expected leaves a settled state, and fails only if no level of nesting
is allowed at all. -/
theorem run {x : Action ω (Outcome α)} {expected : Nat → Outcome α} {r : Run ω}
    (h : r.state.Settled scene provider)
    (hx : Finds scene (.host scene.limits.allowance provider r.state.stack) r x expected)
    (hzero : ∀ {b}, expected 0 ≠ .ok b) :
    ((x r).1.isOk → (x r).2.state.Settled scene provider) ∧
      ∀ {b}, expected scene.limits.allowance = .ok b → (x r).1 = .ok b := by
  cases ha : (x r).1 with
  | ok a =>
    refine ⟨fun _ => ?_, fun hb => ?_⟩
    · obtain ⟨hshape, hnesting, hsound⟩ := hx.holds ha
      exact ⟨⟨h.bracketed.congr hshape.symm, hnesting⟩, hsound⟩
    · exact congrArg Except.ok (hx.right ha (Nat.le_refl _) hb).1.symm
  | error e =>
    refine ⟨nofun, fun {b} hb => ?_⟩
    have hdepth : scene.limits.recursionDepth ≤ 0 + scene.limits.allowance :=
      hx.fails ha (Nat.le_refl _) hb
    have hnone : scene.limits.allowance = 0 := by
      unfold Limits.allowance at hdepth ⊢
      omega
    exact absurd (hnone ▸ hb) hzero

end EngineState.Settled

theorem Scene.recompute_zero_ne_ok (scene : Scene) (site : Site) (node : NodeId)
    (requested : Option String) (y : Yield) : scene.recompute 0 site node requested ≠ .ok y := by
  intro hy
  obtain ⟨_, _, _, h, -⟩ := Scene.recompute_eq_ok.1 hy
  exact nomatch h

section
variable {ω α : Type} {scene : Scene} {watch : Watcher ω} {provider : Option Provider}
  {s : Session ω}

theorem Session.Settled.changeState (h : s.Settled scene provider) (operation : String)
    {change : EngineState → EngineState}
    (hchange : ∀ {st : EngineState}, st.Settled scene provider →
      (change st).Settled scene provider) :
    (Host.changeState watch operation change s).2.Settled scene provider := by
  obtain ⟨hscene, st, hactive, hst⟩ := h
  rw [Host.changeState_apply, hactive]
  exact ⟨hscene, change st, rfl, hchange hst⟩

theorem Session.Settled.whileActive (h : s.Settled scene provider) (watch : Watcher ω)
    (operation : String) (body : Scene → Action ω (Outcome α)) (expected : Nat → Outcome α)
    (hbody : ∀ {stack : FrameStack} {r : Run ω}, stack.Bracketed →
      (Vantage.host scene.limits.allowance provider stack).Holds scene r →
      Finds scene (.host scene.limits.allowance provider stack) r (body scene) expected)
    (hzero : ∀ {b}, expected 0 ≠ .ok b) :
    ((Host.whileActive watch operation body s).1.isOk →
      (Host.whileActive watch operation body s).2.Settled scene provider) ∧
      ∀ {b}, expected scene.limits.allowance = .ok b →
        (Host.whileActive watch operation body s).1 = .ok b := by
  obtain ⟨hscene, st, hactive, hst⟩ := h
  have hrun := EngineState.Settled.run (r := ⟨st, s.counters, s.seen⟩) hst
    (hbody hst.bracketed ⟨rfl, hst.nesting, hst.sound⟩) hzero
  rw [Host.whileActive_apply, hactive]
  dsimp only
  rw [hscene]
  exact ⟨fun ha => ⟨hscene, _, rfl, hrun.1 ha⟩, hrun.2⟩

/-- One call on a settled engine. -/
theorem PullCall.perform_settled (watch : Watcher ω) (hsteady : scene.registry.Steady)
    (h : s.Settled scene provider) (call : PullCall) :
    (((call.hostCall provider).perform watch s).1.failed = false →
      ((call.hostCall provider).perform watch s).2.Settled scene provider) ∧
    ∀ {answer}, call.recompute scene provider = .ok answer →
      ((call.hostCall provider).perform watch s).1 = answer := by
  cases call with
  | beginCycle =>
    exact ⟨fun _ => h.changeState _ .openFrame, fun hanswer => Except.ok.inj hanswer⟩
  | endCycle =>
    exact ⟨fun _ => h.changeState _ .closeFrame, fun hanswer => Except.ok.inj hanswer⟩
  | requestValue node socket =>
    have hzero {b : Option Value} : scene.recomputeValue 0 provider node socket ≠ .ok b := by
      unfold Scene.recomputeValue
      intro hb
      split at hb
      · exact nomatch hb
      · obtain ⟨y, hy, -⟩ := Outcome.bind_eq_ok.1 hb
        exact scene.recompute_zero_ne_ok _ _ _ y hy
    obtain ⟨hsettled, hvalue⟩ := h.whileActive watch "request a value"
      (·.requestValue watch node socket provider) (scene.recomputeValue · provider node socket)
      (finds_requestValue hsteady · node socket) hzero
    refine ⟨fun hsucceeds => hsettled (Bool.not_eq_eq_eq_not.1 hsucceeds), fun hanswer => ?_⟩
    obtain ⟨b, hb, rfl⟩ := Outcome.map_eq_ok.1 hanswer
    exact congrArg Answer.value (hvalue hb)
  | updateNode node =>
    have hzero {b : Table Value} : scene.recomputeNode 0 provider node ≠ .ok b := by
      intro hb
      obtain ⟨y, hy, -⟩ := Outcome.map_eq_ok.1 hb
      exact scene.recompute_zero_ne_ok _ _ _ y hy
    obtain ⟨hsettled, hexposed⟩ := h.whileActive watch "update a node"
      (·.updateNode watch node provider) (scene.recomputeNode · provider node)
      (finds_updateNode hsteady · node) hzero
    refine ⟨fun hsucceeds => hsettled (Bool.not_eq_eq_eq_not.1 hsucceeds), fun hanswer => ?_⟩
    obtain ⟨b, hb, rfl⟩ := Outcome.map_eq_ok.1 hanswer
    exact congrArg Answer.exposed (hexposed hb)

/-- Calls on a settled engine, one after another. -/
theorem PullCall.performAll_settled (hsteady : scene.registry.Steady) (h : s.Settled scene provider)
    {calls : List PullCall} {k : Nat} {call : PullCall} (hcall : calls[k]? = some call)
    (hearlier : ∀ a ∈ (HostCall.performAll watch (calls.map (·.hostCall provider)) s).1.take k,
      a.failed = false)
    {answer : Answer} (hanswer : call.recompute scene provider = .ok answer) :
    (HostCall.performAll watch (calls.map (·.hostCall provider)) s).1[k]? = some answer := by
  induction calls generalizing k s with
  | nil => exact nomatch hcall
  | cons first rest ih =>
    obtain ⟨hsettled, hgives⟩ := first.perform_settled watch hsteady h
    cases k with
    | zero =>
      obtain rfl := Option.some.inj hcall
      exact congrArg some (hgives hanswer)
    | succ k =>
      refine ih (hsettled (hearlier _ ?_)) hcall (fun a ha => hearlier a ?_)
      · exact List.mem_cons_self
      · exact List.mem_cons_of_mem _ ha

/-- Whatever an evaluation without caches answers to a call, the engine answers as well, whichever
calls have been made before since its activation, as long as none of these has failed. -/
theorem pulls_transparent (watch : Watcher ω) (tables : Tables) (provider : Option Provider)
    (s : Session ω) (hfresh : s.engine.active = some (tables, .fresh))
    (hsteady : s.engine.registry.Steady) (calls : List PullCall) (k : Nat) (call : PullCall)
    (hcall : calls[k]? = some call)
    (hearlier : ∀ a ∈ (HostCall.performAll watch (calls.map (·.hostCall provider)) s).1.take k,
      a.failed = false)
    (answer : Answer) (hanswer : call.recompute (s.engine.scene tables) provider = .ok answer) :
    (HostCall.performAll watch (calls.map (·.hostCall provider)) s).1[k]? = some answer := by
  have hsettled : s.Settled (s.engine.scene tables) provider :=
    ⟨rfl, .fresh, hfresh, .fresh _ provider⟩
  exact PullCall.performAll_settled hsteady hsettled hcall hearlier hanswer

end

/-- A gateway, a component that pushes a number, and one that exposes twice the number it fetches. -/
def doublingComponents : List Component :=
  let five : Program := [.push "v" (.literal (.int 5))]
  let double : Program := [.fetch "i" "x", .expose "o" (.sum [.var "x", .var "x"])]
  [Gateway.component, NodeComponent.component ⟨"five", [], some five.script, none, none⟩,
    NodeComponent.component
      ⟨"double", [{ Socket.input "i" "Any" with exposed := true }], some double.script, none, none⟩]

/-- The tables of a gateway to a node that doubles the number of a node outside. -/
def doublingTables : Tables :=
  let pairings : Value := .object [("i", Link.toValue ⟨"e", "i"⟩), ("o", Link.toValue ⟨"e", "o"⟩)]
  let nodes : Table NodeInfo := .ofList [("n", ⟨"five", .empty⟩), ("e", ⟨"double", .empty⟩),
    ("g", ⟨Gateway.name, Table.empty.insert Gateway.pairingAttribute pairings⟩)]
  let edges : Table (List Link) := Table.empty.insert (socketKey "g" "i") [⟨"n", "v"⟩]
  ⟨⟨Table.empty.insert (socketKey "g" "o") ⟨"g", "o", "Any", Gateway.name⟩, .empty⟩,
    ⟨nodes, edges, .empty⟩⟩

/-- A session right after an activation with these tables. -/
def doublingSession : Session Unit :=
  ⟨⟨.ofComponents doublingComponents, ⟨20, 20⟩, none, some (doublingTables, .fresh)⟩, .empty, ()⟩

/-- A request that is made twice within a bracket. -/
def doublingCalls : List PullCall :=
  [.beginCycle, .requestValue "g" "o", .requestValue "g" "o"]

theorem steady_doublingComponents : (Registry.ofComponents doublingComponents).Steady := by
  refine Registry.steady_ofComponents fun c hc => ?_
  rcases List.mem_cons.1 hc with rfl | hc
  · exact .inl rfl
  rcases List.mem_cons.1 hc with rfl | hc
  · refine .inr (NodeComponent.steady_of_isPlain rfl ?_)
    rintro handler ⟨⟩
    exact ⟨_, rfl, rfl⟩
  · obtain rfl := List.eq_of_mem_singleton hc
    refine .inr (NodeComponent.steady_of_isPlain rfl ?_)
    rintro handler ⟨⟩
    exact ⟨_, rfl, rfl⟩

/-- The second request finds sound caches and is answered with the same number. -/
theorem pulls_transparent_doubling :
    let calls := doublingCalls.map (·.hostCall none)
    (HostCall.performAll .silent calls doublingSession).1[2]? =
      some (.value (.ok (some (.int 10)))) := by
  have hearlier : ∀ a ∈ (HostCall.performAll .silent (doublingCalls.map (·.hostCall none))
      doublingSession).1.take 2, a.failed = false := by decide +kernel
  have hanswer : PullCall.recompute (doublingSession.engine.scene doublingTables) none
      (.requestValue "g" "o") = .ok (.value (.ok (some (.int 10)))) := rfl
  exact pulls_transparent .silent doublingTables none doublingSession rfl
    steady_doublingComponents doublingCalls 2 (.requestValue "g" "o") rfl hearlier _ hanswer

end SocketGraph
