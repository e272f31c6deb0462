import SocketGraph.Proofs.Repetition
import SocketGraph.Proofs.Surroundings

/-! Nested gateways compose. However scenes are linked inside of each other, whoever is asked for a socket on a
frame passes the question out of one scene after another. -/
namespace SocketGraph

section
variable {ω : Type} (scene : Scene) (watch : Watcher ω) (below : Calls ω)

/-- What is answered from outside for a socket: the first of the bindings around that pairs it answers with a
socket of its gateway; if none does, the host is asked, if there is one. -/
def answerFrom (around : List (Nat × Binding)) (host : Option Provider) (l : Link) :
    Action ω (Outcome (Option Value)) :=
  match around.findSome? fun e => (e.2.pairings.socketFor? l).map fun own => (e, own) with
  | some ((i, b), own) => do
    Action.note watch (.paired i b l own)
    fetchInput scene watch below b.caller own
  | none =>
    match host with
    | none => pure (.ok none)
    | some p => do
      let answer ← askHost watch p l
      pure (.ok answer)

/-- The binding of the innermost scene decides if it pairs the socket. -/
theorem answerFrom_cons (i : Nat) (b : Binding) (around : List (Nat × Binding)) (host : Option Provider)
    (l : Link) : answerFrom scene watch below ((i, b) :: around) host l =
      match b.pairings.socketFor? l with
      | some own => do
        Action.note watch (.paired i b l own)
        fetchInput scene watch below b.caller own
      | none => answerFrom scene watch below around host l := by
  unfold answerFrom
  rw [List.findSome?_cons]
  cases b.pairings.socketFor? l <;> rfl

end

section
variable {ω : Type} {scene : Scene} {watch : Watcher ω} {i base : Nat} {l : Link} {r : Run ω}

/-- A question to a gateway goes on from the frame of the gateway. -/
theorem provide_of_gateway (levels : Nat) (hbound : r.state.stack.Bound) {b : Binding}
    (hb : r.state.stack.provider? i = some (.gateway b)) :
    provide scene watch (scene.calls watch levels) i l r =
      match b.pairings.socketFor? l with
      | some own => (do
          Action.note watch (.paired i b l own)
          fetchInput scene watch (scene.calls watch levels) b.caller own : Action ω _) r
      | none => provide scene watch (scene.calls watch levels) b.caller l r := by
  have hlower : b.caller < i := hbound.caller_lt hb
  rw [provide, lookupWithin, Action.readStack_bind_apply, hb]
  dsimp only
  cases b.pairings.socketFor? l with
  | none =>
    dsimp only
    rw [lookupWithin_eq_lookupOver]
    exact scene.lookups_descend watch levels _ hbound hlower l
  | some own =>
    have hbelow (j : Nat) (node : NodeId) (requested : Option String) :=
      Likeness.agree_evaluate scene watch levels r.state.nesting j node requested
    have hlookup (socket : Link) : (Likeness.bound watch).Agree r.state.nesting
        (lookupWithin scene watch (scene.calls watch levels) i b.caller socket)
        (provide scene watch (scene.calls watch levels) b.caller socket) := by
      rw [provide, lookupWithin_eq_lookupOver, lookupWithin_eq_lookupOver]
      exact Likeness.agree_lookupOver scene hbelow _ _ i _ b.caller hlower (Nat.lt_succ_self _) socket
    have hfetch : (Likeness.bound watch).Agree r.state.nesting
        (fetchWith scene watch (scene.calls watch levels)
          (lookupWithin scene watch (scene.calls watch levels) i) b.caller own)
        (fetchInput scene watch (scene.calls watch levels) b.caller own) :=
      Likeness.agree_fetchWith (hbelow b.caller) hlookup own
    obtain ⟨hanswer, ⟨hrun, -⟩, -⟩ := hfetch (Action.note watch (.paired i b l own) r).2 _ ⟨rfl, hbound⟩ rfl
    exact Prod.ext hanswer hrun

/-- Whoever is asked for a socket during a call: the question goes from scene to scene until a gateway pairs the
socket or the host is reached. -/
theorem provide_eq_answerFrom (levels : Nat) {host : Option Provider}
    (hstaffed : r.state.stack.Staffed base host) (hgrounded : r.state.stack.Grounded base)
    (hi : i < r.state.stack.height) :
    provide scene watch (scene.calls watch levels) i l r =
      answerFrom scene watch (scene.calls watch levels) (r.state.stack.enclosing i)
        (if base < i then host else none) l r := by
  induction i using Nat.strong_induction_on with
  | h i ih =>
    have hprovider := FrameStack.provider?_of_binding? hstaffed hgrounded hi
    rw [FrameStack.enclosing_of_binding? hstaffed hgrounded hi]
    cases hb : r.state.stack.binding? i with
    | some b =>
      obtain ⟨hbase, hlower⟩ := FrameStack.caller_of_binding? hstaffed hgrounded hi hb
      rw [hb] at hprovider
      have hnext := ih b.caller hlower (Nat.lt_trans hlower hi)
      rw [if_pos hbase] at hnext
      dsimp only
      rw [provide_of_gateway levels hstaffed.bound hprovider, if_pos (Nat.lt_trans hbase hlower),
        answerFrom_cons, hnext]
      cases b.pairings.socketFor? l <;> rfl
    | none =>
      rw [hb] at hprovider
      dsimp only at hprovider ⊢
      by_cases hbase : base < i
      · rw [if_pos hbase] at hprovider ⊢
        rw [provide, lookupWithin, Action.readStack_bind_apply, hprovider]
        cases host <;> rfl
      · rw [if_neg hbase] at hprovider ⊢
        rw [provide, lookupWithin, Action.readStack_bind_apply, hprovider]
        rfl

end

/-- The socket that answers for a target is the smallest one that is paired with it. -/
theorem Pairings.socketFor?_eq_some_iff {p : Pairings} {target : Link} {own : String} :
    p.socketFor? target = some own ↔
      p.get? own = some target ∧ ∀ socket, p.get? socket = some target → own ≤ socket := by
  have hascending := p.ascending_socketsFor target
  simp only [← Pairings.mem_socketsFor, socketFor?]
  cases hsockets : p.socketsFor target with
  | nil => simp
  | cons first rest =>
    rw [hsockets] at hascending
    obtain ⟨hfirst, -⟩ := List.pairwise_cons.1 hascending
    have hleast (socket : String) (h : socket ∈ first :: rest) : first ≤ socket := by
      rcases List.mem_cons.1 h with rfl | h
      · exact String.le_refl _
      · exact Std.le_of_lt (hfirst socket h)
    rw [List.head?_cons, Option.some.injEq]
    constructor
    · rintro rfl
      exact ⟨List.mem_cons_self, hleast⟩
    · rintro ⟨hmem, hle⟩
      exact String.le_antisymm (hleast own hmem) (hle first List.mem_cons_self)

/-- The frame that a step is taken on, if it is taken on one. -/
def Step.frame? : Step → Option Nat
  | .skipped i _ | .started i _ | .performed i _ _ | .finished i _ _ | .delivered i _ | .paired i _ _ _ => some i
  | .changed => none

/-- That gateways can be reached from wherever a step is taken is a law of all sessions. -/
def Law.served {registry : Registry} (pairs : Activation → Pairings → Prop)
    (links : ∀ {tables limits c a}, Scene.Instance ⟨tables, registry, limits⟩ c a → c.Links pairs a) :
    Law registry where
  pairs := pairs
  state _ := True
  moment m := (∀ i, m.step.frame? = some i → i < m.state.stack.height ∧
    m.state.stack.Served pairs m.calls i) ∧ m.StartsApart
  links := links
  fresh := trivial
  transition _ _ := trivial
  changed _ := ⟨nofun, nofun⟩
  step _ hs := by
    cases hs with
    | skipped node ready shows =>
      refine ⟨?_, nofun⟩
      rintro _ ⟨⟩
      exact ⟨ready.present, ready.served⟩
    | delivered link ready shows =>
      refine ⟨?_, nofun⟩
      rintro _ ⟨⟩
      exact ⟨ready.present, ready.served⟩
    | started nested ready shows made =>
      constructor
      · rintro _ ⟨⟩
        exact ⟨ready.present, ready.served⟩
      · rintro _ _ ⟨⟩
        exact ready.apart
    | performed script ready shows made =>
      refine ⟨?_, nofun⟩
      rintro _ ⟨⟩
      exact ⟨ready.present, (ready.cons _).served⟩
    | finished outcome ready shows =>
      refine ⟨?_, nofun⟩
      rintro _ ⟨⟩
      exact ⟨ready.present, (ready.cons _).served⟩
    | paired served provider answers shows =>
      refine ⟨?_, nofun⟩
      rintro _ ⟨⟩
      obtain ⟨j, hj, -⟩ := FrameStack.exists_of_readThrough provider
      exact ⟨(FrameStack.mem_lineage.1 hj).1, served⟩

/-- All the gateways around a frame that is served answer for it, each on the frame of the next scene. -/
theorem Moment.answered_enclosing {m : Moment} {base i : Nat} {host : Option Provider}
    (hstaffed : m.state.stack.Staffed base host) (hgrounded : m.state.stack.Grounded base)
    (hi : i < m.state.stack.height)
    (hserved : m.state.stack.Served (fun a p => Gateway.pairings a.attributes = .ok p) m.calls i) :
    ∀ e ∈ m.state.stack.enclosing i, ∃ g, m.AnsweredBy e.1 e.2 g := by
  induction i using Nat.strong_induction_on with
  | h i ih =>
    have hprovider := FrameStack.provider?_of_binding? hstaffed hgrounded hi
    rw [FrameStack.enclosing_of_binding? hstaffed hgrounded hi]
    cases hb : m.state.stack.binding? i with
    | none => exact nofun
    | some b =>
      rw [hb] at hprovider
      obtain ⟨hlower, g, hg, hframe, hscene, hactive, hp⟩ := hserved.answers b hprovider
      have hready := hserved.caller b hprovider
      exact List.forall_mem_cons.2
        ⟨⟨g, hprovider, hg, hframe, hscene, hactive, hp⟩, ih b.caller hlower hready.present hready.served⟩

/-- Whoever is asked on a frame, the question goes out of one scene after another, and in the end to the host;
below the frames of the call nobody answers. -/
def EngineState.AnswersOutward (st : EngineState) (base : Nat) (host : Option Provider) : Prop :=
  ∀ {ω : Type} (scene : Scene) (watch : Watcher ω) (levels i : Nat) (l : Link) (r : Run ω), r.state = st →
    i < st.stack.height → provide scene watch (scene.calls watch levels) i l r =
      answerFrom scene watch (scene.calls watch levels) (st.stack.enclosing i) (if base < i then host else none)
        l r

/-- Gateways compose at every depth. In all moments of a call of the host, whoever is asked for a socket on a
frame: the innermost of the bindings around the frame that pairs the socket answers, with a fetch of the smallest
paired socket on the frame of its gateway; if none of them does, the provider of this call answers, or nobody if
the call has none. Frames that were open before the call belong to no call, and between the calls nobody answers.
If scenes are linked by gateways alone, then on a frame on which a step is taken, all the bindings around are
those of gateways at work, each of which has opened its scene and is the innermost active node of its frame. -/
theorem nested_gateways_compose (registry : Registry) (limits : Limits) (calls : List HostCall) :
    let s := Session.recorded registry limits calls
    (∀ (p : Pairings) target own, p.socketFor? target = some own ↔
      p.get? own = some target ∧ ∀ socket, p.get? socket = some target → own ≤ socket) ∧
    (∀ tables st, s.engine.active = some (tables, st) → ∀ {ω : Type} (scene : Scene) (watch : Watcher ω)
      (below : Calls ω) i l (r : Run ω), r.state = st → provide scene watch below i l r = (.ok none, r)) ∧
    ∀ call : HostCall, ∃ new, (call.perform .history s).2.seen.moments = new ++ s.seen.moments ∧
      ∀ m ∈ new, m.state.AnswersOutward s.engine.openFrames call.provider? ∧
        (registry.Sealed → ∀ i, m.step.frame? = some i → ∀ e ∈ m.state.stack.enclosing i,
          ∃ g, m.AnsweredBy e.1 e.2 g ∧ m.AnswersFrom e.2 g) := by
  intro s
  refine ⟨fun _ _ _ => Pairings.socketFor?_eq_some_iff, ?_, fun call => ?_⟩
  · rintro tables st hactive ω scene watch below i l r rfl
    have hresting := (((Law.bound registry).holds_recorded limits calls).active hactive).2
    rw [provide, lookupWithin, Action.readStack_bind_apply, hresting.bracketed.provider? i]
    rfl
  · have hlaw := (Law.served _ (Law.bound registry).links).holds_recorded limits calls
    obtain ⟨ms, hseen, hms⟩ := call.exists_seen_perform s
    rcases hms with rfl | ⟨tables, st, st', hactive, hcourse⟩
    · exact ⟨[], congrArg History.moments hseen, List.forall_mem_nil _⟩
    · have hbracketed : st.stack.Bracketed := (hlaw.active hactive).2.bracketed
      have hframes : s.engine.openFrames = st.stack.height := by rw [Engine.openFrames, hactive]; rfl
      obtain ⟨new, hnew, hstaffed⟩ := call.stays_staffed_perform hactive hbracketed
      obtain rfl : ms.reverse = new :=
        List.append_cancel_right ((congrArg History.moments hseen).symm.trans hnew)
      have hmem {m : Moment} (hm : m ∈ ms.reverse) : m ∈ (call.perform .history s).2.seen.moments := by
        rw [hnew]
        exact List.mem_append_left _ hm
      have hapart (m : Moment) (hm : m ∈ ms) : m.StartsApart :=
        ((hlaw.perform call).seen.moments m (hmem (List.mem_reverse.2 hm))).2
      have hgrounded := hcourse.grounded hbracketed hapart
      refine ⟨_, hnew, fun m hm => ?_⟩
      have hstaffed := hstaffed m hm
      have hgrounded := hgrounded m (List.mem_reverse.1 hm)
      refine ⟨?_, fun hsealed i hi e he => ?_⟩
      · rintro ω scene watch levels i l r hr hi
        rw [← hr] at hstaffed hgrounded hi ⊢
        rw [hframes]
        exact provide_eq_answerFrom levels hstaffed hgrounded hi
      · have hserved := (Law.served _ (Law.ownership hsealed).links).holds_recorded limits calls
        obtain ⟨hpresent, hserved⟩ := ((hserved.perform call).seen.moments m (hmem hm)).1 i hi
        obtain ⟨g, hg⟩ := Moment.answered_enclosing hstaffed hgrounded hpresent hserved e he
        exact ⟨g, hg, hg.answers⟩

/-- A gateway to a scene of another gateway, which leads to a scene of one node. An input of that node is paired
by the outer gateway alone. -/
def nestedCalls : List HostCall :=
  let paired (pairings : List (String × Value)) : Table Value :=
    Table.empty.insert Gateway.pairingAttribute (.object pairings)
  let nodes : Table NodeInfo := .ofList [("e", ⟨"c", .empty⟩),
    ("g", ⟨Gateway.name, paired [("o", Link.toValue ⟨"e", "o"⟩)]⟩),
    ("h", ⟨Gateway.name, paired [("i", Link.toValue ⟨"e", "i"⟩), ("o", Link.toValue ⟨"g", "o"⟩)]⟩)]
  let exposed : ExposedIndex :=
    ⟨Table.empty.insert (socketKey "h" "o") ⟨"h", "o", "Any", Gateway.name⟩, .empty⟩
  [.bind (.memory (.ofTables ⟨exposed, ⟨nodes, .empty, .empty⟩⟩)), .activate .none]

def nestedRequest : HostCall := .requestValue "h" "o" (some (constantProvider .null))

/-- The bindings around a frame of a scene in another scene. -/
theorem FrameStack.enclosing_twice {s : FrameStack} {i : Nat} {b b' : Binding} (hb : s.binding? i = some b)
    (hlower : b.caller < i) (hb' : s.binding? b.caller = some b') (hlower' : b'.caller < b.caller)
    (hnone : s.binding? b'.caller = none) : s.enclosing i = [(i, b), (b.caller, b')] := by
  rw [enclosing, hb]
  dsimp only
  rw [if_pos hlower, enclosing, hb']
  dsimp only
  rw [if_pos hlower', enclosing, hnone]

/-- The node asks from two scenes deep. The inner gateway does not pair its input, so the outer one answers, and
the provider of the host is not asked. -/
theorem nested_gateways_compose_twice :
    ∃ m ∈ (nestedRequest.perform .history
        (Session.recorded (.ofComponents linkedComponents) ⟨20, 20⟩ nestedCalls)).2.seen.moments,
      ∃ b b' g g', m.state.stack.enclosing 5 = [(5, b), (3, b')] ∧ m.AnsweredBy 5 b g ∧ m.AnsweredBy 3 b' g' ∧
        g.activation.node = "g" ∧ g'.activation.node = "h" ∧
        ∀ {ω : Type} (scene : Scene) (watch : Watcher ω) (levels : Nat) (r : Run ω), r.state = m.state →
          provide scene watch (scene.calls watch levels) 5 ⟨"e", "i"⟩ r = (do
            Action.note watch (.paired 3 b' ⟨"e", "i"⟩ "i")
            fetchInput scene watch (scene.calls watch levels) 1 "i" : Action ω _) r := by
  have hasked : ((nestedRequest.perform .history
      (Session.recorded (.ofComponents linkedComponents) ⟨20, 20⟩ nestedCalls)).2.seen.moments[18]?.map fun m =>
        (m.step.frame?, m.state.stack.height,
          [m.state.stack.binding? 5, m.state.stack.binding? 3, m.state.stack.binding? 1],
          [(m.state.stack.active? 3).map Activation.node, (m.state.stack.active? 1).map Activation.node])) =
      some (some 5, 6, [some ⟨3, .ofList [("o", ⟨"e", "o"⟩)]⟩,
        some ⟨1, .ofList [("i", ⟨"e", "i"⟩), ("o", ⟨"g", "o"⟩)]⟩, none], [some "g", some "h"]) := by
    decide +kernel
  have hopened : (Session.recorded (.ofComponents linkedComponents) ⟨20, 20⟩ nestedCalls).seen.moments = [] :=
    List.isEmpty_iff.1 (by decide +kernel)
  have hunpaired : Pairings.socketFor? (.ofList [("o", ⟨"e", "o"⟩)]) ⟨"e", "i"⟩ = none := by decide +kernel
  have hpaired : Pairings.socketFor? (.ofList [("i", ⟨"e", "i"⟩), ("o", ⟨"g", "o"⟩)]) ⟨"e", "i"⟩ = some "i" := by
    decide +kernel
  obtain ⟨-, -, hcalls⟩ := nested_gateways_compose (.ofComponents linkedComponents) ⟨20, 20⟩ nestedCalls
  obtain ⟨new, hnew, hmoments⟩ := hcalls nestedRequest
  rw [hopened, List.append_nil] at hnew
  generalize (nestedRequest.perform .history
    (Session.recorded (.ofComponents linkedComponents) ⟨20, 20⟩ nestedCalls)).2.seen.moments = moments
    at hasked hnew ⊢
  subst hnew
  generalize Table.ofList [("o", (⟨"e", "o"⟩ : Link))] = inner at hasked hunpaired
  generalize Table.ofList [("i", (⟨"e", "i"⟩ : Link)), ("o", ⟨"g", "o"⟩)] = outer at hasked hpaired
  obtain ⟨m, hm, hm'⟩ := Option.map_eq_some_iff.1 hasked
  simp only [Prod.mk.injEq, List.cons.injEq, and_true] at hm'
  obtain ⟨hframe, hheight, ⟨hinner, houter, hnone⟩, hactive, hactive'⟩ := hm'
  have hmem := List.mem_of_getElem? hm
  obtain ⟨hanswers, hgateways⟩ := hmoments m hmem
  have henclosing : m.state.stack.enclosing 5 = [(5, ⟨3, inner⟩), (3, ⟨1, outer⟩)] :=
    FrameStack.enclosing_twice hinner (by change 3 < 5; decide) houter (by change 1 < 3; decide) hnone
  have hworking := hgateways sealed_linkedComponents 5 hframe
  rw [henclosing] at hworking
  obtain ⟨⟨g, hg, -⟩, hrest⟩ := List.forall_mem_cons.1 hworking
  obtain ⟨g', hg', -⟩ := List.forall_mem_singleton.1 hrest
  refine ⟨m, hmem, ⟨3, inner⟩, ⟨1, outer⟩, g, g', henclosing, hg, hg', ?_, ?_, fun scene watch levels r hr => ?_⟩
  · rw [hg.active] at hactive
    simpa [Invocation.current] using hactive
  · rw [hg'.active] at hactive'
    simpa [Invocation.current] using hactive'
  · rw [hanswers scene watch levels 5 ⟨"e", "i"⟩ r hr (by omega), henclosing]
    rw [answerFrom_cons, hunpaired, answerFrom_cons, hpaired]

end SocketGraph
