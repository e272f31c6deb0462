import SocketGraph.Proofs.Forwarding
import SocketGraph.Proofs.Repeatable
import SocketGraph.Proofs.WarrantedCalls

/-! Gateways are transparent for what they do not pair. An exposed input without producers has inside of
linked scenes what the host answers at the end of the gateways. What the node has itself counts only where
nobody is asked, which a gateway never lets happen. -/
namespace SocketGraph

/-- One run leads to another, and something holds of the frames in all moments on the way. -/
structure Run.Stays (I : FrameStack → Prop) (r r' : Run History) : Prop where
  now : I r'.state.stack
  since : ∃ ms, r'.seen.moments = ms ++ r.seen.moments ∧ ∀ m ∈ ms, I m.state.stack

namespace Run.Stays

variable {I : FrameStack → Prop} {r r' r'' : Run History}

theorem of_eq (hr : I r'.state.stack) (h : r'.seen.moments = r.seen.moments) : Run.Stays I r r' :=
  ⟨hr, [], h, nofun⟩

theorem refl (hr : I r.state.stack) : Run.Stays I r r := of_eq hr rfl

theorem trans (h : Run.Stays I r r') (h' : Run.Stays I r' r'') : Run.Stays I r r'' := by
  obtain ⟨-, ms, hseen, hms⟩ := h
  obtain ⟨hnow, ms', hseen', hms'⟩ := h'
  exact ⟨hnow, ms' ++ ms, by rw [hseen', hseen, List.append_assoc], List.forall_mem_append.2 ⟨hms', hms⟩⟩

theorem note (hr : I r.state.stack) (s : Step) : Run.Stays I r (Action.note .history s r).2 :=
  ⟨hr, [⟨r.state, r.seen.calls, s⟩], rfl, List.forall_mem_singleton.2 hr⟩

theorem change (change : EngineState → EngineState) (hr : I (change r.state).stack) :
    Run.Stays I r (r.change .history change) :=
  ⟨hr, [.change r.seen.calls (change r.state)], rfl, List.forall_mem_singleton.2 hr⟩

/-- Two frames are opened, and closed again in the end. -/
theorem scope {outer inner : Frame} (houter : I (r.state.stack.push outer))
    (hinner : I ((r.state.stack.push outer).push inner)) (hpop : ∀ s, I s → I s.pop)
    (hbody : Run.Stays I ((r.change .history (·.push outer)).change .history (·.push inner)) r') :
    Run.Stays I r ((r'.change .history .closeFrame).change .history .closeFrame) := by
  have hopen : Run.Stays I r (r.change .history (·.push outer)) := change _ houter
  have hopen' : Run.Stays I (r.change .history (·.push outer)) _ := change (·.push inner) hinner
  have hclose : Run.Stays I r' (r'.change .history .closeFrame) := change .closeFrame (hpop _ hbody.now)
  have hclose' : Run.Stays I (r'.change .history .closeFrame) _ := change .closeFrame (hpop _ hclose.now)
  exact hopen.trans (hopen'.trans (hbody.trans (hclose.trans hclose')))

end Run.Stays

/-- What holds of the frames while the host does something with an engine at rest holds while it does so
again and again. -/
theorem HostCall.stays_performAll {I : FrameStack → Prop} {s : Session History} {tables : Tables}
    {st : EngineState} (hactive : s.engine.active = some (tables, st)) (hresting : st.Resting)
    (herrand : ∀ r r', Errand (s.engine.scene tables) r r' → r.state.Resting → Run.Stays I r r')
    (calls : List HostCall) (hcalls : ∀ call ∈ calls, call ≠ .terminate) :
    ∃ new, (performAll .history calls s).2.seen.moments = new ++ s.seen.moments ∧
      ∀ m ∈ new, I m.state.stack := by
  induction calls generalizing s st with
  | nil => exact ⟨[], rfl, nofun⟩
  | cons call rest ih =>
    obtain ⟨hcall, hrest⟩ := List.forall_mem_cons.1 hcalls
    obtain ⟨ms, st₁, h₁, hcourse⟩ := goesOn_perform hactive call hcall
    obtain ⟨r, hrun, hdone⟩ := errand_perform call hactive hcall
    obtain ⟨-, first, hfirst, hholds⟩ := herrand _ _ hdone hresting
    have hscene : (call.perform .history s).2.engine.scene tables = s.engine.scene tables := by
      rw [Engine.scene, h₁.registry, h₁.limits]
      rfl
    obtain ⟨more, hmore, hholds'⟩ := ih h₁.active (hcourse.resting hresting) (hscene ▸ herrand) hrest
    refine ⟨more ++ first, ?_, List.forall_mem_append.2 ⟨hholds', hholds⟩⟩
    have hseen : (call.perform .history s).2.seen.moments = first ++ s.seen.moments := by
      rw [hrun]
      exact hfirst
    rw [List.append_assoc, ← hseen]
    exact hmore

section
variable {scene : Scene} {info : NodeInfo} {c : Component} {l : Link}
  (hinfo : scene.tables.executable.node? l.node = some info)
  (hc : scene.registry.get? info.component = some c)
  (hproducers : scene.tables.executable.producers l.node l.socket = [])
  (hexposed : (declared? c.sockets l.socket).any Socket.exposed)

include hinfo hc in
theorem Scene.Instance.of_node {c' : Component} {a : Activation} (h : scene.Instance c' a)
    (ha : a.node = l.node) : a.sockets = c.sockets ∧ a.attributes = info.attributes := by
  obtain ⟨info', cause, hinfo', hc', hmade⟩ := h
  rw [ha, hinfo] at hinfo'
  obtain rfl := Option.some.inj hinfo'
  rw [hc] at hc'
  obtain rfl := Option.some.inj hc'
  rw [hmade]
  exact ⟨rfl, rfl⟩

/-- Linked scenes keep for an exposed input without producers what the host has answered, in all moments. -/
def Upkeep.relayed : Upkeep scene .history where
  keeps r r' := r'.state.stack.fittings = r.state.stack.fittings ∧
    (r.state.stack.Relays info c l → Run.Stays (FrameStack.Relays info c l) r r')
  refl r := ⟨rfl, .refl⟩
  trans h h' := ⟨h'.1.trans h.1, fun hr => (h.2 hr).trans (h'.2 (h.2 hr).now)⟩
  height h := FrameStack.height_of_view h.1
  emit r _ := ⟨rfl, fun hr => .of_eq hr rfl⟩
  note r s := ⟨rfl, fun hr => .note hr s⟩
  count r _ := ⟨rfl, fun hr => .of_eq hr rfl⟩
  effect r i a script := ⟨script.fittings_effect i a r.state, fun hr => .change _ (hr.effect i a script)⟩
  input := by
    rintro r r' i a socket v ⟨hfittings, hstays⟩ hactive - hresolves
    refine ⟨(FrameStack.fittings_of_shape (FrameStack.shape_putInput ..)).trans hfittings, fun hr => ?_⟩
    have hstays := hstays hr
    refine hstays.trans (.change _ (hstays.now.putInput ?_))
    rintro rfl b passed p hb hp
    rw [FrameStack.active?_eq_head?] at hactive
    obtain ⟨hsockets, -⟩ := hr.made i a (List.mem_of_mem_head? hactive) rfl
    refine hresolves hproducers (hsockets ▸ hexposed) ?_ passed p (hp.congr hfittings)
    rw [← FrameStack.provider?_of_fittings hfittings, hb]
    rfl
  nested h := ⟨h.1, fun hr => .trans (.change .deeper hr) (.trans (h.2 hr) (.change .shallower (h.2 hr).now))⟩
  active := by
    rintro r r' i a c' hmade ⟨hfittings, hstays⟩
    have hentered := FrameStack.fittings_enter r.state.stack i a
    refine ⟨(FrameStack.fittings_leave _ i).trans (hfittings.trans hentered), fun hr => ?_⟩
    have henter : (r.state.enter i a).stack.Relays info c l := hr.enter (hmade.of_node hinfo hc) i
    have hleave := (hstays henter).now.leave i
    exact .trans (.change (·.enter i a) henter) (.trans (hstays henter) (.change (·.leave i) hleave))
  linked := by
    rintro r r' i p hi ⟨hfittings, hstays⟩
    refine ⟨EngineState.view_closeBoth hfittings, fun hr => ?_⟩
    have houter := hr.push_gateway (b := ⟨i, p⟩) hi
    have hinner := houter.push_open
    exact .scope houter hinner (fun _ hs => hs.pop) (hstays hinner)
  called := by
    rintro r r' ⟨hfittings, hstays⟩
    refine ⟨EngineState.view_closeBoth hfittings, fun hr => ?_⟩
    have houter := hr.push_open
    have hinner := houter.push_open
    exact .scope houter hinner (fun _ hs => hs.pop) (hstays hinner)

include hinfo hc hproducers hexposed

theorem stays_callScope {α : Type} {body : Nat → Action History α} (p : Option Provider)
    (hbody : ∀ j, (Upkeep.relayed hinfo hc hproducers hexposed).Keeps j (body j)) {r : Run History}
    (hr : r.state.stack.Bracketed) :
    Run.Stays (FrameStack.Relays info c l) r (Action.callScope .history p body r).2 := by
  let r' := (r.change .history (·.push (.fresh true none))).change .history
    (·.push (.fresh true (p.map .host)))
  have hinner : r'.state.stack.Relays info c l := .of_call hr.push p
  have hrun := (hbody r'.state.stack.top r' (FrameStack.top_lt_height_push _ _)).2 hinner
  exact .scope (.of_brackets hr.push) hinner (fun _ hs => hs.pop) hrun

/-- Whatever the host does with an engine at rest. -/
theorem Errand.stays_relays {r r' : Run History} (h : Errand scene r r') (hr : r.state.Resting) :
    Run.Stays (FrameStack.Relays info c l) r r' := by
  have hserves := (Upkeep.relayed hinfo hc hproducers hexposed).serves_calls
  have hstart : r.state.stack.Relays info c l := .of_brackets hr.bracketed
  cases h with
  | idle => exact .refl hstart
  | opened => exact .change .openFrame hstart.push_open
  | closed => exact .change .closeFrame hstart.pop
  | evaluated node requested p =>
    exact stays_callScope hinfo hc hproducers hexposed p
      (fun j => (hserves (scene.limits.allowance + 1)).evaluate j node requested) hr.bracketed
  | propagated socket sources p =>
    show Run.Stays _ r (propagateAt scene .history (scene.calls .history scene.limits.allowance) socket
      sources p r).2
    cases hrefused : refused? scene r.state sources with
    | some source =>
      rw [propagateAt_of_refused socket sources p r hrefused]
      exact .refl hstart
    | none =>
      rw [propagateAt, Action.state_bind_apply, hrefused]
      have hlevels := stays_callScope hinfo hc hproducers hexposed p
        (fun j => Upkeep.keeps_levels (hserves scene.limits.allowance) j scene.limits.signalLevels
          (frontier scene socket sources)) (r := r.change .history .deeper) hr.bracketed
      exact .trans (.change .deeper hstart) (.trans hlevels (.change .shallower hlevels.now))

end

/-- That handlers at work are the innermost active nodes of their frames is a law of all sessions. -/
def Law.attendance (registry : Registry) : Law registry where
  pairs _ _ := True
  state _ := True
  moment m := ∀ i a script, m.step = .performed i a script →
    ∃ sockets, m.state.stack.active? i = some (a.sent sockets)
  links _ := .unconditional _ _
  fresh := trivial
  transition _ _ := trivial
  changed _ := nofun
  step _ hs := by
    cases hs with
    | @performed calls g _ script ready shows made =>
      rintro _ _ _ ⟨⟩
      refine ⟨g.forwarded, ?_⟩
      rw [FrameStack.active?_eq_head?, shows, CallStack.on_cons, if_pos rfl]
      rfl
    | _ => exact nofun

section
variable {ω : Type} {scene : Scene} {watch : Watcher ω} {below : Calls ω} {i : Nat} {l : Link}
  {passed : Nat} {p : Option Provider} {r : Run ω}

/-- A lookup that gateways only forward is answered by the host. -/
theorem lookupWithin_of_forwards (hbound : r.state.stack.Bound) (h : r.state.stack.Forwards l i passed p)
    {steps : Nat} (hsteps : i < steps) :
    (lookupWithin scene watch below steps i l r).1 = .ok (answer? p l) := by
  induction h generalizing steps with
  | @nobody i provider =>
    obtain ⟨steps, rfl⟩ := Nat.exists_eq_add_one_of_ne_zero (Nat.ne_zero_of_lt hsteps)
    rw [lookupWithin, Action.readStack_bind_apply, provider]
    rfl
  | @host i p provider =>
    obtain ⟨steps, rfl⟩ := Nat.exists_eq_add_one_of_ne_zero (Nat.ne_zero_of_lt hsteps)
    rw [lookupWithin, Action.readStack_bind_apply, provider]
    dsimp only
    rw [Action.bind_apply, Upkeep.answer_askHost]
    rfl
  | @gateway i passed b p provider unpaired rest ih =>
    obtain ⟨steps, rfl⟩ := Nat.exists_eq_add_one_of_ne_zero (Nat.ne_zero_of_lt hsteps)
    have hlower := hbound.caller_lt provider
    rw [lookupWithin, Action.readStack_bind_apply, provider]
    dsimp only
    rw [unpaired]
    exact ih (by omega)

/-- A fetch is answered with what the input is resolved to, if nothing is kept for it. -/
theorem fetchInput_of_unkept {a : Activation} {socket : String} (hactive : r.state.stack.active? i = some a)
    (hunkept : r.state.stack.input? i ⟨a.node, socket⟩ = none) :
    (fetchInput scene watch below i socket r).1 =
      (resolveInput scene below (provide scene watch below) i a socket r).1 := by
  rw [fetchInput, fetchWith, Action.readStack_bind_apply, hactive]
  show (inputOf scene watch below _ i a socket r).1 = _
  rw [inputOf, Action.readStack_bind_apply, hunkept]
  dsimp only
  rw [Action.bind_apply]
  rcases (resolveInput scene below (provide scene watch below) i a socket r).1 with failure | _ | v <;> rfl

/-- An exposed input without producers is looked up if somebody answers, and otherwise what the node has. -/
theorem resolveInput_of_exposed {a : Activation} {socket : String} {lookup : Lookup ω}
    (hproducers : scene.tables.executable.producers a.node socket = [])
    (hexposed : (declared? a.sockets socket).any Socket.exposed) :
    (resolveInput scene below lookup i a socket r).1 =
      if (r.state.stack.provider? i).isSome then (lookup i ⟨a.node, socket⟩ r).1
      else .ok (ownValue? a socket) := by
  rw [resolveInput, hproducers]
  dsimp only
  rw [Action.readStack_bind_apply, hexposed, Bool.true_and]
  split <;> rfl

section
variable {a : Activation} {socket : String} (hactive : r.state.stack.active? i = some a)
  (hproducers : scene.tables.executable.producers a.node socket = [])
  (hexposed : (declared? a.sockets socket).any Socket.exposed)
  (hforwards : r.state.stack.Forwards ⟨a.node, socket⟩ i passed p)
include hactive hproducers hexposed hforwards

/-- What is fetched for an input that is not kept yet. -/
theorem fetchInput_of_forwards (hbound : r.state.stack.Bound)
    (hunkept : r.state.stack.input? i ⟨a.node, socket⟩ = none) :
    (fetchInput scene watch below i socket r).1 =
      if (r.state.stack.provider? i).isSome then .ok (answer? p ⟨a.node, socket⟩)
      else .ok (ownValue? a socket) := by
  rw [fetchInput_of_unkept hactive hunkept, resolveInput_of_exposed hproducers hexposed, provide,
    lookupWithin_of_forwards hbound hforwards (Nat.lt_succ_self i)]

/-- Inside of a linked scene, what is kept is what is looked up as well. -/
theorem fetchInput_of_gateway {info : NodeInfo} {c : Component}
    (hr : r.state.stack.Relays info c ⟨a.node, socket⟩) (hpassed : 0 < passed) :
    (fetchInput scene watch below i socket r).1 = .ok (answer? p ⟨a.node, socket⟩) := by
  obtain ⟨b, hb⟩ : ∃ b, r.state.stack.provider? i = some (.gateway b) := by
    cases hforwards with
    | nobody | host => exact absurd hpassed (Nat.lt_irrefl 0)
    | gateway provider => exact ⟨_, provider⟩
  cases hkept : r.state.stack.input? i ⟨a.node, socket⟩ with
  | none =>
    rw [fetchInput_of_forwards hactive hproducers hexposed hforwards hr.bound hkept, hb]
    rfl
  | some v =>
    have hathand : r.state.stack.atHand? i socket = some v :=
      Option.bind_eq_some_iff.2 ⟨a, hactive, hkept⟩
    rw [fetchInput_of_atHand? hathand, hr.input? hb hkept hforwards]

end

end

/-- After an activation, whatever the host calls for, whenever a handler fetches an exposed input without
producers that no gateway on the way to the host pairs; there is such a way wherever none of the linked
scenes pairs it. In a linked scene, however deep, it gets what the provider of the host answers, or nothing if
the host has none. Directly, if nothing is kept for the input, it gets what the provider answers, or if the
host has none, the attribute of the node or else the default. -/
theorem gateways_only_forward (s : Session History) (tables : Tables)
    (hfresh : s.engine.active = some (tables, .fresh)) (hidle : s.seen.calls = [])
    (calls : List HostCall) (hcalls : ∀ call ∈ calls, call ≠ .terminate) (node : NodeId) (socket : String)
    (info : NodeInfo) (c : Component) (hinfo : tables.executable.node? node = some info)
    (hc : s.engine.registry.get? info.component = some c)
    (hproducers : tables.executable.producers node socket = [])
    (hexposed : (declared? c.sockets socket).any Socket.exposed) :
    ∃ new, (HostCall.performAll .history calls s).2.seen.moments = new ++ s.seen.moments ∧
      ∀ m ∈ new, ∀ i a next, m.step = .performed i a (.fetch socket next) → a.node = node →
        ((∀ j f b, m.state.stack.frame? j = some f → f.provider = some (.gateway b) →
          b.pairings.socketFor? ⟨node, socket⟩ = none) →
            ∃ passed p, m.state.stack.Forwards ⟨node, socket⟩ i passed p) ∧
        ∀ passed p, m.state.stack.Forwards ⟨node, socket⟩ i passed p →
          ∀ {ω : Type} (watch : Watcher ω) (below : Calls ω) (run : Run ω), run.state = m.state →
            (0 < passed → (fetchInput (s.engine.scene tables) watch below i socket run).1 =
              .ok (answer? p ⟨node, socket⟩)) ∧
            (passed = 0 → m.state.stack.input? i ⟨node, socket⟩ = none →
              (fetchInput (s.engine.scene tables) watch below i socket run).1 =
                .ok (match p with
                  | some p => p.answer socket node
                  | none => (info.attributes.get? socket).or
                    ((declared? c.sockets socket).bind Socket.default))) := by
  have hresting : EngineState.fresh.Resting := ⟨.empty, rfl⟩
  obtain ⟨new, hnew, hrelays⟩ := HostCall.stays_performAll hfresh hresting
    (fun r r' h hr => h.stays_relays (l := ⟨node, socket⟩) hinfo hc hproducers hexposed hr) calls hcalls
  have hattend := (Law.attendance s.engine.registry).of_since rfl hfresh hidle calls hnew
  refine ⟨new, hnew, ?_⟩
  rintro m hm i a next hstep rfl
  refine ⟨fun hunpaired => FrameStack.Forwards.exists_of_unpaired (hrelays m hm).bound hunpaired i, ?_⟩
  rintro passed p hforwards ω watch below run hrun
  obtain ⟨sockets, hactive⟩ := hattend m hm i a _ hstep
  have hr := hrelays m hm
  rw [← hrun] at hactive hforwards hr ⊢
  have hmem : a.sent sockets ∈ run.state.stack.activeOn i := by
    rw [FrameStack.active?_eq_head?] at hactive
    exact List.mem_of_mem_head? hactive
  obtain ⟨hsockets, hattributes⟩ := hr.made i _ hmem (a.node_sent sockets)
  rw [← hsockets] at hexposed
  -- the activation goes by the signals that it has sent so far, which changes nothing here
  rw [← a.node_sent sockets] at hproducers hforwards hr ⊢
  refine ⟨fun hpassed => ?_, ?_⟩
  · exact fetchInput_of_gateway hactive hproducers hexposed hforwards hr hpassed
  · rintro rfl hunkept
    rw [fetchInput_of_forwards hactive hproducers hexposed hforwards hr.bound hunkept]
    cases hforwards with
    | nobody provider =>
      rw [provider, ownValue?, hsockets, hattributes]
      rfl
    | host provider =>
      rw [provider]
      rfl

/-- A component with an exposed input that has a default, and exposes what it fetches. -/
def leafComponent : Component :=
  ⟨"leaf", [⟨"x", "text", .input, true, false, some (.int 7)⟩],
    some fun _ => .fetch "x" fun
      | .ok (some v) => .expose "y" v .succeed
      | _ => .succeed, none⟩

/-- The node and a gateway to it, which pairs the output of the node and not its input. -/
def wrappingTables : Tables :=
  let pairings : Value := .object [("o", Link.toValue ⟨"n", "y"⟩)]
  let gateway : NodeInfo := ⟨Gateway.name, Table.empty.insert Gateway.pairingAttribute pairings⟩
  let exposed : ExposedIndex := ⟨(Table.empty.insert (socketKey "n" "y") ⟨"n", "y", "Any", "leaf"⟩).insert
    (socketKey "g" "o") ⟨"g", "o", "Any", Gateway.name⟩, .empty⟩
  ⟨exposed, ⟨(Table.empty.insert "n" ⟨"leaf", .empty⟩).insert "g" gateway, .empty, .empty⟩⟩

def wrappingSession : Session History :=
  ⟨⟨.ofComponents [leafComponent, Gateway.component], ⟨20, 20⟩, none, some (wrappingTables, .fresh)⟩, .empty,
    [], []⟩

/-- A provider with one answer to everything. -/
def constantProvider (v : Value) : Provider := ⟨fun _ _ => some v, false⟩

/-- Without a provider the default counts for a node that is asked directly, and not for one in a linked scene; with
one they get the same. -/
theorem gateways_withhold_defaults :
    (Host.requestValue .history "n" "y" none wrappingSession).1.toOption = some (some (.int 7)) ∧
      (Host.requestValue .history "g" "o" none wrappingSession).1.toOption = some none ∧
      (Host.requestValue .history "n" "y" (some (constantProvider (.int 5))) wrappingSession).1.toOption =
        some (some (.int 5)) ∧
      (Host.requestValue .history "g" "o" (some (constantProvider (.int 5))) wrappingSession).1.toOption =
        some (some (.int 5)) := by
  decide +kernel

def wrappingCalls : List HostCall := [.requestValue "g" "o" (some (constantProvider (.int 5)))]

/-- A handler of a node fetches a socket on a frame bound to a gateway that does not pair it, and the provider of the
host that the gateway leads to has an answer. -/
def Moment.fetchesThrough (node : NodeId) (socket : String) (i : Nat) (v : Value) (m : Moment) : Bool :=
  match m.step, m.state.stack.provider? i with
  | .performed j a (.fetch fetched _), some (.gateway b) =>
    match m.state.stack.provider? b.caller with
    | some (.host p) => j == i && a.node == node && fetched == socket &&
        (b.pairings.socketFor? ⟨node, socket⟩).isNone && p.answer socket node == some v
    | _ => false
  | _, _ => false

theorem Moment.exists_of_fetchesThrough {node : NodeId} {socket : String} {i : Nat} {v : Value} {m : Moment}
    (h : m.fetchesThrough node socket i v) :
    ∃ a next p, m.step = .performed i a (.fetch socket next) ∧ a.node = node ∧
      m.state.stack.Forwards ⟨node, socket⟩ i 1 (some p) ∧ p.answer socket node = some v := by
  unfold fetchesThrough at h
  split at h
  · rename_i j a fetched next b hstep hgateway
    split at h
    · rename_i p hhost
      simp only [Bool.and_eq_true, beq_iff_eq, Option.isNone_iff_eq_none] at h
      obtain ⟨⟨⟨⟨rfl, hnode⟩, rfl⟩, hunpaired⟩, hanswer⟩ := h
      exact ⟨a, next, p, hstep, hnode, .gateway hgateway hunpaired (.host hhost), hanswer⟩
    · cases h
  · cases h

/-- In the linked scene the fetch is answered by the provider of the host. -/
theorem wrapped_input_forwarded :
    ∃ m ∈ (HostCall.performAll .history wrappingCalls wrappingSession).2.seen.moments,
      ∃ a next p, m.step = .performed 3 a (.fetch "x" next) ∧ a.node = "n" ∧
        m.state.stack.Forwards ⟨"n", "x"⟩ 3 1 p ∧
        ∀ {ω : Type} (watch : Watcher ω) (below : Calls ω) (run : Run ω), run.state = m.state →
          (fetchInput (wrappingSession.engine.scene wrappingTables) watch below 3 "x" run).1 =
            .ok (some (.int 5)) := by
  have hfetch : (HostCall.performAll .history wrappingCalls wrappingSession).2.seen.moments[15]?.any
      (·.fetchesThrough "n" "x" 3 (.int 5)) = true := by decide +kernel
  obtain ⟨new, hmoments, hnew⟩ := gateways_only_forward wrappingSession wrappingTables rfl rfl wrappingCalls
    (by simp [wrappingCalls]) "n" "x" ⟨"leaf", .empty⟩ leafComponent (by decide) rfl (by decide)
    (by decide)
  generalize (HostCall.performAll .history wrappingCalls wrappingSession).2.seen.moments = moments
    at hfetch hmoments ⊢
  obtain rfl : moments = new := hmoments.trans (List.append_nil new)
  obtain ⟨m, hm, hfetch⟩ := (Option.any_eq_true _ _).1 hfetch
  have hmem : m ∈ moments := List.mem_of_getElem? hm
  obtain ⟨a, next, p, hstep, hnode, hforwards, hanswer⟩ := m.exists_of_fetchesThrough hfetch
  refine ⟨m, hmem, a, next, p, hstep, hnode, hforwards, fun watch below run hrun => ?_⟩
  have hfetched := (hnew m hmem 3 a next hstep hnode).2 1 (some p) hforwards watch below run hrun
  rw [hfetched.1 Nat.one_pos, ← hanswer]
  rfl

end SocketGraph
