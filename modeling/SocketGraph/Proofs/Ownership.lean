import SocketGraph.Component.Gateway
import SocketGraph.Evaluation
import SocketGraph.Proofs.History

/-! Whom a frame works for. At every operation of a handler the innermost active node of its frame is
the one that the handler was started for, and a linked scene is answered by the gateway that has opened
it, however pulls, signals and scenes are nested. -/
namespace SocketGraph

/-- Scenes are linked by gateways alone. -/
def Component.Sealed (c : Component) : Prop :=
  c = Gateway.component ∨ ∀ a, c.Links (fun _ _ => False) a

def Registry.Sealed (r : Registry) : Prop := ∀ name c, r.get? name = some c → c.Sealed

theorem Registry.sealed_ofComponents {cs : List Component} (h : ∀ c ∈ cs, c.Sealed) :
    (ofComponents cs).Sealed := fun _ c hget => h c (mem_of_get?_ofComponents hget)

namespace Gateway

variable {paired : Pairings → Prop}

theorem links_pushPaired (p : Pairings) {rest : Script} (hrest : rest.Links paired)
    (values : List (Link × Value)) : (pushPaired p rest values).Links paired := by
  induction values with
  | nil => exact hrest
  | cons entry more ih =>
    obtain ⟨source, v⟩ := entry
    rw [pushPaired]
    induction p.socketsFor source with
    | nil => exact ih
    | cons socket sockets ih => exact ih

theorem links_forwardPaired (p : Pairings) {rest : Script} (hrest : rest.Links paired)
    (signals : List Link) : (forwardPaired p rest signals).Links paired := by
  rw [forwardPaired]
  induction signals.flatMap p.socketsFor with
  | nil => exact hrest
  | cons socket sockets ih => exact ih

/-- A gateway works inside with its own pairings. -/
theorem links_enter (a : Activation) (socket : Option String) {inside : Pairings → Link → Script}
    (hinside : ∀ p target, pairings a.attributes = .ok p →
      (inside p target).Links fun p => pairings a.attributes = .ok p) :
    (enter a socket inside).Links fun p => pairings a.attributes = .ok p := by
  unfold enter
  cases hp : pairings a.attributes with
  | error problem => trivial
  | ok p =>
    cases socket with
    | none => trivial
    | some socket =>
      dsimp only
      cases p.get? socket with
      | none => trivial
      | some target =>
        have hlinks := hinside p target hp
        rwa [hp] at hlinks

/-- A gateway links scenes by the pairings of its own attribute. -/
theorem links (a : Activation) :
    component.Links (fun a p => pairings a.attributes = .ok p) a := by
  constructor
  · rintro handler ⟨⟩
    refine links_enter a _ fun p target hp => ⟨hp, fun answer => ?_⟩
    cases answer with
    | error failure => trivial
    | ok exposed => exact links_pushPaired p (Script.links_succeed _) _
  · rintro handler ⟨⟩ socket
    refine links_enter a _ fun p target hp => ⟨hp, fun result => ?_⟩
    refine links_forwardPaired p (links_pushPaired p ?_ _) _
    split
    · exact Script.links_succeed _
    · exact Script.links_fail _ _

end Gateway

theorem Component.Sealed.links {c : Component} (h : c.Sealed) (a : Activation) :
    c.Links (fun a p => Gateway.pairings a.attributes = .ok p) a := by
  rcases h with rfl | h
  · exact Gateway.links a
  · exact ⟨fun handler hhandler => ((h a).update handler hhandler).mono fun _ => False.elim,
      fun handler hhandler socket => ((h a).signal handler hhandler socket).mono fun _ => False.elim⟩

namespace FrameStack

variable {s t : FrameStack}

/-- Every binding leads to a frame below the one that carries it, which lets nothing through. -/
def Bound (s : FrameStack) : Prop :=
  ∀ i f b, s.frame? i = some f → f.provider = some (.gateway b) →
    b.caller < i ∧ f.permeable = false

theorem bound_empty : Bound .empty := nofun

/-- Bindings stay where they are when no frame is changed in what it lets through and who answers. -/
theorem Bound.of_frames (h : s.Bound)
    (hframes : ∀ i f, t.frame? i = some f → ∃ g, s.frame? i = some g ∧
      g.provider = f.provider ∧ g.permeable = f.permeable) : t.Bound := by
  intro i f b hf hb
  obtain ⟨g, hg, hprovider, hpermeable⟩ := hframes i f hf
  rw [← hpermeable]
  exact h i g b hg (hprovider.trans hb)

theorem Bound.modify (h : s.Bound) (j : Nat) {change : Frame → Frame}
    (hprovider : ∀ f, (change f).provider = f.provider)
    (hpermeable : ∀ f, (change f).permeable = f.permeable) : (s.modify j change).Bound := by
  refine h.of_frames fun i f hf => ?_
  rw [frame?_modify] at hf
  split_ifs at hf
  · obtain ⟨g, hg, rfl⟩ := Option.map_eq_some_iff.1 hf
    exact ⟨g, hg, (hprovider g).symm, (hpermeable g).symm⟩
  · exact ⟨f, hf, rfl, rfl⟩

theorem Bound.writeThrough (h : s.Bound) (j : Nat) {change : Frame → Frame}
    (hprovider : ∀ f, (change f).provider = f.provider)
    (hpermeable : ∀ f, (change f).permeable = f.permeable) : (s.writeThrough j change).Bound := by
  refine h.of_frames fun i f hf => ?_
  rw [frame?_writeThrough] at hf
  split_ifs at hf
  · obtain ⟨g, hg, rfl⟩ := Option.map_eq_some_iff.1 hf
    exact ⟨g, hg, (hprovider g).symm, (hpermeable g).symm⟩
  · exact ⟨f, hf, rfl, rfl⟩

theorem Bound.push (h : s.Bound) {permeable : Bool} {provider : Option FrameProvider}
    (hbound : ∀ b, provider = some (.gateway b) → permeable = false ∧ b.caller < s.height) :
    (s.push (.fresh permeable provider)).Bound := by
  intro i f b hf hb
  rw [frame?_push] at hf
  split_ifs at hf with hi
  · obtain rfl := Option.some.inj hf
    obtain ⟨hpermeable, hlt⟩ := hbound b hb
    exact ⟨hi ▸ hlt, hpermeable⟩
  · exact h i f b hf hb

theorem Bound.pop (h : s.Bound) : s.pop.Bound := by
  intro i f b hf hb
  rw [frame?_pop] at hf
  split_ifs at hf
  exact h i f b hf hb

end FrameStack

theorem Transition.bound {scene : Scene} {pairs : Activation → Pairings → Prop} {calls : CallStack}
    {st st' : EngineState} (h : Transition scene pairs calls st st') (hst : st.stack.Bound) :
    st'.stack.Bound := by
  cases h with
  | enter | leave | forward => exact hst.modify _ (fun _ => rfl) fun _ => rfl
  | putInput | putOutput | putExposed | addSignal =>
    exact hst.writeThrough _ (fun _ => rfl) fun _ => rfl
  | mark target scope =>
    cases scope with
    | frame | root => exact hst.modify _ (fun _ => rfl) fun _ => rfl
    | forever => exact hst
  | push permeable provider bound => exact hst.push bound
  | pop => exact hst.pop
  | deeper | shallower => exact hst

section
variable {ω : Type} (scene : Scene) (watch : Watcher ω) (below : Calls ω)

/-- What a node forwards has no part in how its sockets are resolved. -/
theorem inputOf_sent (lookup : Lookup ω) (i : Nat) (a : Activation) (sockets : List String)
    (socket : String) :
    inputOf scene watch below lookup i (a.sent sockets) socket =
      inputOf scene watch below lookup i a socket := by
  simp [inputOf, resolveInput, ownValue?]

/-- A fetch resolves a socket of the innermost active node. -/
theorem fetchWith_of_active (lookup : Lookup ω) {i : Nat} {a : Activation} {sockets : List String}
    (socket : String) {r : Run ω} (h : r.state.stack.active? i = some (a.sent sockets)) :
    fetchWith scene watch below lookup i socket r =
      inputOf scene watch below lookup i a socket r := by
  rw [← inputOf_sent scene watch below lookup i a sockets socket]
  simp only [fetchWith, Bind.bind, StateT.bind, Action.readStack, h]

/-- Whether a forwarded signal is kept is decided by the innermost active node. -/
theorem perform_forward_of_active {i : Nat} {a : Activation} {sockets : List String}
    (socket : String) (next : Script) {r : Run ω}
    (h : r.state.stack.active? i = some (a.sent sockets)) :
    perform scene watch below i a (.forward socket next) r =
      (Action.note watch (.performed i a (.forward socket next)) >>= fun _ =>
        (if a.isSignal then Action.changeStack watch (·.forward i socket)
          else Action.log watch (.forwardIgnored a.node socket)) >>= fun _ =>
            perform scene watch below i a next) r := by
  have hsignal : (r.state.stack.active? i).any Activation.isSignal = a.isSignal := by
    rw [h]
    simp
  change (if (r.state.stack.active? i).any Activation.isSignal = true then _ else _ :
    Action ω (Outcome Unit)) _ = _
  rw [hsignal]
  cases a.isSignal <;> rfl

end

namespace Moment

/-- The handler of an activation is at work on a frame and owns it: it is the innermost of all handlers
at work, and the frames show these handlers and no others. -/
structure OwnedBy (m : Moment) (i : Nat) (a : Activation) (forwarded : List String) : Prop where
  innermost : ∃ linked rest, m.calls = ⟨i, a, forwarded, linked⟩ :: rest
  shows : m.state.stack.Shows m.calls

/-- A binding answers on behalf of a gateway: its handler has opened the scene that asks, and it is the
innermost active node of its frame. -/
structure AnsweredBy (m : Moment) (i : Nat) (b : Binding) (g : Invocation) : Prop where
  provider : m.state.stack.provider? i = some (.gateway b)
  working : g ∈ m.calls
  frame : g.frame = b.caller
  scene : g.scene = some (m.state.stack.root i)
  active : m.state.stack.active? b.caller = some g.current
  pairings : Gateway.pairings g.activation.attributes = .ok b.pairings

/-- The operations of a handler on its frame are about its own node: a fetch resolves a socket of the
node, and a signal joins the list of the activation if that is one of a signal, and is only reported if
it is not. -/
structure ServesOwn (m : Moment) (i : Nat) (a : Activation) (forwarded : List String) : Prop where
  active : m.state.stack.active? i = some (a.sent forwarded)
  fetch : ∀ {ω : Type} (scene : Scene) (watch : Watcher ω) (below : Calls ω) (socket : String)
    (r : Run ω), r.state = m.state →
    fetchInput scene watch below i socket r =
      inputOf scene watch below (provide scene watch below) i a socket r
  forward : ∀ {ω : Type} (scene : Scene) (watch : Watcher ω) (below : Calls ω) (socket : String)
    (next : Script) (r : Run ω), r.state = m.state →
    perform scene watch below i a (.forward socket next) r =
      (Action.note watch (.performed i a (.forward socket next)) >>= fun _ =>
        (if a.isSignal then Action.changeStack watch (·.forward i socket)
          else Action.log watch (.forwardIgnored a.node socket)) >>= fun _ =>
            perform scene watch below i a next) r
  appended : ∀ socket j, (m.state.stack.forward i socket).activeOn j =
    if i = j then a.sent (forwarded ++ [socket]) :: (m.state.stack.activeOn i).tail
    else m.state.stack.activeOn j

/-- A paired socket is answered with the input of a gateway. -/
def AnswersFrom (m : Moment) (b : Binding) (g : Invocation) : Prop :=
  ∀ {ω : Type} (scene : Scene) (watch : Watcher ω) (below : Calls ω) (lookup : Lookup ω)
    (own : String) (r : Run ω), r.state = m.state →
    fetchWith scene watch below lookup b.caller own r =
      inputOf scene watch below lookup g.frame g.activation own r

theorem OwnedBy.serves {m : Moment} {i : Nat} {a : Activation} {forwarded : List String}
    (h : m.OwnedBy i a forwarded) : m.ServesOwn i a forwarded := by
  obtain ⟨linked, rest, hcalls⟩ := h.innermost
  have hon : m.state.stack.activeOn i = a.sent forwarded :: CallStack.on rest i := by
    rw [h.shows, hcalls, CallStack.on_cons, if_pos rfl]
    rfl
  have hactive : m.state.stack.active? i = some (a.sent forwarded) := by
    rw [FrameStack.active?_eq_head?, hon]
    rfl
  refine ⟨hactive, ?_, ?_, fun socket j => ?_⟩
  · rintro ω scene watch below socket r hr
    exact fetchWith_of_active scene watch below _ socket (hr ▸ hactive)
  · rintro ω scene watch below socket next r hr
    exact perform_forward_of_active scene watch below socket next (hr ▸ hactive)
  · rw [FrameStack.activeOn_forward, hon]
    split_ifs
    · simp
    · rfl

theorem AnsweredBy.answers {m : Moment} {i : Nat} {b : Binding} {g : Invocation}
    (h : m.AnsweredBy i b g) : m.AnswersFrom b g := by
  rintro ω scene watch below lookup own r hr
  rw [h.frame]
  exact fetchWith_of_active scene watch below lookup own (hr ▸ h.active)

/-- What holds at a moment, whatever step is taken. -/
def Disciplined (m : Moment) : Prop :=
  match m.step with
  | .performed i a _ => ∃ forwarded, m.OwnedBy i a forwarded
  | .paired i b _ _ => ∃ g, m.AnsweredBy i b g
  | _ => True

end Moment

/-- The ownership of frames is a law of all sessions in which gateways alone link scenes. -/
def Law.ownership {registry : Registry} (hregistry : registry.Sealed) : Law registry where
  pairs a p := Gateway.pairings a.attributes = .ok p
  state st := st.stack.Bound
  moment m := m.state.stack.Bound ∧ m.Disciplined
  links := by
    rintro tables limits c a ⟨info, cause, -, hc, -⟩
    exact (hregistry _ c hc).links a
  fresh := FrameStack.bound_empty
  transition := Transition.bound
  changed hst := ⟨hst, trivial⟩
  step := by
    intro scene calls st s hst hs
    refine ⟨hst, ?_⟩
    cases hs with
    | @performed calls g c script ready shows made =>
      exact ⟨g.forwarded, ⟨g.scene, calls, rfl⟩, shows⟩
    | @paired calls i b socket own served provider answers shows =>
      obtain ⟨-, g, hg, hframe, hscene, hactive, hp⟩ := served.answers b provider
      exact ⟨g, provider, hg, hframe, hscene, hactive, hp⟩
    | _ => trivial

/-- In every session in which gateways alone link scenes: every binding on the stack leads to a frame
below the one that carries it; every operation of a handler is about its own node; and whenever a
paired socket is asked for, it is answered with the input of the gateway that has opened the scene. -/
theorem sessions_owned {registry : Registry} (hregistry : registry.Sealed) (limits : Limits) :
    (∀ st : EngineState, st.Reachable registry limits → st.stack.Bound) ∧
    (∀ m : Moment, m.Occurs registry limits → ∀ i a script, m.step = .performed i a script →
      ∃ forwarded, m.OwnedBy i a forwarded ∧ m.ServesOwn i a forwarded) ∧
    (∀ m : Moment, m.Occurs registry limits → ∀ i b socket own, m.step = .paired i b socket own →
      ∃ g, m.AnsweredBy i b g ∧ m.AnswersFrom b g) := by
  refine ⟨fun st hst => (Law.ownership hregistry).of_reachable (fun hm => hm.1) hst, ?_, ?_⟩
  · intro m hm i a script hstep
    have hdisciplined := ((Law.ownership hregistry).of_occurs hm).2
    rw [Moment.Disciplined, hstep] at hdisciplined
    exact hdisciplined.imp fun forwarded h => ⟨h, h.serves⟩
  · intro m hm i b socket own hstep
    have hdisciplined := ((Law.ownership hregistry).of_occurs hm).2
    rw [Moment.Disciplined, hstep] at hdisciplined
    exact hdisciplined.imp fun g h => ⟨h, h.answers⟩

/-- A gateway, and a component that fetches a socket which may be paired. -/
def linkedComponents : List Component :=
  [Gateway.component,
    ⟨"c", [{ Socket.input "i" "Any" with exposed := true }],
      some fun _ => .fetch "i" fun _ => .push "o" .null .succeed, none⟩]

/-- Calls that pull a gateway to a scene of one node of that component. -/
def linkedCalls : List HostCall :=
  let pairings : Value := .object [("i", Link.toValue ⟨"e", "i"⟩), ("o", Link.toValue ⟨"e", "o"⟩)]
  let nodes : Table NodeInfo := .ofList [("e", ⟨"c", .empty⟩),
    ("g", ⟨Gateway.name, Table.empty.insert Gateway.pairingAttribute pairings⟩)]
  let exposed : ExposedIndex :=
    ⟨Table.empty.insert (socketKey "g" "o") ⟨"g", "o", "Any", Gateway.name⟩, .empty⟩
  [.bind (.memory (.ofTables ⟨exposed, ⟨nodes, .empty, .empty⟩⟩)), .activate .none,
    .requestValue "g" "o" none]

theorem sealed_linkedComponents : (Registry.ofComponents linkedComponents).Sealed := by
  refine Registry.sealed_ofComponents fun c hc => ?_
  rcases List.mem_cons.1 hc with rfl | hc
  · exact .inl rfl
  · obtain rfl := List.eq_of_mem_singleton hc
    refine .inr fun a => ⟨?_, nofun⟩
    rintro handler ⟨⟩
    exact fun answer => trivial

/-- The frame that a paired socket is answered on, if one is asked for at a moment. -/
def Moment.caller? (m : Moment) : Option Nat :=
  match m.step with
  | .paired _ b _ _ => some b.caller
  | _ => none

/-- The node of the linked scene asks the gateway, from two frames above it. -/
theorem sessions_owned_linked : ∃ (m : Moment) (i : Nat) (b : Binding) (g : Invocation),
    m.state.stack.height = 4 ∧ b.caller = 1 ∧ m.AnsweredBy i b g ∧ m.AnswersFrom b g := by
  have hasked : ((Session.recorded (.ofComponents linkedComponents) ⟨20, 20⟩
      linkedCalls).seen.moments[12]?.map fun m => (m.state.stack.height, m.caller?)) =
        some (4, some 1) := by decide +kernel
  obtain ⟨m, hm, hm'⟩ := Option.map_eq_some_iff.1 hasked
  obtain ⟨hheight, hcaller⟩ := Prod.mk.inj hm'
  have hoccurs : m.Occurs (.ofComponents linkedComponents) ⟨20, 20⟩ :=
    ⟨linkedCalls, List.mem_of_getElem? hm⟩
  rw [Moment.caller?] at hcaller
  split at hcaller
  · rename_i i b socket own hstep
    obtain ⟨g, hg, hanswers⟩ := (sessions_owned sealed_linkedComponents ⟨20, 20⟩).2.2 m hoccurs
      i b socket own hstep
    exact ⟨m, i, b, g, hheight, Option.some.inj hcaller, hg, hanswers⟩
  · exact nomatch hcaller

end SocketGraph
