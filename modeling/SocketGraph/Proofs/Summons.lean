import SocketGraph.Proofs.Views

/-! Summons: why handlers are at work. A node is updated because no mark covers it, and it is asked for by
the host, by a gateway for its scene, or for an output that nobody knows yet; one that is left as it is, is
marked. Signals are never held back. -/
namespace SocketGraph

namespace FrameStack

variable {s t : FrameStack} {i : Nat}

/-- A frame on top of another one that it shares its contents with. Handlers work on such frames only, so
none of them works on a root frame. -/
def Inner (s : FrameStack) (i : Nat) : Prop := 0 < i ∧ s.isPermeable i = true

/-- Which frames let walks go on, and who answers on them. -/
def fittings (s : FrameStack) : List (Bool × Option FrameProvider) := s.view Frame.provider

/-- A frame lets nothing through if and only if it is bound to a gateway, which works on an inner frame and
is paired in some way. -/
def Regular (paired : Pairings → Prop) (s : FrameStack) : Prop :=
  ∀ w ∈ s.fittings, (w.1 = true ∧ ∀ b, w.2 ≠ some (.gateway b)) ∨
    w.1 = false ∧ ∃ b, w.2 = some (.gateway b) ∧ s.Inner b.caller ∧ paired b.pairings

theorem fittings_of_shape (h : s.shape = t.shape) : s.fittings = t.fittings :=
  view_of_shape (v := Frame.Shape.provider) h

theorem Inner.congr (h : s.fittings = t.fittings) (hi : s.Inner i) : t.Inner i :=
  ⟨hi.1, isPermeable_of_outline (outline_of_view h) i ▸ hi.2⟩

theorem Inner.lt_height (hi : s.Inner i) : i < s.height := by
  by_contra hlt
  have hopen := hi.2
  rw [isPermeable, frame?_eq_none_iff.2 (Nat.le_of_not_lt hlt)] at hopen
  exact nomatch hopen

theorem Inner.push (f : Frame) (hi : s.Inner i) : (s.push f).Inner i := by
  refine ⟨hi.1, ?_⟩
  rw [isPermeable_push, if_neg (Nat.ne_of_lt hi.lt_height)]
  exact hi.2

/-- A permeable frame that is put on top of another one is an inner one. -/
theorem inner_push {f : Frame} (hf : f.permeable = true) (hs : 0 < s.height) :
    (s.push f).Inner s.height := by
  refine ⟨hs, ?_⟩
  rw [isPermeable_push, if_pos rfl, hf]

theorem Regular.congr {paired : Pairings → Prop} (h : s.fittings = t.fittings)
    (hs : s.Regular paired) : t.Regular paired := by
  intro w hw
  refine (hs w (h ▸ hw)).imp id ?_
  rintro ⟨hopen, b, hb, hinner, hp⟩
  exact ⟨hopen, b, hb, hinner.congr h, hp⟩

theorem Regular.push {paired : Pairings → Prop} (hs : s.Regular paired) {f : Frame}
    (hf : (f.permeable = true ∧ ∀ b, f.provider ≠ some (.gateway b)) ∨
      f.permeable = false ∧ ∃ b, f.provider = some (.gateway b) ∧ s.Inner b.caller ∧
        paired b.pairings) : (s.push f).Regular paired := by
  intro w hw
  rw [fittings, view, FrameStack.push, List.map_append, List.mem_append] at hw
  have hw : (w.1 = true ∧ ∀ b, w.2 ≠ some (.gateway b)) ∨
      w.1 = false ∧ ∃ b, w.2 = some (.gateway b) ∧ s.Inner b.caller ∧ paired b.pairings := by
    rcases hw with hw | hw
    · exact hs w hw
    · obtain rfl := List.eq_of_mem_singleton hw
      exact hf
  refine hw.imp id ?_
  rintro ⟨hopen, b, hb, hinner, hp⟩
  exact ⟨hopen, b, hb, hinner.push f, hp⟩

/-- Whoever answers as a gateway works on an inner frame. -/
theorem Regular.caller {paired : Pairings → Prop} (hs : s.Regular paired) {b : Binding}
    (hb : s.provider? i = some (.gateway b)) : s.Inner b.caller := by
  obtain ⟨j, -, f, hf, hprovider⟩ := exists_of_readThrough hb
  have hmem : (f.permeable, f.provider) ∈ s.fittings :=
    List.mem_map_of_mem (List.mem_of_getElem? hf)
  rcases hs _ hmem with ⟨-, hnone⟩ | ⟨-, b', hb', hinner, -⟩
  · exact absurd hprovider (hnone b)
  · obtain ⟨⟩ : FrameProvider.gateway b = .gateway b' :=
      Option.some.inj (hprovider.symm.trans hb')
    exact hinner

theorem fittings_enter (s : FrameStack) (i : Nat) (a : Activation) :
    (s.enter i a).fittings = s.fittings := view_modify (fun _ => rfl) fun _ => rfl

theorem fittings_leave (s : FrameStack) (i : Nat) : (s.leave i).fittings = s.fittings :=
  view_modify (fun _ => rfl) fun _ => rfl

end FrameStack

theorem Script.fittings_effect (i : Nat) (a : Activation) (st : EngineState) (script : Script) :
    (script.effect i a st).stack.fittings = st.stack.fittings := by
  cases script with
  | push | expose =>
    exact FrameStack.fittings_of_shape (FrameStack.shape_writeThrough fun _ => rfl)
  | exposeSignal =>
    simp only [effect]
    split_ifs
    · exact FrameStack.fittings_of_shape (FrameStack.shape_addSignal _ _ _)
    · rfl
  | forward =>
    simp only [effect]
    split_ifs
    · exact FrameStack.view_modify (fun _ => rfl) fun _ => rfl
    · rfl
  | mark target scope next =>
    cases scope with
    | frame | root => exact FrameStack.view_modify (fun _ => rfl) fun _ => rfl
    | forever => rfl
  | _ => rfl

/-- Who answers on a frame, and whether it lets walks go on, stays as long as the frame is open. -/
theorem Course.fittings {scene : Scene} {calls : CallStack} {role role' : Role} {st st' : EngineState}
    {ms : List Moment} (h : Course scene calls role st ms role' st') :
    st'.stack.fittings = st.stack.fittings := by
  induction h with
  | seq _ _ ih ih' => exact ih'.trans ih
  | kept => exact FrameStack.fittings_of_shape (FrameStack.shape_putInput _ _ _ _)
  | updated _ _ _ _ ih | triggered _ _ _ _ ih =>
    exact (FrameStack.fittings_leave _ _).trans (ih.trans (FrameStack.fittings_enter _ _ _))
  | wrote calls g st script => exact script.fittings_effect _ _ st
  | inner _ ih => exact ih
  | linked _ _ ih => exact EngineState.view_closeBoth ih
  | signalled _ _ _ _ ih =>
    have hcall := EngineState.view_closeBoth ih
    exact EngineState.view_closeBoth hcall
  | _ => rfl

/-- Why a node is evaluated on a frame, perhaps for one of its outputs: for the host, at the entrance of a
linked scene, where nothing is known of its outputs yet, or because an output that an active node is fed
from is not known. -/
inductive Summoned (x : Executable) (calls : CallStack) (s : FrameStack) (i : Nat) (node : NodeId) :
    Option String → Prop
  | host (requested : Option String) (idle : calls = []) : Summoned x calls s i node requested
  | entrance {b : Binding} (requested : Option String) (bound : s.provider? i = some (.gateway b))
      (unknown : ∀ k, s.output? i ⟨node, k⟩ = none) : Summoned x calls s i node requested
  | fetched {b : Activation} {socket k : String} (active : s.active? i = some b)
      (edge : ⟨node, k⟩ ∈ x.producers b.node socket) (unknown : s.output? i ⟨node, k⟩ = none) :
      Summoned x calls s i node (some k)

/-- An output that is known is not asked for again. -/
theorem resolveProducer_of_known {ω : Type} (below : Calls ω) (lookup : Lookup ω) {i : Nat} {l : Link}
    {run : Run ω} {v : Value} (h : run.state.stack.output? i l = some v) :
    resolveProducer below lookup i l run = (.ok (some v), run) := by
  rw [resolveProducer, Action.readStack_bind_apply, h]
  rfl

/-- An update that is started: the node has become active, one nesting deeper, in a state in which no mark
covered it. -/
def Summoned.Starts (scene : Scene) (calls : CallStack) (st : EngineState) (i : Nat) (a : Activation) :
    Prop :=
  ∃ (st₀ : EngineState) (info : NodeInfo), st = (st₀.enter i a).deeper ∧
    scene.tables.executable.node? a.node = some info ∧
    st₀.needsUpdate i a.node info.component = true ∧
    Summoned scene.tables.executable calls st₀.stack i a.node a.requested?

namespace Moment

/-- What must hold in a moment for its step to be taken: handlers work on inner frames of regular stacks,
an update is started for a reason, and a node that is left as it is, is marked. -/
def Due (scene : Scene) (paired : Pairings → Prop) (m : Moment) : Prop :=
  match m.step with
  | .skipped i node => m.state.stack.Inner i ∧ ∃ info,
      scene.tables.executable.node? node = some info ∧
        m.state.needsUpdate i node info.component = false
  | .started i a => m.state.stack.Regular paired ∧ m.state.stack.Inner i ∧
      if a.isSignal then m.calls = [] ∨ ∃ b, m.state.stack.provider? i = some (.gateway b)
      else Summoned.Starts scene m.calls m.state i a
  | .performed i _ _ => m.state.stack.Regular paired ∧ m.state.stack.Inner i
  | _ => True

/-- A delivery that a handler can be found for is followed by the start of that handler. -/
def Heeded (scene : Scene) (m : Moment) (after : List Moment) : Prop :=
  ∀ i link info c handler, m.step = .delivered i link →
    scene.tables.executable.node? link.node = some info →
    scene.registry.get? info.component = some c → c.signal = some handler →
    let a := c.activation link.node info.attributes (.push link.socket [])
    ∃ rest, after = change m.calls (m.state.enter i a) ::
      ⟨m.state.enter i a, m.calls, .started i a⟩ :: rest

theorem Heeded.append {scene : Scene} {m : Moment} {after : List Moment} (h : m.Heeded scene after)
    (more : List Moment) : m.Heeded scene (after ++ more) := by
  intro i link info c handler hstep hnode hc hhandler
  obtain ⟨rest, hrest⟩ := h i link info c handler hstep hnode hc hhandler
  exact ⟨rest ++ more, by rw [hrest]; rfl⟩

end Moment

/-- Moments of which each is due, and whose deliveries are all heeded. -/
structure Warranted (scene : Scene) (paired : Pairings → Prop) (ms : List Moment) : Prop where
  due : ∀ m ∈ ms, m.Due scene paired
  heeded : ∀ before m after, ms = before ++ m :: after → m.Heeded scene after

namespace Warranted

variable {scene : Scene} {paired : Pairings → Prop} {ms ms' : List Moment}

theorem nil : Warranted scene paired [] := ⟨nofun, fun before _ _ h => by simp at h⟩

theorem append (h : Warranted scene paired ms) (h' : Warranted scene paired ms') :
    Warranted scene paired (ms ++ ms') := by
  refine ⟨List.forall_mem_append.2 ⟨h.due, h'.due⟩, fun before m after hsplit => ?_⟩
  rcases List.append_eq_append_iff.1 hsplit with ⟨rest, -, hms'⟩ | ⟨rest, hms, hrest⟩
  · exact h'.heeded rest m after hms'
  · cases rest with
    | nil => exact h'.heeded [] m after (by simpa using hrest.symm)
    | cons m' rest =>
      obtain ⟨rfl, rfl⟩ := List.cons.inj hrest
      exact (h.heeded before m rest hms).append ms'

/-- A moment that tells of no delivery. -/
theorem single {m : Moment} (hdue : m.Due scene paired) (hstep : ∀ i link, m.step ≠ .delivered i link) :
    Warranted scene paired [m] := by
  refine ⟨List.forall_mem_singleton.2 hdue, fun before m' after hsplit => ?_⟩
  have hm' : m' ∈ [m] := hsplit ▸ List.mem_append_right _ List.mem_cons_self
  obtain rfl := List.eq_of_mem_singleton hm'
  exact fun i link _ _ _ hdelivered => absurd hdelivered (hstep i link)

/-- A delivery that is heeded by what comes after it. -/
theorem delivered {calls : CallStack} {st : EngineState} {i : Nat} {link : Link}
    (hheeded : (⟨st, calls, .delivered i link⟩ : Moment).Heeded scene ms)
    (h : Warranted scene paired ms) :
    Warranted scene paired (⟨st, calls, .delivered i link⟩ :: ms) := by
  refine ⟨List.forall_mem_cons.2 ⟨trivial, h.due⟩, fun before m after hsplit => ?_⟩
  cases before with
  | nil =>
    obtain ⟨rfl, rfl⟩ := List.cons.inj hsplit
    exact hheeded
  | cons m' before =>
    obtain ⟨-, hms⟩ := List.cons.inj hsplit
    exact h.heeded before m after hms

theorem cons {m : Moment} (hm : Warranted scene paired [m]) (h : Warranted scene paired ms) :
    Warranted scene paired (m :: ms) :=
  show Warranted scene paired ([m] ++ ms) from hm.append h

theorem change (calls : CallStack) (st : EngineState) :
    Warranted scene paired [.change calls st] := single trivial nofun

theorem opening (calls : CallStack) (st : EngineState) (outer inner : Frame) :
    Warranted scene paired (Moment.opening calls st outer inner) := (change _ _).cons (change _ _)

theorem closing (calls : CallStack) (st : EngineState) :
    Warranted scene paired (Moment.closing calls st) := (change _ _).cons (change _ _)

end Warranted

end SocketGraph
