import SocketGraph.Proofs.Marking

/-! Registered marks. Handlers mark in the name of the node that they work for, so everything that is marked
while an engine is active has a registered component. Whether an evaluation first looks for marks or first
for the component makes no difference. -/
namespace SocketGraph

namespace Registry

/-- Every component is registered under its own name. -/
def Named (r : Registry) : Prop := ∀ {name : String} {c : Component}, r.get? name = some c → c.name = name

theorem Named.registerAll (cs : List Component) {r : Registry} (hr : r.Named) : (r.registerAll cs).Named := by
  induction cs generalizing r with
  | nil => exact hr
  | cons c cs ih =>
    refine ih (r := r.register c) fun {name c'} hget => ?_
    rw [register, Table.get?_insert] at hget
    split_ifs at hget with hname
    · rw [← Option.some.inj hget, hname]
    · exact hr hget

theorem named_ofComponents (cs : List Component) : (ofComponents cs).Named :=
  Named.registerAll cs fun {name c} (hget : Table.empty.get? name = some c) => nomatch hget

end Registry

/-- What can be marked in a scene: nodes of registered components, and the names of these components. -/
def Scene.Registers (scene : Scene) : Subject → Prop
  | .node node => ∃ info c, scene.tables.executable.node? node = some info ∧
      scene.registry.get? info.component = some c
  | .component component => ∃ c, scene.registry.get? component = some c

/-- Everything that is marked in a state, on a frame or forever, is registered. -/
structure EngineState.MarksRegistered (scene : Scene) (st : EngineState) : Prop where
  forever : ∀ x, st.forever.Has x → scene.Registers x
  frames : ∀ i x, st.stack.Carries i x → scene.Registers x

section
variable {scene : Scene} {calls : CallStack} {st st' : EngineState}

/-- The node of an activation is registered, and its component is under the name that the activation has. -/
theorem Scene.Instance.registers (hnamed : scene.registry.Named) {c : Component} {a : Activation}
    (h : scene.Instance c a) (e : Extent) (target : MarkTarget) (x : Subject)
    (hx : Marking.Of ⟨e, target, a.node, a.component⟩ x) : scene.Registers x := by
  obtain ⟨info, cause, hnode, hget, hmade⟩ := h
  cases x with
  | node node =>
    obtain ⟨-, rfl⟩ := hx
    exact ⟨info, c, hnode, hget⟩
  | component component =>
    obtain ⟨-, rfl⟩ := hx
    rw [hmade]
    exact ⟨c, (congrArg scene.registry.get? (hnamed hget)).trans hget⟩

namespace EngineState.MarksRegistered

theorem fresh : MarksRegistered scene .fresh where
  forever x h := by cases x <;> exact nomatch h
  frames _ _ h := nomatch h

theorem of_view (h : st.MarksRegistered scene)
    (hview : st'.stack.view Frame.marks = st.stack.view Frame.marks) (hforever : st'.forever = st.forever) :
    st'.MarksRegistered scene where
  forever := hforever ▸ h.forever
  frames i x hx := h.frames i x ((FrameStack.carries_of_view hview).1 hx)

theorem push (h : st.MarksRegistered scene) (permeable : Bool) (provider : Option FrameProvider) :
    (st.push (.fresh permeable provider)).MarksRegistered scene where
  forever := h.forever
  frames i x := by
    rintro ⟨f, hf, hx⟩
    by_cases hi : i < st.stack.height
    · exact h.frames i x ⟨f, (FrameStack.frame?_push_of_lt _ hi).symm.trans hf, hx⟩
    · have hlt : i < (st.stack.push (.fresh permeable provider)).height := FrameStack.lt_height_of_frame? hf
      rw [FrameStack.height_push] at hlt
      obtain rfl : i = st.stack.height := by omega
      obtain rfl := Option.some.inj ((FrameStack.frame?_push_height _ _).symm.trans hf)
      cases x <;> exact nomatch hx

theorem pop (h : st.MarksRegistered scene) : st.closeFrame.MarksRegistered scene where
  forever := h.forever
  frames i x := by
    rintro ⟨f, hf, hx⟩
    rw [closeFrame, FrameStack.frame?_pop] at hf
    split_ifs at hf
    exact h.frames i x ⟨f, hf, hx⟩

/-- A mark adds the node or the component that it is made for. -/
theorem mark (h : st.MarksRegistered scene) {i : Nat} (hi : i < st.stack.height) {n : NodeId} {c : String}
    {target : MarkTarget} {scope : MarkScope}
    (hadds : ∀ x, Marking.Of ⟨.everywhere, target, n, c⟩ x → scene.Registers x) :
    (st.mark i n c target scope).MarksRegistered scene := by
  have hon {f : Nat} (hf : f < st.stack.height) :
      MarksRegistered scene { st with stack := st.stack.mark f target n c } := by
    refine ⟨h.forever, fun j x hx => ?_⟩
    rcases (FrameStack.carries_mark hf .everywhere target n c).1 hx with hx | ⟨-, hx⟩
    · exact h.frames j x hx
    · exact hadds x hx
  cases scope with
  | frame => exact hon hi
  | root => exact hon (FrameStack.root_lt_height hi)
  | forever =>
    refine ⟨fun x hx => ?_, h.frames⟩
    rcases (Marks.has_add st.forever .everywhere target n c x).1 hx with hx | hx
    · exact h.forever x hx
    · exact hadds x hx

/-- Whatever changes a state, what is marked stays registered. -/
theorem transition (hnamed : scene.registry.Named) {pairs : Activation → Pairings → Prop}
    (hstep : Transition scene pairs calls st st') (h : st.MarksRegistered scene) :
    st'.MarksRegistered scene := by
  cases hstep with
  | enter | leave | forward => exact h.of_view (FrameStack.view_modify (fun _ => rfl) fun _ => rfl) rfl
  | putInput | putOutput | putExposed | addSignal =>
    exact h.of_view (FrameStack.view_writeThrough (fun _ => rfl) fun _ => rfl) rfl
  | mark target scope ready active made =>
    exact h.mark ready.present fun x hx => made.registers hnamed _ target x hx
  | push permeable provider => exact h.push permeable provider
  | pop => exact h.pop
  | deeper | shallower => exact ⟨h.forever, h.frames⟩

end EngineState.MarksRegistered
end

/-- Some moments have been added to a history, and what is marked in their states is registered. -/
def Invariant.marksRegistered (scene : Scene) (hnamed : scene.registry.Named) (before : List Moment) :
    Invariant scene .history where
  pairs _ _ := True
  kept _ st h := st.MarksRegistered scene ∧
    ∃ new, h.moments = new ++ before ∧ ∀ m ∈ new, m.state.MarksRegistered scene
  links _ := .unconditional _ _
  transition := by
    rintro calls st st' h hstep ⟨hst, new, hmoments, hnew⟩
    have hst' := hst.transition hnamed hstep
    exact ⟨hst', .change h.calls st' :: new, congrArg _ hmoments, List.forall_mem_cons.2 ⟨hst', hnew⟩⟩
  event _ h := h
  step := by
    rintro calls st s h - ⟨hst, new, hmoments, hnew⟩
    exact ⟨hst, ⟨st, h.calls, s⟩ :: new, congrArg _ hmoments, List.forall_mem_cons.2 ⟨hst, hnew⟩⟩

namespace Errand

variable {scene : Scene} {r r' : Run History}

/-- What the host does to an engine at rest keeps every invariant. -/
theorem keeps (I : Invariant scene .history) (h : Errand scene r r') (hr : r.state.Resting)
    (hkept : I.kept [] r.state r.seen) : r'.state.Resting ∧ I.kept [] r'.state r'.seen := by
  have hbracketed := hr.bracketed
  have hholds : I.Holds ⟨[], r.state.stack, 0⟩ r := ⟨rfl, hr.nesting, hkept⟩
  have hto {t : FrameStack} (ht : t.Bracketed) (h' : I.Holds ⟨[], t, 0⟩ r') :
      r'.state.Resting ∧ I.kept [] r'.state r'.seen := ⟨⟨ht.congr h'.shape.symm, h'.nesting⟩, h'.kept⟩
  cases h with
  | idle => exact hto hbracketed hholds
  | opened => exact hto hbracketed.push (Invariant.leads_openFrame _ _ hholds)
  | closed => exact hto hbracketed.pop (Invariant.leads_closeFrame _ _ hholds)
  | evaluated node requested provider =>
    refine hto hbracketed (Invariant.leads_callScope provider (hbracketed.served _ _ _) hbracketed.shows ?_ _ hholds)
    exact fun t ht hshows => I.safe_hostCalls.evaluate node requested ht hshows
  | propagated socket sources provider =>
    exact hto hbracketed
      (I.safe_hostCalls.propagate socket sources provider (hbracketed.served _ _ _) hbracketed.shows _ hholds)

end Errand

/-- Whatever the host calls for, what is marked stays registered, in all moments on the way. -/
theorem HostCall.marksRegistered_performAll {s : Session History} {tables : Tables} {st : EngineState}
    (hnamed : s.engine.registry.Named) (hactive : s.engine.active = some (tables, st)) (hresting : st.Resting)
    (hst : st.MarksRegistered (s.engine.scene tables)) (calls : List HostCall)
    (hcalls : ∀ call ∈ calls, call ≠ .terminate) :
    ∃ new st', (performAll .history calls s).2.seen.moments = new ++ s.seen.moments ∧
      (performAll .history calls s).2.engine.active = some (tables, st') ∧
      st'.MarksRegistered (s.engine.scene tables) ∧ ∀ m ∈ new, m.state.MarksRegistered (s.engine.scene tables) := by
  induction calls generalizing s st with
  | nil => exact ⟨[], st, rfl, hactive, hst, nofun⟩
  | cons call rest ih =>
    obtain ⟨hcall, hrest⟩ := List.forall_mem_cons.1 hcalls
    obtain ⟨r, hrun, herrand⟩ := errand_perform call hactive hcall
    obtain ⟨hr, hst', new, hmoments, hnew⟩ :=
      herrand.keeps (.marksRegistered _ hnamed s.seen.moments) hresting ⟨hst, [], rfl, nofun⟩
    obtain ⟨new', st', hmoments', hactive', hst'', hnew'⟩ :=
      ih (s := (call.perform .history s).2) (by rwa [hrun]) (by rw [hrun]) hr (by rwa [hrun]) hrest
    rw [hrun] at hst'' hnew' hmoments'
    refine ⟨new' ++ new, st', ?_, hactive', hst'', List.forall_mem_append.2 ⟨hnew', hnew⟩⟩
    rw [List.append_assoc, ← hmoments, ← hmoments', ← hrun]
    rfl

/-- Evaluate a node, with its component looked up before its marks. -/
def evaluateRegistered {ω : Type} (scene : Scene) (watch : Watcher ω) (below : Calls ω) (frame : Nat)
    (node : NodeId) (requested : Option String) : Action ω (Outcome (Table Value)) := do
  match scene.tables.executable.node? node with
  | none => pure (.error (.unknownNode node))
  | some info =>
    match scene.registry.get? info.component with
    | none => pure (.error (.unknownComponent node info.component))
    | some c =>
      let st ← Action.state
      if st.needsUpdate frame node info.component then
        let a := c.activation node info.attributes (.pull requested)
        Action.changeStack watch (·.enter frame a)
        let outcome ← Action.nested watch (runUpdate scene watch below frame c a)
        Action.changeStack watch (·.leave frame)
        match outcome with
        | .error failure => pure (.error failure)
        | .ok () =>
          let exposed ← Action.readStack (·.exposedBy frame node)
          pure (.ok exposed)
      else
        Action.note watch (.skipped frame node)
        let exposed ← Action.readStack (·.exposedBy frame node)
        pure (.ok exposed)

/-- A node of a component that is not registered is not marked. -/
theorem EngineState.MarksRegistered.needsUpdate {scene : Scene} {st : EngineState}
    (h : st.MarksRegistered scene) {node : NodeId} {info : NodeInfo}
    (hnode : scene.tables.executable.node? node = some info)
    (hmissing : scene.registry.get? info.component = none) (frame : Nat) :
    st.needsUpdate frame node info.component = true := by
  by_contra hmarked
  have hof (x : Subject) (hx : st.Marked frame x) : scene.Registers x := by
    rcases hx with hx | hx | hx
    · exact h.forever x hx
    · exact h.frames _ x hx
    · exact h.frames _ x hx
  rcases EngineState.needsUpdate_eq_false_iff.1 (Bool.eq_false_iff.2 hmarked) with hx | hx
  · obtain ⟨info', c, hnode', hget⟩ := hof _ hx
    obtain rfl := Option.some.inj (hnode.symm.trans hnode')
    exact nomatch hmissing.symm.trans hget
  · obtain ⟨c, hget⟩ := hof _ hx
    exact nomatch hmissing.symm.trans hget

theorem evaluateAt_eq_evaluateRegistered {ω : Type} {scene : Scene} (watch : Watcher ω) (below : Calls ω)
    (frame : Nat) (node : NodeId) (requested : Option String) {r : Run ω}
    (h : r.state.MarksRegistered scene) :
    evaluateAt scene watch below frame node requested r =
      evaluateRegistered scene watch below frame node requested r := by
  unfold evaluateAt evaluateRegistered
  cases hnode : scene.tables.executable.node? node with
  | none => rfl
  | some info =>
    dsimp only
    cases hget : scene.registry.get? info.component with
    | none =>
      rw [Action.state_bind_apply, if_pos (h.needsUpdate hnode hget frame)]
    | some c => rfl

/-- After an activation, whatever the host calls for: in every state, in the middle of a call or between two
calls, everything that is marked is registered, and an evaluation does the same, with the same answer, if it
looks for the component of its node before it looks for marks. -/
theorem marks_before_lookup (components : List Component) (s : Session History) (tables : Tables)
    (hregistry : s.engine.registry = .ofComponents components)
    (hfresh : s.engine.active = some (tables, .fresh)) (calls : List HostCall)
    (hcalls : ∀ call ∈ calls, call ≠ .terminate) :
    let s' := (HostCall.performAll .history calls s).2
    ∃ new st', s'.seen.moments = new ++ s.seen.moments ∧ s'.engine.active = some (tables, st') ∧
      ∀ st, (st = st' ∨ ∃ m ∈ new, st = m.state) → st.MarksRegistered (s.engine.scene tables) ∧
        ∀ {ω : Type} (watch : Watcher ω) (below : Calls ω) (r : Run ω), r.state = st →
          ∀ frame node requested, evaluateAt (s.engine.scene tables) watch below frame node requested r =
            evaluateRegistered (s.engine.scene tables) watch below frame node requested r := by
  intro s'
  obtain ⟨new, st', hmoments, hactive, hst', hnew⟩ := HostCall.marksRegistered_performAll
    (hregistry ▸ Registry.named_ofComponents components) hfresh ⟨.empty, rfl⟩ .fresh calls hcalls
  refine ⟨new, st', hmoments, hactive, fun st hst => ?_⟩
  have hregistered : st.MarksRegistered (s.engine.scene tables) := by
    rcases hst with rfl | ⟨m, hm, rfl⟩
    · exact hst'
    · exact hnew m hm
  refine ⟨hregistered, fun watch below r hr frame node requested => ?_⟩
  exact evaluateAt_eq_evaluateRegistered watch below frame node requested (hr ▸ hregistered)

/-- When the second update of a bracket is left out, the node is marked and its component is registered. -/
theorem marks_before_lookup_repeated :
    ∃ m ∈ (HostCall.performAll .history repeatedCalls rootedSession).2.seen.moments, m.step = .skipped 2 "n" ∧
      let scene := rootedSession.engine.scene rootedTables
      m.state.MarksRegistered scene ∧ ∀ frame node requested,
        evaluateAt scene .silent (scene.hostCalls .silent) frame node requested ⟨m.state, .empty, ()⟩ =
          evaluateRegistered scene .silent (scene.hostCalls .silent) frame node requested ⟨m.state, .empty, ()⟩ := by
  have hskipped : (HostCall.performAll .history repeatedCalls rootedSession).2.seen.moments.any
      (fun m => match m.step with
        | .skipped i node => i == 2 && node == "n"
        | _ => false) = true := by decide +kernel
  obtain ⟨new, st', hmoments, -, hstates⟩ := marks_before_lookup [rootedComponent] rootedSession rootedTables rfl rfl
    repeatedCalls (by simp [repeatedCalls])
  rw [hmoments, show rootedSession.seen.moments = [] from rfl, List.append_nil] at hskipped ⊢
  obtain ⟨m, hm, hstep⟩ := List.any_eq_true.1 hskipped
  obtain ⟨hregistered, hsame⟩ := hstates m.state (.inr ⟨m, hm, rfl⟩)
  refine ⟨m, hm, ?_, hregistered, hsame .silent _ ⟨m.state, .empty, ()⟩ rfl⟩
  split at hstep
  · simp_all
  · exact absurd hstep Bool.false_ne_true

end SocketGraph
