import SocketGraph.Proofs.History

/-! The coherence of frames: a permeable frame keeps nothing but copies of what the frame below it has
too, so whatever is read from a frame is what its root frame holds. -/
namespace SocketGraph

/-- What one frame keeps is kept with the same values by another; the signals of the one are the last
signals of the other. -/
structure Frame.Within (inner outer : Frame) : Prop where
  outputs : ∀ {node socket v}, inner.outputs.get? node socket = some v →
    outer.outputs.get? node socket = some v
  inputs : ∀ {node socket v}, inner.inputs.get? node socket = some v →
    outer.inputs.get? node socket = some v
  exposed : ∀ {node socket v}, inner.exposed.get? node socket = some v →
    outer.exposed.get? node socket = some v
  signals : inner.signals <:+ outer.signals

namespace SocketValues

/-- Setting one socket to the same value keeps one table within another. -/
theorem get?_put_mono {t u : SocketValues}
    (h : ∀ {node socket v}, t.get? node socket = some v → u.get? node socket = some v)
    (node : NodeId) (socket : String) (v : Value) {node' : NodeId} {socket' : String} {v' : Value}
    (hv : (t.put node socket v).get? node' socket' = some v') :
    (u.put node socket v).get? node' socket' = some v' := by
  rw [get?_put] at hv ⊢
  split_ifs at hv ⊢
  · exact hv
  · exact h hv

end SocketValues

namespace Frame.Within

variable {inner outer : Frame}

theorem fresh (permeable : Bool) (provider : Option FrameProvider) (outer : Frame) :
    (Frame.fresh permeable provider).Within outer :=
  ⟨nofun, nofun, nofun, List.nil_suffix⟩

theorem putOutput (h : inner.Within outer) (socket : Link) (v : Value) :
    (inner.putOutput socket v).Within (outer.putOutput socket v) :=
  ⟨SocketValues.get?_put_mono h.outputs _ _ _, h.inputs, h.exposed, h.signals⟩

theorem putInput (h : inner.Within outer) (socket : Link) (v : Value) :
    (inner.putInput socket v).Within (outer.putInput socket v) :=
  ⟨h.outputs, SocketValues.get?_put_mono h.inputs _ _ _, h.exposed, h.signals⟩

theorem putExposed (h : inner.Within outer) (socket : Link) (v : Value) :
    (inner.putExposed socket v).Within (outer.putExposed socket v) :=
  ⟨h.outputs, h.inputs, SocketValues.get?_put_mono h.exposed _ _ _, h.signals⟩

theorem addSignal (h : inner.Within outer) (signal : Link) :
    (inner.addSignal signal).Within (outer.addSignal signal) := by
  obtain ⟨earlier, hearlier⟩ := h.signals
  refine ⟨h.outputs, h.inputs, h.exposed, earlier, ?_⟩
  rw [Frame.addSignal, Frame.addSignal, ← hearlier, List.append_assoc]

end Frame.Within

namespace FrameStack

variable {s : FrameStack} {i : Nat}

/-- Every permeable frame keeps only what the frame below it keeps. -/
def Coherent (s : FrameStack) : Prop :=
  ∀ i inner outer, s.frame? (i + 1) = some inner → s.frame? i = some outer →
    inner.permeable = true → inner.Within outer

theorem coherent_empty : Coherent .empty := nofun

/-- A change of the marks and the active nodes of a frame leaves its contents alone. -/
theorem Coherent.modify (h : s.Coherent) (j : Nat) {change : Frame → Frame}
    (hchange : ∀ f, ∃ marks active, change f = { f with marks := marks, active := active }) :
    (s.modify j change).Coherent := by
  intro i inner outer hi ho hp
  rw [frame?_modify] at hi ho
  split_ifs at hi ho with hji hjo
  · omega
  · obtain ⟨f, hf, rfl⟩ := Option.map_eq_some_iff.1 hi
    obtain ⟨marks, active, hfc⟩ := hchange f
    rw [hfc] at hp ⊢
    have hwithin := h i f outer hf ho hp
    exact ⟨hwithin.outputs, hwithin.inputs, hwithin.exposed, hwithin.signals⟩
  · obtain ⟨g, hg, rfl⟩ := Option.map_eq_some_iff.1 ho
    obtain ⟨marks, active, hgc⟩ := hchange g
    rw [hgc]
    have hwithin := h i inner g hi hg hp
    exact ⟨hwithin.outputs, hwithin.inputs, hwithin.exposed, hwithin.signals⟩
  · exact h i inner outer hi ho hp

/-- A write on a frame that no permeable frame stands on reaches both of two neighbours or neither. -/
theorem Coherent.writeThrough (h : s.Coherent) (hapart : s.isPermeable (i + 1) = false)
    {change : Frame → Frame} (hpermeable : ∀ f, (change f).permeable = f.permeable)
    (hchange : ∀ {f g : Frame}, f.Within g → (change f).Within (change g)) :
    (s.writeThrough i change).Coherent := by
  intro k inner outer hk ho hp
  rw [frame?_writeThrough] at hk ho
  have hsame : k + 1 ∈ s.lineage i ↔ k ∈ s.lineage i := by
    obtain ⟨f, hf, hfp⟩ : ∃ f, s.frame? (k + 1) = some f ∧ f.permeable = true := by
      split_ifs at hk
      · obtain ⟨f, hf, rfl⟩ := Option.map_eq_some_iff.1 hk
        exact ⟨f, hf, by rwa [← hpermeable]⟩
      · exact ⟨inner, hk, hp⟩
    have hkp : s.isPermeable (k + 1) = true := by rw [isPermeable, hf]; exact hfp
    rw [mem_lineage, mem_lineage]
    constructor
    · rintro ⟨hi, hle, hall⟩
      refine ⟨hi, by omega, fun l hl hli => ?_⟩
      rcases Nat.eq_or_lt_of_le hl with rfl | hl
      · exact hkp
      · exact hall l hl hli
    · rintro ⟨hi, hle, hall⟩
      rcases Nat.eq_or_lt_of_le hle with rfl | hle
      · simp [hapart] at hkp
      · exact ⟨hi, hle, fun l hl hli => hall l (by omega) hli⟩
  by_cases hmem : k ∈ s.lineage i
  · rw [if_pos (hsame.2 hmem)] at hk
    rw [if_pos hmem] at ho
    obtain ⟨f, hf, rfl⟩ := Option.map_eq_some_iff.1 hk
    obtain ⟨g, hg, rfl⟩ := Option.map_eq_some_iff.1 ho
    exact hchange (h k f g hf hg (by rwa [← hpermeable]))
  · rw [if_neg (mt hsame.1 hmem)] at hk
    rw [if_neg hmem] at ho
    exact h k inner outer hk ho hp

theorem Coherent.push (h : s.Coherent) (permeable : Bool) (provider : Option FrameProvider) :
    (s.push (.fresh permeable provider)).Coherent := by
  intro i inner outer hi ho hp
  rw [frame?_push] at hi ho
  split_ifs at hi ho with htop hbelow
  · obtain rfl := Option.some.inj hi
    exact .fresh _ _ _
  · obtain rfl := Option.some.inj hi
    exact .fresh _ _ _
  · rw [frame?_eq_none_iff.2 (by omega)] at hi
    exact nomatch hi
  · exact h i inner outer hi ho hp

theorem Coherent.pop (h : s.Coherent) : s.pop.Coherent := by
  intro i inner outer hi ho hp
  rw [frame?_pop] at hi ho
  split_ifs at hi ho
  exact h i inner outer hi ho hp

/-- A read that copies agree with finds what the root frame has. -/
theorem Coherent.readThrough {α : Type} (h : s.Coherent) {read : Frame → Option α}
    (hread : ∀ {f g : Frame} {a}, f.Within g → read f = some a → read g = some a)
    (hi : i < s.height) : s.readThrough i read = (s.frame? (s.root i)).bind read := by
  induction i with
  | zero => rw [readThrough_zero, root_zero]
  | succ i ih =>
    have hbelow := ih (by omega)
    obtain ⟨inner, hinner⟩ := exists_frame? hi
    obtain ⟨outer, houter⟩ := exists_frame? (show i < s.height by omega)
    rw [readThrough_succ read hi, root_succ hi]
    split_ifs with hp
    · rw [hinner, Option.bind_some, ← hbelow]
      rw [isPermeable, hinner] at hp
      cases hv : read inner with
      | none => rfl
      | some a =>
        have hcopy := hread (h i inner outer hinner houter hp) hv
        rw [readThrough_self houter hcopy]
        rfl
    · simp

/-- What is read from a frame is what its root frame alone holds. -/
structure Rooted (s : FrameStack) (i : Nat) : Prop where
  output : ∀ socket, s.output? i socket =
    (s.frame? (s.root i)).bind (·.outputs.get? socket.node socket.socket)
  input : ∀ socket, s.input? i socket =
    (s.frame? (s.root i)).bind (·.inputs.get? socket.node socket.socket)
  exposed : ∀ socket, s.exposed? i socket =
    (s.frame? (s.root i)).bind (·.exposed.get? socket.node socket.socket)
  exposedBy : ∀ node, s.exposedBy i node =
    ((s.frame? (s.root i)).bind (Table.get? ·.exposed node)).getD .empty

theorem Coherent.rooted (h : s.Coherent) (hi : i < s.height) : s.Rooted i := by
  have hexposed : ∀ socket, s.exposed? i socket =
      (s.frame? (s.root i)).bind (·.exposed.get? socket.node socket.socket) :=
    fun _ => h.readThrough (fun hfg => hfg.exposed) hi
  refine ⟨fun _ => h.readThrough (fun hfg => hfg.outputs) hi,
    fun _ => h.readThrough (fun hfg => hfg.inputs) hi, hexposed, fun node => ?_⟩
  refine Table.ext_get? fun socket => ?_
  rw [get?_exposedBy, hexposed]
  cases s.frame? (s.root i) with
  | none => rfl
  | some f =>
    simp only [Option.bind_some, SocketValues.get?]
    cases Table.get? f.exposed node <;> rfl

end FrameStack

/-- Every change of a run keeps the frames coherent: nothing is written on a frame that a permeable
frame stands on. -/
theorem Transition.coherent {scene : Scene} {pairs : Activation → Pairings → Prop}
    {calls : CallStack} {st st' : EngineState} (h : Transition scene pairs calls st st')
    (hst : st.stack.Coherent) : st'.stack.Coherent := by
  cases h with
  | enter ready made => exact hst.modify _ fun _ => ⟨_, _, rfl⟩
  | leave ready => exact hst.modify _ fun _ => ⟨_, _, rfl⟩
  | forward socket ready => exact hst.modify _ fun _ => ⟨_, _, rfl⟩
  | putInput socket v ready active =>
    exact hst.writeThrough ready.apart (fun _ => rfl) fun h => h.putInput _ v
  | putOutput socket v ready active =>
    exact hst.writeThrough ready.apart (fun _ => rfl) fun h => h.putOutput _ v
  | putExposed socket v ready active =>
    exact hst.writeThrough ready.apart (fun _ => rfl) fun h => h.putExposed _ v
  | addSignal socket ready active =>
    exact hst.writeThrough ready.apart (fun _ => rfl) fun h => h.addSignal _
  | mark target scope ready active made =>
    cases scope with
    | frame => exact hst.modify _ fun _ => ⟨_, _, rfl⟩
    | root => exact hst.modify _ fun _ => ⟨_, _, rfl⟩
    | forever => exact hst
  | push permeable provider bound => exact hst.push permeable provider
  | pop => exact hst.pop
  | deeper => exact hst
  | shallower => exact hst

/-- The coherence of all frames is a law of all sessions. -/
def Law.coherence (registry : Registry) : Law registry where
  pairs _ _ := True
  state st := st.stack.Coherent
  moment m := m.state.stack.Coherent
  links _ := .unconditional _ _
  fresh := FrameStack.coherent_empty
  transition := Transition.coherent
  changed hst := hst
  step hst _ := hst

/-- In every reachable state, also in the middle of a handler, the frames are coherent, and every frame
reads what its root frame alone holds. -/
theorem reachable_coherent {registry : Registry} {limits : Limits} {st : EngineState}
    (h : st.Reachable registry limits) :
    st.stack.Coherent ∧ ∀ i < st.stack.height, st.stack.Rooted i := by
  have hcoherent := (Law.coherence registry).of_reachable (fun hm => hm) h
  exact ⟨hcoherent, fun i hi => hcoherent.rooted hi⟩

/-- A component that pushes a value. -/
def pushingRegistry : Registry :=
  .ofComponents [⟨"c", [], some fun _ => .push "o" .null .succeed, none⟩]

/-- Calls that update one node of that component within a bracket. -/
def pushingCalls : List HostCall :=
  [.bind (.memory (.ofTables ⟨.empty, ⟨Table.empty.insert "n" ⟨"c", .empty⟩, .empty, .empty⟩⟩)),
    .activate .none, .beginCycle, .updateNode "n" none]

/-- The pushed value stands on three frames right after the push, and they are coherent. -/
theorem reachable_coherent_pushing : ∃ st : EngineState,
    st.stack.height = 3 ∧ st.stack.output? 2 ⟨"n", "o"⟩ = some .null ∧
      st.stack.Coherent ∧ ∀ i < st.stack.height, st.stack.Rooted i := by
  have hpushed : ((Session.recorded pushingRegistry ⟨3, 3⟩ pushingCalls).seen.moments[5]?.map
      fun m => (m.state.stack.height, m.state.stack.output? 2 ⟨"n", "o"⟩)) =
        some (3, some .null) := by decide +kernel
  obtain ⟨m, hm, hm'⟩ := Option.map_eq_some_iff.1 hpushed
  obtain ⟨hheight, houtput⟩ := Prod.mk.inj hm'
  have hoccurs : m.Occurs pushingRegistry ⟨3, 3⟩ := ⟨pushingCalls, List.mem_of_getElem? hm⟩
  exact ⟨m.state, hheight, houtput, reachable_coherent (.during hoccurs)⟩

end SocketGraph
