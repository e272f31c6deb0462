import SocketGraph.Proofs.Shadowing

/-! Stacks that are alike. Below some height their frames differ at most in the outputs and the inputs that are kept
for nodes hidden there, and from there on they are the same; so whoever does not ask a frame for a node that is
hidden on it cannot tell one from the other. -/
namespace SocketGraph

/-- Two frames that differ at most in what is pushed and resolved for hidden nodes. -/
structure Frame.Alike (hidden : NodeId → Prop) (f f' : Frame) : Prop where
  shape : f.shape = f'.shape
  exposed : f.exposed = f'.exposed
  signals : f.signals = f'.signals
  marks : f.marks = f'.marks
  outputs : ∀ node, ¬ hidden node → ∀ socket, f.outputs.get? node socket = f'.outputs.get? node socket
  inputs : ∀ node, ¬ hidden node → ∀ socket, f.inputs.get? node socket = f'.inputs.get? node socket

namespace Frame.Alike

variable {hidden hidden' : NodeId → Prop} {f f' f'' : Frame}

theorem refl (f : Frame) : Alike hidden f f := ⟨rfl, rfl, rfl, rfl, fun _ _ _ => rfl, fun _ _ _ => rfl⟩

theorem symm (h : Alike hidden f f') : Alike hidden f' f where
  shape := h.shape.symm
  exposed := h.exposed.symm
  signals := h.signals.symm
  marks := h.marks.symm
  outputs node hn socket := (h.outputs node hn socket).symm
  inputs node hn socket := (h.inputs node hn socket).symm

theorem trans (h : Alike hidden f f') (h' : Alike hidden f' f'') : Alike hidden f f'' where
  shape := h.shape.trans h'.shape
  exposed := h.exposed.trans h'.exposed
  signals := h.signals.trans h'.signals
  marks := h.marks.trans h'.marks
  outputs node hn socket := (h.outputs node hn socket).trans (h'.outputs node hn socket)
  inputs node hn socket := (h.inputs node hn socket).trans (h'.inputs node hn socket)

theorem mono (hsub : ∀ node, hidden node → hidden' node) (h : Alike hidden f f') : Alike hidden' f f' :=
  { h with
    outputs := fun node hn => h.outputs node fun hhidden => hn (hsub node hhidden)
    inputs := fun node hn => h.inputs node fun hhidden => hn (hsub node hhidden) }

/-- An output of a hidden node makes no difference. -/
theorem putOutput_hidden (f : Frame) {l : Link} (hl : hidden l.node) (v : Value) : Alike hidden f (f.putOutput l v) where
  shape := rfl
  exposed := rfl
  signals := rfl
  marks := rfl
  outputs node hn socket := by
    have hother : ¬ (node = l.node ∧ socket = l.socket) := fun h => hn (h.1 ▸ hl)
    rw [Frame.putOutput, SocketValues.get?_put, if_neg hother]
  inputs _ _ _ := rfl

theorem putInput_hidden (f : Frame) {l : Link} (hl : hidden l.node) (v : Value) : Alike hidden f (f.putInput l v) where
  shape := rfl
  exposed := rfl
  signals := rfl
  marks := rfl
  outputs _ _ _ := rfl
  inputs node hn socket := by
    have hother : ¬ (node = l.node ∧ socket = l.socket) := fun h => hn (h.1 ▸ hl)
    rw [Frame.putInput, SocketValues.get?_put, if_neg hother]

end Frame.Alike

/-- A change that makes alike frames alike again, whichever nodes are hidden. -/
def Frame.Blind (change : Frame → Frame) : Prop :=
  ∀ {hidden : NodeId → Prop} {f f' : Frame}, Frame.Alike hidden f f' → Frame.Alike hidden (change f) (change f')

namespace Frame.Blind

theorem putOutput (l : Link) (v : Value) : Blind (·.putOutput l v) := fun h =>
  { h with
    outputs := fun node hn socket => by
      simp only [Frame.putOutput, SocketValues.get?_put, h.outputs node hn socket] }

theorem putInput (l : Link) (v : Value) : Blind (·.putInput l v) := fun h =>
  { h with
    inputs := fun node hn socket => by
      simp only [Frame.putInput, SocketValues.get?_put, h.inputs node hn socket] }

theorem putExposed (l : Link) (v : Value) : Blind (·.putExposed l v) := fun h =>
  { h with exposed := congrArg (·.put l.node l.socket v) h.exposed }

theorem addSignal (l : Link) : Blind (·.addSignal l) := fun h =>
  { h with signals := congrArg (· ++ [l]) h.signals }

theorem mark (target : MarkTarget) (node : NodeId) (component : String) : Blind (·.mark target node component) :=
  fun h => { h with marks := congrArg (·.add target node component) h.marks }

/-- What becomes of the active nodes depends on them alone. -/
theorem of_active (change : List Activation → List Activation) :
    Blind fun f => { f with active := change f.active } := fun h =>
  { h with shape := by have := h.shape; simp_all [Frame.shape] }

theorem enter (a : Activation) : Blind (·.enter a) := of_active (a :: ·)

theorem leave : Blind Frame.leave := of_active List.tail

theorem updateActive (change : Activation → Activation) : Blind (·.updateActive change) :=
  of_active (·.modifyHead change)

end Frame.Blind

namespace FrameStack

variable {P : Nat → Prop} {hidden hidden' : Nat → NodeId → Prop} {n : Nat} {s t u : FrameStack}

/-- Some of the frames are alike. -/
def AlikeOn (P : Nat → Prop) (hidden : Nat → NodeId → Prop) (s t : FrameStack) : Prop :=
  ∀ j, P j → Option.Rel (Frame.Alike (hidden j)) (s.frame? j) (t.frame? j)

namespace AlikeOn

theorem of_frame?_eq (h : ∀ j, P j → s.frame? j = t.frame? j) : AlikeOn P hidden s t := by
  intro j hj
  rw [h j hj]
  cases t.frame? j with
  | none => exact .none
  | some f => exact .some (.refl f)

theorem refl (s : FrameStack) : AlikeOn P hidden s s := of_frame?_eq fun _ _ => rfl

theorem symm (h : AlikeOn P hidden s t) : AlikeOn P hidden t s := by
  intro j hj
  have hs := h j hj
  generalize s.frame? j = x, t.frame? j = y at hs ⊢
  cases hs with
  | none => exact .none
  | some hs => exact .some hs.symm

theorem trans (h : AlikeOn P hidden s t) (h' : AlikeOn P hidden t u) : AlikeOn P hidden s u := by
  intro j hj
  have hs := h j hj
  have ht := h' j hj
  generalize s.frame? j = x, t.frame? j = y, u.frame? j = z at hs ht ⊢
  cases hs with
  | none => exact ht
  | some hs =>
    cases ht with
    | some ht => exact .some (hs.trans ht)

theorem mono {Q : Nat → Prop} (hsub : ∀ j, Q j → P j ∧ ∀ node, hidden j node → hidden' j node)
    (h : AlikeOn P hidden s t) : AlikeOn Q hidden' s t := by
  intro j hj
  obtain ⟨hP, hnodes⟩ := hsub j hj
  have hs := h j hP
  generalize s.frame? j = x, t.frame? j = y at hs ⊢
  cases hs with
  | none => exact .none
  | some hs => exact .some (hs.mono hnodes)

/-- What hidden nodes have no part in is told of both stacks alike. -/
theorem frame?_map {β : Type} {g : Frame → β} (h : AlikeOn P hidden s t) {j : Nat} (hj : P j)
    (hg : ∀ {f f'}, Frame.Alike (hidden j) f f' → g f = g f') : (s.frame? j).map g = (t.frame? j).map g := by
  have hframe := h j hj
  generalize s.frame? j = x, t.frame? j = y at hframe ⊢
  cases hframe with
  | none => rfl
  | some hframe => exact congrArg some (hg hframe)

/-- A value that is not looked for where it is hidden is the same on both stacks. -/
theorem readThrough {α : Type} {read : Frame → Option α} {i : Nat} (h : AlikeOn P hidden s t)
    (hlineage : s.lineage i = t.lineage i) (hread : ∀ j ∈ s.lineage i, P j ∧
      ∀ {f f'}, Frame.Alike (hidden j) f f' → read f = read f') :
    s.readThrough i read = t.readThrough i read := by
  refine (readThrough_congr hlineage.symm fun j hmem => ?_).symm
  obtain ⟨hj, hread⟩ := hread j hmem
  have hframe := h j hj
  generalize s.frame? j = x, t.frame? j = y at hframe ⊢
  cases hframe with
  | none => rfl
  | some hframe => exact (hread hframe).symm

theorem modify {change : Frame → Frame} (hchange : Frame.Blind change) (h : AlikeOn P hidden s t) (i : Nat) :
    AlikeOn P hidden (s.modify i change) (t.modify i change) := by
  intro j hj
  have hs := h j hj
  rw [frame?_modify, frame?_modify]
  split_ifs
  · generalize s.frame? j = x, t.frame? j = y at hs ⊢
    cases hs with
    | none => exact .none
    | some hs => exact .some (hchange hs)
  · exact hs

/-- What is written on other frames leaves these as they are. -/
theorem modify_apart {i : Nat} (hi : ¬ P i) (change : Frame → Frame) :
    AlikeOn P hidden s (s.modify i change) :=
  of_frame?_eq fun j hj => by rw [frame?_modify, if_neg (by rintro rfl; exact hi hj)]

theorem writeThrough_apart {i : Nat} (hi : ∀ j ∈ s.lineage i, ¬ P j) (change : Frame → Frame) :
    AlikeOn P hidden s (s.writeThrough i change) :=
  of_frame?_eq fun j hj => by rw [frame?_writeThrough, if_neg fun hmem => hi j hmem hj]

/-- What is written for nodes that are hidden wherever it is written makes no difference. -/
theorem writeThrough_hidden {i : Nat} {change : Frame → Frame}
    (hchange : ∀ j ∈ s.lineage i, P j → ∀ f, Frame.Alike (hidden j) f (change f)) :
    AlikeOn P hidden s (s.writeThrough i change) := by
  intro j hj
  rw [frame?_writeThrough]
  cases s.frame? j with
  | none => simp
  | some f =>
    split_ifs with hmem
    · exact .some (hchange j hmem hj f)
    · exact .some (.refl f)

end AlikeOn

/-- Two stacks are alike below some height, and the same from there on. -/
structure Alike (n : Nat) (hidden : Nat → NodeId → Prop) (s t : FrameStack) : Prop where
  below : s.AlikeOn (· < n) hidden t
  above : ∀ j, n ≤ j → s.frame? j = t.frame? j

namespace Alike

theorem refl (s : FrameStack) : Alike n hidden s s := ⟨.refl s, fun _ _ => rfl⟩

theorem symm (h : s.Alike n hidden t) : t.Alike n hidden s := ⟨h.below.symm, fun j hj => (h.above j hj).symm⟩

theorem trans (h : s.Alike n hidden t) (h' : t.Alike n hidden u) : s.Alike n hidden u :=
  ⟨h.below.trans h'.below, fun j hj => (h.above j hj).trans (h'.above j hj)⟩

theorem frame?_map {β : Type} {g : Frame → β} (h : s.Alike n hidden t) (j : Nat)
    (hg : ∀ {f f'}, Frame.Alike (hidden j) f f' → g f = g f') : (s.frame? j).map g = (t.frame? j).map g := by
  by_cases hj : j < n
  · exact h.below.frame?_map hj hg
  · rw [h.above j (Nat.le_of_not_lt hj)]

theorem shape (h : s.Alike n hidden t) : s.shape = t.shape :=
  shape_eq_iff.2 fun j => h.frame?_map j Frame.Alike.shape

theorem height (h : s.Alike n hidden t) : s.height = t.height := height_congr h.shape

theorem lineage (h : s.Alike n hidden t) (i : Nat) : s.lineage i = t.lineage i := lineage_congr h.shape i

/-- A value that is not looked for where it is hidden is the same on both stacks. -/
theorem readThrough {α : Type} {read : Frame → Option α} (h : s.Alike n hidden t) {i : Nat}
    (hread : ∀ j ∈ s.lineage i, j < n → ∀ {f f'}, Frame.Alike (hidden j) f f' → read f = read f') :
    s.readThrough i read = t.readThrough i read := by
  refine (readThrough_congr (h.lineage i).symm fun j hmem => ?_).symm
  by_cases hj : j < n
  · have hframe := h.below j hj
    generalize s.frame? j = x, t.frame? j = y at hframe ⊢
    cases hframe with
    | none => rfl
    | some hframe => exact (hread j hmem hj hframe).symm
  · rw [h.above j (Nat.le_of_not_lt hj)]

theorem output? (h : s.Alike n hidden t) {i : Nat} {l : Link} (hl : ∀ j ∈ s.lineage i, j < n → ¬ hidden j l.node) :
    s.output? i l = t.output? i l :=
  h.readThrough fun j hmem hj _ _ hf => hf.outputs l.node (hl j hmem hj) l.socket

theorem input? (h : s.Alike n hidden t) {i : Nat} {l : Link} (hl : ∀ j ∈ s.lineage i, j < n → ¬ hidden j l.node) :
    s.input? i l = t.input? i l :=
  h.readThrough fun j hmem hj _ _ hf => hf.inputs l.node (hl j hmem hj) l.socket

theorem exposed? (h : s.Alike n hidden t) (i : Nat) (l : Link) : s.exposed? i l = t.exposed? i l :=
  h.readThrough fun _ _ _ _ _ hf => by rw [hf.exposed]

theorem exposedBy (h : s.Alike n hidden t) (i : Nat) (node : NodeId) : s.exposedBy i node = t.exposedBy i node := by
  unfold FrameStack.exposedBy
  rw [h.lineage]
  refine congrArg (List.foldr · _ _) (funext fun j => funext fun outer => ?_)
  have hj := congrArg (Option.bind · (Table.get? · node)) (h.frame?_map j Frame.Alike.exposed)
  simp only [Option.bind_map, Function.comp_def] at hj
  rw [hj]

theorem isMarked (h : s.Alike n hidden t) (i : Nat) (node : NodeId) (component : String) :
    s.isMarked i node component = t.isMarked i node component := by
  have hi := congrArg (Option.any (·.covers node component)) (h.frame?_map i Frame.Alike.marks)
  simpa [FrameStack.isMarked, Option.any_map, Function.comp_def] using hi

/-! Changes. -/

theorem push (h : s.Alike n hidden t) (hn : n ≤ s.height) (f : Frame) : (s.push f).Alike n hidden (t.push f) := by
  constructor
  · intro j hj
    have hj : j < n := hj
    rw [frame?_push_of_lt f (by omega), frame?_push_of_lt f (by have := h.height; omega)]
    exact h.below j hj
  · intro j hj
    rw [frame?_push, frame?_push, h.height, h.above j hj]

theorem pop (h : s.Alike n hidden t) (hn : n < s.height) : s.pop.Alike n hidden t.pop := by
  constructor
  · intro j hj
    have hj : j < n := hj
    rw [frame?_pop, frame?_pop, ← h.height, if_pos (by omega), if_pos (by omega)]
    exact h.below j hj
  · intro j hj
    rw [frame?_pop, frame?_pop, h.height, h.above j hj]

theorem modify {change : Frame → Frame} (hchange : Frame.Blind change) (h : s.Alike n hidden t) (i : Nat) :
    (s.modify i change).Alike n hidden (t.modify i change) := by
  refine ⟨h.below.modify hchange i, fun j hj => ?_⟩
  rw [frame?_modify, frame?_modify, h.above j hj]

theorem writeThrough {change : Frame → Frame} (hchange : Frame.Blind change) (h : s.Alike n hidden t) (i : Nat) :
    (s.writeThrough i change).Alike n hidden (t.writeThrough i change) := by
  unfold FrameStack.writeThrough
  rw [h.lineage]
  generalize t.lineage i = targets
  induction targets generalizing s t with
  | nil => exact h
  | cons j rest ih => exact ih (h.modify hchange j)

end Alike
end FrameStack

/-- Two states with alike stacks that remember the same and are nested alike. -/
structure EngineState.Alike (n : Nat) (hidden : Nat → NodeId → Prop) (st st' : EngineState) : Prop where
  stack : st.stack.Alike n hidden st'.stack
  forever : st.forever = st'.forever
  nesting : st.nesting = st'.nesting

namespace EngineState.Alike

variable {n : Nat} {hidden : Nat → NodeId → Prop} {st st' : EngineState}

theorem refl (st : EngineState) : st.Alike n hidden st := ⟨.refl _, rfl, rfl⟩

theorem needsUpdate (h : st.Alike n hidden st') (i : Nat) (node : NodeId) (component : String) :
    st.needsUpdate i node component = st'.needsUpdate i node component := by
  rw [EngineState.needsUpdate, EngineState.needsUpdate, h.forever, h.stack.isMarked, h.stack.isMarked,
    FrameStack.root_congr h.stack.shape]

end EngineState.Alike

end SocketGraph
