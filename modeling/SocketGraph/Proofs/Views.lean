import SocketGraph.Proofs.Chronicle

/-! Views of a stack: what it lets through, and what can be told of each of its frames. A change keeps the
views that it does not touch. -/
namespace SocketGraph
namespace FrameStack

variable {α β : Type} {g : Frame → β} {s t : FrameStack} {i j : Nat}

/-- What can be told of each frame, with whether the frame lets walks go on, the outermost first. -/
def view (g : Frame → β) (s : FrameStack) : List (Bool × β) := s.frames.map fun f => (f.permeable, g f)

theorem outline_of_view (h : s.view g = t.view g) : s.outline = t.outline := by
  simpa [outline, view, Function.comp_def] using congrArg (List.map Prod.fst) h

theorem height_of_view (h : s.view g = t.view g) : s.height = t.height :=
  height_of_outline (outline_of_view h)

theorem lineage_of_outline (h : s.outline = t.outline) (i : Nat) : s.lineage i = t.lineage i := by
  rw [lineage, lineage, height_of_outline h, descend_congr fun k _ => isPermeable_of_outline h k]

theorem root_of_outline (h : s.outline = t.outline) (i : Nat) : s.root i = t.root i := by
  rw [root, root, lineage_of_outline h]

theorem frame?_of_view (h : s.view g = t.view g) (j : Nat) :
    (s.frame? j).map g = (t.frame? j).map g := by
  have hj := congrArg (fun w => (w[j]?).map Prod.snd) h
  simpa [view, frame?, Function.comp_def] using hj

/-- What is read off a view is the same on stacks with the same view. -/
theorem readThrough_of_view (h : s.view g = t.view g) (read : β → Option α) (i : Nat) :
    s.readThrough i (fun f => read (g f)) = t.readThrough i fun f => read (g f) := by
  unfold readThrough
  rw [lineage_of_outline (outline_of_view h)]
  refine congrArg (List.findSome? · _) (funext fun j => ?_)
  have hj := congrArg (Option.bind · read) (frame?_of_view h j)
  simpa [Option.bind_map, Function.comp_def] using hj

theorem isMarked_of_view (h : s.view Frame.marks = t.view Frame.marks) (j : Nat) (node : NodeId)
    (component : String) : s.isMarked j node component = t.isMarked j node component := by
  have hj := frame?_of_view h j
  unfold isMarked
  cases hs : s.frame? j <;> cases ht : t.frame? j <;> simp_all

theorem view_of_shape {v : Frame.Shape → β} (h : s.shape = t.shape) :
    s.view (fun f => v f.shape) = t.view fun f => v f.shape := by
  simpa [view, shape, Function.comp_def, Frame.shape] using
    congrArg (List.map fun f : Frame.Shape => (f.permeable, v f)) h

theorem view_modify {change : Frame → Frame} (hp : ∀ f, (change f).permeable = f.permeable)
    (hg : ∀ f, g (change f) = g f) : (s.modify i change).view g = s.view g := by
  refine List.ext_getElem? fun j => ?_
  simp only [view, modify, List.getElem?_map, List.getElem?_modify]
  split_ifs
  · cases s.frames[j]? <;> simp [hp, hg]
  · cases s.frames[j]? <;> rfl

/-- A change that a view tells of is told of alike views. -/
theorem view_modify_congr (i : Nat) (change : Frame → Frame) (told : β → β)
    (hp : ∀ f, (change f).permeable = f.permeable) (hg : ∀ f, g (change f) = told (g f))
    (h : s.view g = t.view g) : (s.modify i change).view g = (t.modify i change).view g := by
  have hview (s : FrameStack) : (s.modify i change).view g = (s.view g).modify i (Prod.map id told) := by
    refine List.ext_getElem? fun j => ?_
    simp only [view, modify, List.getElem?_map, List.getElem?_modify]
    split_ifs <;> cases s.frames[j]? <;> simp [hp, hg]
  rw [hview, hview, h]

theorem view_writeThrough {change : Frame → Frame} (hp : ∀ f, (change f).permeable = f.permeable)
    (hg : ∀ f, g (change f) = g f) : (s.writeThrough i change).view g = s.view g := by
  unfold writeThrough
  generalize s.lineage i = targets
  induction targets generalizing s with
  | nil => rfl
  | cons j rest ih => exact ih.trans (view_modify hp hg)

theorem view_pop_congr (h : s.view g = t.view g) : s.pop.view g = t.pop.view g := by
  simpa [view, pop, List.map_dropLast] using congrArg List.dropLast h

end FrameStack

namespace EngineState

variable {β : Type} {g : Frame → β} {st st' : EngineState}

theorem view_closeBoth {f f' : Frame}
    (h : st'.stack.view g = ((st.push f).push f').stack.view g) :
    st'.closeBoth.stack.view g = st.stack.view g := by
  have hpop := FrameStack.view_pop_congr (FrameStack.view_pop_congr h)
  rwa [push, push, FrameStack.pop_push, FrameStack.pop_push] at hpop

theorem needsUpdate_of_view (hview : st.stack.view Frame.marks = st'.stack.view Frame.marks)
    (hforever : st.forever = st'.forever) (i : Nat) (node : NodeId) (component : String) :
    st.needsUpdate i node component = st'.needsUpdate i node component := by
  rw [needsUpdate, needsUpdate, hforever, FrameStack.isMarked_of_view hview,
    FrameStack.isMarked_of_view hview, FrameStack.root_of_outline (FrameStack.outline_of_view hview)]

/-- A change that no operation makes opens a frame, closes one, or keeps every view of what operations
write. -/
theorem Moves.view (h : st.Moves st') (henter : ∀ f a, g (Frame.enter f a) = g f)
    (hleave : ∀ f, g (Frame.leave f) = g f) (hkeep : ∀ f socket v, g (Frame.putInput f socket v) = g f) :
    (st'.stack.view g = st.stack.view g ∧ st'.forever = st.forever) ∨
      (∃ permeable provider, st' = st.push (.fresh permeable provider)) ∨ st' = st.closeFrame := by
  cases h with
  | enter i a => exact .inl ⟨FrameStack.view_modify (fun _ => rfl) fun f => henter f a, rfl⟩
  | leave i => exact .inl ⟨FrameStack.view_modify (fun _ => rfl) hleave, rfl⟩
  | keep i socket v =>
    exact .inl ⟨FrameStack.view_writeThrough (fun _ => rfl) fun f => hkeep f socket v, rfl⟩
  | deeper | shallower => exact .inl ⟨rfl, rfl⟩
  | push permeable provider => exact .inr (.inl ⟨permeable, provider, rfl⟩)
  | pop => exact .inr (.inr rfl)

end EngineState
end SocketGraph
