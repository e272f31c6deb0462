import SocketGraph.Proofs.Lineage

/-! The shape of a stack: what calls must leave as they found it, whatever contents they write. Walks,
providers and innermost nodes are read off the shape. -/
namespace SocketGraph

namespace Activation

/-- The activation after signals have been forwarded out of some sockets. -/
def sent (a : Activation) (sockets : List String) : Activation := sockets.foldl forward a

@[simp] theorem sent_nil (a : Activation) : a.sent [] = a := rfl

@[simp] theorem forward_sent (a : Activation) (sockets : List String) (socket : String) :
    (a.sent sockets).forward socket = a.sent (sockets ++ [socket]) := by
  simp [sent, List.foldl_append]

/-- Forwarding changes nothing but the list of the forwarded sockets of a signal. -/
theorem sent_eq (a : Activation) (sockets : List String) :
    a.sent sockets = match a.cause with
      | .pull _ => a
      | .push triggered forwarded =>
        { a with cause := .push triggered (forwarded ++ sockets) } := by
  induction sockets generalizing a with
  | nil => obtain ⟨_, _, _, _, cause⟩ := a; cases cause <;> simp
  | cons socket rest ih =>
    obtain ⟨_, _, _, _, cause⟩ := a
    cases cause <;> simp [sent] at ih ⊢ <;> simp [forward, ih]

@[simp] theorem node_sent (a : Activation) (sockets : List String) :
    (a.sent sockets).node = a.node := by
  rw [sent_eq]; obtain ⟨_, _, _, _, cause⟩ := a; cases cause <;> rfl

@[simp] theorem component_sent (a : Activation) (sockets : List String) :
    (a.sent sockets).component = a.component := by
  rw [sent_eq]; obtain ⟨_, _, _, _, cause⟩ := a; cases cause <;> rfl

@[simp] theorem sockets_sent (a : Activation) (sockets : List String) :
    (a.sent sockets).sockets = a.sockets := by
  rw [sent_eq]; obtain ⟨_, _, _, _, cause⟩ := a; cases cause <;> rfl

@[simp] theorem attributes_sent (a : Activation) (sockets : List String) :
    (a.sent sockets).attributes = a.attributes := by
  rw [sent_eq]; obtain ⟨_, _, _, _, cause⟩ := a; cases cause <;> rfl

@[simp] theorem isSignal_sent (a : Activation) (sockets : List String) :
    (a.sent sockets).isSignal = a.isSignal := by
  rw [sent_eq]; obtain ⟨_, _, _, _, cause⟩ := a; cases cause <;> rfl

end Activation

/-- A frame without the contents that calls leave in it. -/
structure Frame.Shape where
  permeable : Bool
  provider : Option FrameProvider
  active : List Activation

namespace Frame

def shape (f : Frame) : Shape := ⟨f.permeable, f.provider, f.active⟩

end Frame

namespace FrameStack

variable {s t : FrameStack}

/-- The shapes of the frames, the outermost first. -/
def shape (s : FrameStack) : List Frame.Shape := s.frames.map Frame.shape

/-- The nodes active on a frame, the innermost first. -/
def activeOn (s : FrameStack) (i : Nat) : List Activation := (s.frame? i).elim [] Frame.active

theorem getElem?_shape (s : FrameStack) (i : Nat) : s.shape[i]? = (s.frame? i).map Frame.shape := by
  simp [shape, frame?]

theorem shape_eq_iff :
    s.shape = t.shape ↔ ∀ i, (s.frame? i).map Frame.shape = (t.frame? i).map Frame.shape := by
  simp only [← getElem?_shape]
  exact ⟨fun h i => by rw [h], List.ext_getElem?⟩

theorem height_congr (h : s.shape = t.shape) : s.height = t.height := by
  simpa [shape, height] using congrArg List.length h

theorem isPermeable_congr (h : s.shape = t.shape) (i : Nat) : s.isPermeable i = t.isPermeable i := by
  have hi := shape_eq_iff.1 h i
  unfold isPermeable
  cases hs : s.frame? i <;> cases ht : t.frame? i <;> simp_all [Frame.shape]

theorem activeOn_congr (h : s.shape = t.shape) (i : Nat) : s.activeOn i = t.activeOn i := by
  have hi := shape_eq_iff.1 h i
  unfold activeOn
  cases hs : s.frame? i <;> cases ht : t.frame? i <;> simp_all [Frame.shape]

theorem active?_eq_head? (s : FrameStack) (i : Nat) : s.active? i = (s.activeOn i).head? := by
  unfold active? activeOn
  cases s.frame? i <;> rfl

theorem active?_congr (h : s.shape = t.shape) (i : Nat) : s.active? i = t.active? i := by
  rw [active?_eq_head?, active?_eq_head?, activeOn_congr h]

theorem descend_congr {i : Nat} (h : ∀ k ≤ i, s.isPermeable k = t.isPermeable k) :
    s.descend i = t.descend i := by
  induction i with
  | zero => rfl
  | succ i ih =>
    rw [descend, descend, ih fun k hk => h k (by omega), h (i + 1) (Nat.le_refl _)]

theorem lineage_congr (h : s.shape = t.shape) (i : Nat) : s.lineage i = t.lineage i := by
  rw [lineage, lineage, height_congr h, descend_congr fun k _ => isPermeable_congr h k]

theorem root_congr (h : s.shape = t.shape) (i : Nat) : s.root i = t.root i := by
  rw [root, root, lineage_congr h]

theorem provider?_congr (h : s.shape = t.shape) (i : Nat) : s.provider? i = t.provider? i := by
  unfold provider? readThrough
  rw [lineage_congr h]
  congr 1
  funext j
  have hj := shape_eq_iff.1 h j
  cases hs : s.frame? j <;> cases ht : t.frame? j <;> simp_all [Frame.shape]

@[simp] theorem shape_push (s : FrameStack) (f : Frame) :
    (s.push f).shape = s.shape ++ [f.shape] := by simp [shape, push]

theorem shape_push_congr (h : s.shape = t.shape) {f g : Frame} (hf : f.shape = g.shape) :
    (s.push f).shape = (t.push g).shape := by simp [h, hf]

theorem shape_pop_congr (h : s.shape = t.shape) : s.pop.shape = t.pop.shape := by
  simpa [shape, pop, List.map_dropLast] using congrArg List.dropLast h

/-- A change that keeps the shape of every frame keeps the shape of the stack. -/
theorem shape_modify {i : Nat} {change : Frame → Frame} (h : ∀ f, (change f).shape = f.shape) :
    (s.modify i change).shape = s.shape := by
  refine shape_eq_iff.2 fun j => ?_
  rw [frame?_modify]
  split_ifs
  · cases s.frame? j <;> simp [h]
  · rfl

theorem shape_writeThrough {i : Nat} {change : Frame → Frame} (h : ∀ f, (change f).shape = f.shape) :
    (s.writeThrough i change).shape = s.shape := by
  refine shape_eq_iff.2 fun j => ?_
  rw [frame?_writeThrough]
  split_ifs
  · cases s.frame? j <;> simp [h]
  · rfl

@[simp] theorem shape_putInput (s : FrameStack) (i : Nat) (socket : Link) (v : Value) :
    (s.putInput i socket v).shape = s.shape := shape_writeThrough fun _ => rfl

@[simp] theorem shape_putOutput (s : FrameStack) (i : Nat) (socket : Link) (v : Value) :
    (s.putOutput i socket v).shape = s.shape := shape_writeThrough fun _ => rfl

@[simp] theorem shape_putExposed (s : FrameStack) (i : Nat) (socket : Link) (v : Value) :
    (s.putExposed i socket v).shape = s.shape := shape_writeThrough fun _ => rfl

@[simp] theorem shape_addSignal (s : FrameStack) (i : Nat) (signal : Link) :
    (s.addSignal i signal).shape = s.shape := shape_writeThrough fun _ => rfl

@[simp] theorem shape_mark (s : FrameStack) (i : Nat) (target : MarkTarget) (node : NodeId)
    (component : String) : (s.mark i target node component).shape = s.shape :=
  shape_modify fun _ => rfl

/-- Frames of one shape that are changed in one way have one shape again. -/
theorem shape_modify_congr {i : Nat} {change : Frame → Frame}
    (hchange : ∀ f g : Frame, f.shape = g.shape → (change f).shape = (change g).shape)
    (h : s.shape = t.shape) : (s.modify i change).shape = (t.modify i change).shape := by
  refine shape_eq_iff.2 fun j => ?_
  have hj := shape_eq_iff.1 h j
  rw [frame?_modify, frame?_modify]
  split_ifs
  · cases hs : s.frame? j <;> cases ht : t.frame? j <;> simp_all
    exact hchange _ _ hj
  · exact hj

theorem shape_enter_congr (h : s.shape = t.shape) (i : Nat) (a : Activation) :
    (s.enter i a).shape = (t.enter i a).shape :=
  shape_modify_congr (fun f g hfg => by simp_all [Frame.shape, Frame.enter]) h

theorem shape_leave_congr (h : s.shape = t.shape) (i : Nat) :
    (s.leave i).shape = (t.leave i).shape :=
  shape_modify_congr (fun f g hfg => by simp_all [Frame.shape, Frame.leave]) h

theorem shape_forward_congr (h : s.shape = t.shape) (i : Nat) (socket : String) :
    (s.forward i socket).shape = (t.forward i socket).shape :=
  shape_modify_congr (fun f g hfg => by simp_all [Frame.shape, Frame.updateActive]) h

@[simp] theorem leave_enter (s : FrameStack) (i : Nat) (a : Activation) :
    (s.enter i a).leave i = s := by
  refine ext_frame? fun j => ?_
  simp only [leave, enter, frame?_modify]
  split_ifs
  · cases s.frame? j <;> simp
  · rfl

@[simp] theorem forward_enter (s : FrameStack) (i : Nat) (a : Activation) (socket : String) :
    (s.enter i a).forward i socket = s.enter i (a.forward socket) := by
  refine ext_frame? fun j => ?_
  simp only [forward, enter, frame?_modify]
  split_ifs
  · cases s.frame? j <;> simp [Frame.updateActive, Frame.enter]
  · rfl

@[simp] theorem height_enter (s : FrameStack) (i : Nat) (a : Activation) :
    (s.enter i a).height = s.height := height_modify s i _

theorem activeOn_enter (s : FrameStack) {i : Nat} (hi : i < s.height) (a : Activation) (j : Nat) :
    (s.enter i a).activeOn j = if i = j then a :: s.activeOn j else s.activeOn j := by
  unfold activeOn enter
  rw [frame?_modify]
  split_ifs with h
  · subst h
    obtain ⟨f, hf⟩ := exists_frame? hi
    simp [hf, Frame.enter]
  · rfl

theorem activeOn_forward (s : FrameStack) (i : Nat) (socket : String) (j : Nat) :
    (s.forward i socket).activeOn j =
      if i = j then (s.activeOn i).modifyHead (·.forward socket) else s.activeOn j := by
  unfold activeOn forward
  rw [frame?_modify]
  split_ifs with h
  · subst h
    cases s.frame? i <;> rfl
  · rfl

theorem active?_enter_self {i : Nat} (hi : i < s.height) (a : Activation) :
    (s.enter i a).active? i = some a := by
  rw [active?_eq_head?, activeOn_enter s hi, if_pos rfl]
  rfl

theorem active?_enter_of_ne {i j : Nat} (h : i ≠ j) (a : Activation) :
    (s.enter i a).active? j = s.active? j := by
  unfold active? enter
  rw [frame?_modify, if_neg h]

@[simp] theorem isPermeable_enter (s : FrameStack) (i : Nat) (a : Activation) (j : Nat) :
    (s.enter i a).isPermeable j = s.isPermeable j := by
  unfold isPermeable enter
  rw [frame?_modify]
  split_ifs
  · cases s.frame? j <;> rfl
  · rfl

@[simp] theorem lineage_enter (s : FrameStack) (i : Nat) (a : Activation) (j : Nat) :
    (s.enter i a).lineage j = s.lineage j := by
  rw [lineage, lineage, height_enter, descend_congr fun k _ => isPermeable_enter s i a k]

@[simp] theorem root_enter (s : FrameStack) (i : Nat) (a : Activation) (j : Nat) :
    (s.enter i a).root j = s.root j := by rw [root, root, lineage_enter]

@[simp] theorem provider?_enter (s : FrameStack) (i : Nat) (a : Activation) (j : Nat) :
    (s.enter i a).provider? j = s.provider? j := by
  unfold provider? readThrough
  rw [lineage_enter]
  congr 1
  funext k
  rw [enter, frame?_modify]
  split_ifs
  · cases s.frame? k <;> rfl
  · rfl

end FrameStack
end SocketGraph
