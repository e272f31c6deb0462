import SocketGraph.Proofs.Cached
import SocketGraph.Proofs.Course

/-! Inputs that are settled. What a walk has found among the inputs stays as it is as long as the frame is
there: an input is kept only after a walk has missed it, and a write reaches no frame but those of the walk.
-/
namespace SocketGraph
namespace FrameStack

variable {s t u : FrameStack} {i j : Nat} {l : Link} {v : Value}

/-- What a frame itself keeps of an input. -/
def ownInput? (s : FrameStack) (j : Nat) (l : Link) : Option Value :=
  (s.frame? j).bind (·.inputs.get? l.node l.socket)

/-- The nodes that are active on a frame. -/
def nodesOn (s : FrameStack) (j : Nat) : List NodeId := (s.activeOn j).map Activation.node

/-- A stack whose frames are still there, with the same nodes active. A frame from which a walk has found
an input keeps what it has of it, or goes on having nothing. -/
structure Settles (s t : FrameStack) : Prop where
  outline : t.outline = s.outline
  nodes : ∀ j, t.nodesOn j = s.nodesOn j
  own : ∀ j l, (s.input? j l).isSome → t.ownInput? j l = s.ownInput? j l

theorem input?_succ (h : j + 1 < s.height) (l : Link) : s.input? (j + 1) l =
    (s.ownInput? (j + 1) l).or (if s.isPermeable (j + 1) then s.input? j l else none) :=
  readThrough_succ _ h

theorem lt_height_of_input? (h : (s.input? j l).isSome) : j < s.height := by
  obtain ⟨v, hv⟩ := Option.isSome_iff_exists.1 h
  obtain ⟨k, hk, -⟩ := exists_of_readThrough hv
  exact (mem_lineage.1 hk).1

namespace Settles

theorem refl (s : FrameStack) : s.Settles s := ⟨rfl, fun _ => rfl, fun _ _ _ => rfl⟩

/-- What a walk has found it finds again. -/
theorem input? (h : s.Settles t) (hv : s.input? j l = some v) : t.input? j l = some v := by
  have hsome : (s.input? j l).isSome := by simp [hv]
  have hown : t.ownInput? j l = s.ownInput? j l := h.own j l hsome
  have hheight : t.height = s.height := height_of_outline h.outline
  have hj : j < s.height := lt_height_of_input? hsome
  induction j with
  | zero =>
    have hzero (s : FrameStack) : s.input? 0 l = s.ownInput? 0 l := readThrough_zero _
    rw [hzero] at hv ⊢
    exact hown.trans hv
  | succ j ih =>
    rw [input?_succ (by omega), isPermeable_of_outline h.outline, hown]
    rw [input?_succ hj] at hv
    cases hhere : s.ownInput? (j + 1) l with
    | some w => simpa [hhere] using hv
    | none =>
      rw [hhere, Option.none_or] at hv
      rw [Option.none_or]
      split_ifs at hv ⊢
      have hsome : (s.input? j l).isSome := by simp [hv]
      exact ih hv hsome (h.own j l hsome) (by omega)

theorem trans (h : s.Settles t) (h' : t.Settles u) : s.Settles u := by
  refine ⟨h'.outline.trans h.outline, fun j => (h'.nodes j).trans (h.nodes j), fun j l hl => ?_⟩
  obtain ⟨v, hv⟩ := Option.isSome_iff_exists.1 hl
  exact (h'.own j l (by simp [h.input? hv])).trans (h.own j l hl)

theorem active? (h : s.Settles t) (i : Nat) :
    (t.active? i).map Activation.node = (s.active? i).map Activation.node := by
  have hhead := congrArg List.head? (h.nodes i)
  simpa [nodesOn, active?_eq_head?] using hhead

end Settles

/-- What the node that is active innermost on a frame finds for an input. -/
def atHand? (s : FrameStack) (i : Nat) (socket : String) : Option Value :=
  (s.active? i).bind fun a => s.input? i ⟨a.node, socket⟩

theorem lt_height_of_atHand? {socket : String} (h : s.atHand? i socket = some v) : i < s.height := by
  obtain ⟨a, -, hv⟩ := Option.bind_eq_some_iff.1 h
  exact lt_height_of_input? (by rw [hv]; rfl)

theorem atHand?_eq_map (s : FrameStack) (i : Nat) (socket : String) : s.atHand? i socket =
    ((s.active? i).map Activation.node).bind fun node => s.input? i ⟨node, socket⟩ := by
  rw [atHand?, Option.bind_map]
  rfl

theorem Settles.atHand? {socket : String} (h : s.Settles t) (hv : s.atHand? i socket = some v) :
    t.atHand? i socket = some v := by
  rw [atHand?_eq_map] at hv ⊢
  rw [h.active? i]
  obtain ⟨node, hnode, hv⟩ := Option.bind_eq_some_iff.1 hv
  exact Option.bind_eq_some_iff.2 ⟨node, hnode, h.input? hv⟩

/-! Changes that settle what there was. -/

theorem ownInput?_modify {change : Frame → Frame} (h : ∀ f, (change f).inputs = f.inputs) (i j : Nat)
    (l : Link) : (s.modify i change).ownInput? j l = s.ownInput? j l := by
  unfold ownInput?
  rw [frame?_modify]
  split_ifs
  · cases s.frame? j <;> simp [h]
  · rfl

theorem ownInput?_writeThrough {change : Frame → Frame} (h : ∀ f, (change f).inputs = f.inputs)
    (i j : Nat) (l : Link) : (s.writeThrough i change).ownInput? j l = s.ownInput? j l := by
  unfold ownInput?
  rw [frame?_writeThrough]
  split_ifs
  · cases s.frame? j <;> simp [h]
  · rfl

theorem nodesOn_congr (h : s.shape = t.shape) (j : Nat) : s.nodesOn j = t.nodesOn j := by
  rw [nodesOn, nodesOn, activeOn_congr h]

/-- A write of anything but inputs. -/
theorem settles_writeThrough {change : Frame → Frame} (hshape : ∀ f, (change f).shape = f.shape)
    (hinputs : ∀ f, (change f).inputs = f.inputs) (i : Nat) : s.Settles (s.writeThrough i change) :=
  ⟨outline_eq_of_shape (shape_writeThrough hshape), nodesOn_congr (shape_writeThrough hshape),
    fun j l _ => ownInput?_writeThrough hinputs i j l⟩

theorem settles_putOutput (i : Nat) (l : Link) (v : Value) : s.Settles (s.putOutput i l v) := by
  refine settles_writeThrough ?_ ?_ i <;> intro f <;> rfl

theorem settles_putExposed (i : Nat) (l : Link) (v : Value) : s.Settles (s.putExposed i l v) := by
  refine settles_writeThrough ?_ ?_ i <;> intro f <;> rfl

theorem settles_addSignal (i : Nat) (signal : Link) : s.Settles (s.addSignal i signal) := by
  refine settles_writeThrough ?_ ?_ i <;> intro f <;> rfl

/-- A change of one frame that leaves its inputs and the nodes active on it alone. -/
theorem settles_modify {change : Frame → Frame} (hpermeable : ∀ f, (change f).permeable = f.permeable)
    (hactive : ∀ f, (change f).active.map Activation.node = f.active.map Activation.node)
    (hinputs : ∀ f, (change f).inputs = f.inputs) (i : Nat) : s.Settles (s.modify i change) := by
  refine ⟨outline_modify hpermeable, fun j => ?_, fun j l _ => ownInput?_modify hinputs i j l⟩
  unfold nodesOn activeOn
  rw [frame?_modify]
  split_ifs
  · cases s.frame? j <;> simp [hactive]
  · rfl

theorem settles_mark (i : Nat) (target : MarkTarget) (node : NodeId) (component : String) :
    s.Settles (s.mark i target node component) := by
  refine settles_modify ?_ ?_ ?_ i <;> intro f <;> rfl

theorem settles_forward (i : Nat) (socket : String) : s.Settles (s.forward i socket) := by
  refine settles_modify ?_ ?_ ?_ i <;> intro f
  · rfl
  · cases hactive : f.active <;> simp [Frame.updateActive, hactive]
  · rfl

theorem ownInput?_putInput (s : FrameStack) (i j : Nat) (l l' : Link) (v : Value) :
    (s.putInput i l v).ownInput? j l' = if j ∈ s.lineage i ∧ l' = l then some v else s.ownInput? j l' := by
  have hlink : l'.node = l.node ∧ l'.socket = l.socket ↔ l' = l := by
    cases l
    cases l'
    simp
  unfold ownInput? FrameStack.putInput
  rw [frame?_writeThrough]
  by_cases hj : j ∈ s.lineage i
  · obtain ⟨hi, hji, -⟩ := mem_lineage.1 hj
    obtain ⟨f, hf⟩ := exists_frame? (Nat.lt_of_le_of_lt hji hi)
    simp only [hj, hf, if_true, true_and, Option.map_some, Option.bind_some, Frame.putInput,
      SocketValues.get?_put, hlink]
  · simp [hj]

/-- An input that a walk has missed is kept: no frame that is written to has had it. -/
theorem Settles.putInput (h : s.Settles t) (hmiss : s.input? i l = none) (v : Value) :
    s.Settles (t.putInput i l v) := by
  have hshape : (t.putInput i l v).shape = t.shape := shape_putInput ..
  have hlineage : t.lineage i = s.lineage i := by
    rw [lineage, lineage, height_of_outline h.outline,
      descend_congr fun k _ => isPermeable_of_outline h.outline k]
  refine ⟨(outline_eq_of_shape hshape).trans h.outline,
    fun j => (nodesOn_congr hshape j).trans (h.nodes j), fun j l' hl' => ?_⟩
  rw [ownInput?_putInput, if_neg ?_, h.own j l' hl']
  -- the walk from this frame would be a part of the one that has missed
  rintro ⟨hj, rfl⟩
  rw [hlineage] at hj
  obtain ⟨w, hw⟩ := Option.isSome_iff_exists.1 hl'
  obtain ⟨k, hk, f, hf, hfound⟩ := exists_of_readThrough hw
  have hnone := readThrough_eq_none_iff.1 hmiss k (mem_lineage_trans hj hk)
  simp [hf, hfound] at hnone

theorem nodesOn_leave (s : FrameStack) (i j : Nat) :
    (s.leave i).nodesOn j = if i = j then (s.nodesOn j).tail else s.nodesOn j := by
  unfold nodesOn activeOn leave
  rw [frame?_modify]
  split_ifs
  · cases s.frame? j <;> simp [Frame.leave]
  · rfl

/-- What is kept is at hand. -/
theorem Settles.atHand?_putInput {a : Activation} (h : s.Settles t) (hactive : s.active? i = some a)
    (socket : String) (v : Value) : (t.putInput i ⟨a.node, socket⟩ v).atHand? i socket = some v := by
  have hnode : (t.active? i).map Activation.node = some a.node := by simp [h.active? i, hactive]
  have hi : i < t.height := by
    obtain ⟨b, hb, -⟩ := Option.map_eq_some_iff.1 hnode
    obtain ⟨f, hf, -⟩ := Option.bind_eq_some_iff.1 hb
    exact lt_height_of_frame? hf
  rw [atHand?_eq_map, active?_congr (shape_putInput ..), hnode]
  exact kept?_keep_self hi .input ⟨a.node, socket⟩ v

/-- A node has been active on a frame and is not any more. -/
theorem Settles.left {a : Activation} (h : (s.enter i a).Settles t) : s.Settles (t.leave i) := by
  refine ⟨?_, fun j => ?_, fun j l hl => ?_⟩
  · exact (outline_leave t i).trans (h.outline.trans (outline_enter s i a))
  · have hnodes : t.nodesOn j = (s.enter i a).nodesOn j := h.nodes j
    rw [nodesOn_leave, hnodes]
    rcases Nat.lt_or_ge i s.height with hi | hi
    · rw [nodesOn, activeOn_enter s hi, nodesOn]
      split_ifs <;> rfl
    · rw [enter_of_height_le hi]
      split_ifs with hij
      · simp [nodesOn, activeOn, ← hij, frame?_eq_none_iff.2 hi]
      · rfl
  · have hcontents : (s.enter i a).input? j l = s.input? j l :=
      kept?_of_contents (SameContents.enter s i a) j .input l
    have hleave : (t.leave i).ownInput? j l = t.ownInput? j l := ownInput?_modify (by intro f; rfl) i j l
    have henter : (s.enter i a).ownInput? j l = s.ownInput? j l := ownInput?_modify (by intro f; rfl) i j l
    rw [hleave, h.own j l (hcontents ▸ hl), henter]

/-- Two frames have been opened and closed again. -/
theorem Settles.popBoth {f g : Frame} (h : ((s.push f).push g).Settles t) : s.Settles t.pop.pop := by
  have hheight : t.height = s.height + 2 := by simpa using height_of_outline h.outline
  have houtline := outline_pop_congr (outline_pop_congr h.outline)
  rw [pop_push, pop_push] at houtline
  have hframe? {j : Nat} (hj : j < s.height) : t.pop.pop.frame? j = t.frame? j := by
    rw [frame?_pop, frame?_pop, height_pop, if_pos (by omega), if_pos (by omega)]
  have hbelow {j : Nat} (hj : j < s.height) : ((s.push f).push g).frame? j = s.frame? j := by
    rw [frame?_push_of_lt g (by rw [height_push]; omega), frame?_push_of_lt f hj]
  refine ⟨houtline, fun j => ?_, fun j l hl => ?_⟩
  · rcases Nat.lt_or_ge j s.height with hj | hj
    · have hnodes := h.nodes j
      unfold nodesOn activeOn at hnodes ⊢
      rwa [hframe? hj, ← hbelow hj]
    · have hnone : t.pop.pop.frame? j = none := frame?_eq_none_iff.2 (by simp; omega)
      simp [nodesOn, activeOn, hnone, frame?_eq_none_iff.2 hj]
  · have hj : j < s.height := lt_height_of_input? hl
    have hread : ((s.push f).push g).input? j l = s.input? j l := by
      unfold FrameStack.input?
      rw [readThrough_push g _ (by rw [height_push]; omega), readThrough_push f _ hj]
    have hown := h.own j l (hread ▸ hl)
    unfold ownInput? at hown ⊢
    rwa [hframe? hj, ← hbelow hj]

end FrameStack

end SocketGraph
