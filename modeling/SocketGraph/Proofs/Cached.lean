import SocketGraph.Proofs.Shape

/-! The three caches of a frame, treated alike: pushed outputs, resolved inputs and exposed values. -/
namespace SocketGraph

/-- What a value is kept as. -/
inductive Cache
  | output
  | input
  | exposed
  deriving DecidableEq

namespace Frame

def kept? (f : Frame) (cache : Cache) (l : Link) : Option Value :=
  match cache with
  | .output => f.outputs.get? l.node l.socket
  | .input => f.inputs.get? l.node l.socket
  | .exposed => f.exposed.get? l.node l.socket

def keep (f : Frame) (cache : Cache) (l : Link) (v : Value) : Frame :=
  match cache with
  | .output => f.putOutput l v
  | .input => f.putInput l v
  | .exposed => f.putExposed l v

theorem kept?_keep (f : Frame) (cache cache' : Cache) (l l' : Link) (v : Value) :
    (f.keep cache l v).kept? cache' l' =
      if cache' = cache ∧ l' = l then some v else f.kept? cache' l' := by
  obtain ⟨node, socket⟩ := l
  obtain ⟨node', socket'⟩ := l'
  cases cache <;> cases cache' <;>
    simp [kept?, keep, putOutput, putInput, putExposed, SocketValues.get?_put]

@[simp] theorem shape_keep (f : Frame) (cache : Cache) (l : Link) (v : Value) :
    (f.keep cache l v).shape = f.shape := by cases cache <;> rfl

@[simp] theorem marks_keep (f : Frame) (cache : Cache) (l : Link) (v : Value) :
    (f.keep cache l v).marks = f.marks := by cases cache <;> rfl

@[simp] theorem kept?_fresh (permeable : Bool) (provider : Option FrameProvider) (cache : Cache)
    (l : Link) : (fresh permeable provider).kept? cache l = none := by cases cache <;> rfl

end Frame

namespace FrameStack

variable {s t : FrameStack} {i j : Nat} {cache cache' : Cache} {l l' : Link} {v : Value}

/-- What a walk from a frame finds in a cache. -/
def kept? (s : FrameStack) (i : Nat) (cache : Cache) (l : Link) : Option Value :=
  s.readThrough i (·.kept? cache l)

theorem get?_exposedBy_eq_kept? (s : FrameStack) (i : Nat) (node : NodeId) (socket : String) :
    (s.exposedBy i node).get? socket = s.kept? i .exposed ⟨node, socket⟩ :=
  s.get?_exposedBy i node socket

/-- Keep a value in a cache of every frame of a lineage. -/
def keep (s : FrameStack) (i : Nat) (cache : Cache) (l : Link) (v : Value) : FrameStack :=
  s.writeThrough i (·.keep cache l v)

@[simp] theorem shape_keep (s : FrameStack) (i : Nat) (cache : Cache) (l : Link) (v : Value) :
    (s.keep i cache l v).shape = s.shape := shape_writeThrough fun f => f.shape_keep cache l v

theorem kept?_eq_some (h : s.kept? i cache l = some v) :
    ∃ j ∈ s.lineage i, ∃ f, s.frame? j = some f ∧ f.kept? cache l = some v :=
  exists_of_readThrough h

theorem kept?_isSome (hj : j ∈ s.lineage i) {f : Frame} (hf : s.frame? j = some f)
    (hv : (f.kept? cache l).isSome) : (s.kept? i cache l).isSome := by
  rw [← Option.ne_none_iff_isSome]
  intro hnone
  have := readThrough_eq_none_iff.1 hnone j hj
  rw [hf, Option.bind_some] at this
  simp [this] at hv

/-- The frames after a write. -/
theorem frame?_keep {g : Frame} (hg : (s.keep i cache l v).frame? j = some g) :
    ∃ f, s.frame? j = some f ∧ g = if j ∈ s.lineage i then f.keep cache l v else f := by
  rw [keep, frame?_writeThrough] at hg
  split_ifs at hg ⊢ with hj
  · obtain ⟨f, hf, rfl⟩ := Option.map_eq_some_iff.1 hg
    exact ⟨f, hf, rfl⟩
  · exact ⟨g, hg, rfl⟩

/-- Every frame that a write reaches answers with what was written. -/
theorem kept?_keep_of_mem (hj : j ∈ s.lineage i) (cache : Cache) (l : Link) (v : Value) :
    (s.keep i cache l v).kept? j cache l = some v := by
  obtain ⟨hi, hji, -⟩ := mem_lineage.1 hj
  obtain ⟨f, hf⟩ := exists_frame? (Nat.lt_of_le_of_lt hji hi)
  refine readThrough_self (f := f.keep cache l v) ?_ ?_
  · rw [keep, frame?_writeThrough, if_pos hj, hf]
    rfl
  · rw [Frame.kept?_keep, if_pos ⟨rfl, rfl⟩]

/-- What was written is found. -/
theorem kept?_keep_self (hi : i < s.height) (cache : Cache) (l : Link) (v : Value) :
    (s.keep i cache l v).kept? i cache l = some v := kept?_keep_of_mem (self_mem_lineage hi) cache l v

/-- What was found is still found after a write. -/
theorem kept?_keep_isSome (cache : Cache) (l : Link) (v : Value)
    (h : (s.kept? i cache' l').isSome) : ((s.keep i cache l v).kept? i cache' l').isSome := by
  obtain ⟨w, hw⟩ := Option.isSome_iff_exists.1 h
  obtain ⟨j, hj, f, hf, hfw⟩ := kept?_eq_some hw
  have hlineage : (s.keep i cache l v).lineage i = s.lineage i := lineage_congr (shape_keep ..) i
  refine kept?_isSome (f := f.keep cache l v) (hlineage ▸ hj) ?_ ?_
  · rw [keep, frame?_writeThrough, if_pos hj, hf]
    rfl
  · rw [Frame.kept?_keep, hfw]
    split_ifs <;> rfl

end FrameStack

/-- A frame but for the nodes active on it. -/
def Frame.contents (f : Frame) : Frame := { f with active := [] }

/-- Two stacks differ at most in the active nodes. -/
def FrameStack.SameContents (s t : FrameStack) : Prop :=
  ∀ i, (s.frame? i).map Frame.contents = (t.frame? i).map Frame.contents

namespace FrameStack.SameContents

variable {s t : FrameStack} {i : Nat}

theorem symm (h : s.SameContents t) : t.SameContents s := fun i => (h i).symm

theorem modify (s : FrameStack) (i : Nat) {change : Frame → Frame}
    (hchange : ∀ f, (change f).contents = f.contents) : (s.modify i change).SameContents s := by
  intro j
  rw [frame?_modify]
  split_ifs
  · cases s.frame? j <;> simp [hchange]
  · rfl

theorem enter (s : FrameStack) (i : Nat) (a : Activation) : (s.enter i a).SameContents s :=
  modify s i fun _ => rfl

theorem leave (s : FrameStack) (i : Nat) : (s.leave i).SameContents s := modify s i fun _ => rfl

theorem frame? (h : s.SameContents t) {f : Frame} (hf : s.frame? i = some f) :
    ∃ g, t.frame? i = some g ∧ g.contents = f.contents := by
  have hi := h i
  rw [hf, Option.map_some] at hi
  exact Option.map_eq_some_iff.1 hi.symm

end FrameStack.SameContents

theorem Frame.kept?_contents (f : Frame) (cache : Cache) (l : Link) :
    f.contents.kept? cache l = f.kept? cache l := by cases cache <;> rfl

theorem Frame.kept?_of_contents {f g : Frame} (h : f.contents = g.contents) (cache : Cache)
    (l : Link) : f.kept? cache l = g.kept? cache l := by
  rw [← f.kept?_contents, h, g.kept?_contents]

/-- What a walk finds is a matter of the contents. -/
theorem FrameStack.kept?_of_contents {s t : FrameStack} (h : s.SameContents t) (i : Nat)
    (cache : Cache) (l : Link) : s.kept? i cache l = t.kept? i cache l := by
  have hpermeable (j : Nat) : s.isPermeable j = t.isPermeable j := by
    have hj := h j
    unfold isPermeable
    cases hs : s.frame? j <;> cases ht : t.frame? j <;> simp_all [Frame.contents]
  have hheight (j : Nat) : j < s.height ↔ j < t.height := by
    rw [← frame?_isSome_iff, ← frame?_isSome_iff, ← Option.isSome_map (f := Frame.contents), h j,
      Option.isSome_map]
  have hlineage : s.lineage i = t.lineage i := by
    simp only [lineage, hheight, descend_congr fun j _ => hpermeable j]
  unfold FrameStack.kept? readThrough
  rw [hlineage]
  congr 1
  funext j
  have hj := h j
  cases hs : s.frame? j with
  | none =>
    rw [hs, Option.map_none] at hj
    rw [Option.map_eq_none_iff.1 hj.symm]
  | some f =>
    obtain ⟨g, hg, hcontents⟩ := h.frame? hs
    rw [hg]
    exact (Frame.kept?_of_contents hcontents cache l).symm

theorem Frame.marks_of_contents {f g : Frame} (h : f.contents = g.contents) : f.marks = g.marks := by
  have hmarks : f.contents.marks = g.contents.marks := congrArg Frame.marks h
  exact hmarks

end SocketGraph
