import Mathlib.Data.List.Intervals
import Mathlib.Data.Nat.Find
import SocketGraph.Proofs.Cached
import SocketGraph.Proofs.Views

/-! Writes and reads on any stack, also where a frame keeps a value that the frames below it have not. A lineage
is an interval of frames, which a write fills; a read further above finds what was written unless a frame on its
way there has a value of its own. -/
namespace SocketGraph

/-- What stays on a frame when values and signals are written: its provider, its marks and its active nodes. -/
def Frame.fixtures (f : Frame) : Option FrameProvider × Marks × List Activation :=
  (f.provider, f.marks, f.active)

namespace FrameStack

variable {α : Type} {s t : FrameStack} {i j : Nat} {cache cache' : Cache} {l l' : Link}

/-- A frame that there is not is its own root. -/
theorem root_of_height_le (h : s.height ≤ i) : s.root i = i := by
  rw [root, lineage, if_neg (Nat.not_lt.2 h)]
  rfl

/-- The root of a frame is the greatest one up to it that is not permeable, or else the outermost one. -/
theorem root_eq_findGreatest (hi : i < s.height) :
    s.root i = Nat.findGreatest (fun k => s.isPermeable k = false) i := by
  induction i with
  | zero => rw [root_zero, Nat.findGreatest_zero]
  | succ i ih =>
    rw [root_succ hi, Nat.findGreatest_succ, ih (by omega)]
    cases s.isPermeable (i + 1) <;> rfl

/-- The lineage of a frame leads down to its root frame by frame. -/
theorem lineage_eq_interval (hi : i < s.height) : s.lineage i = (List.Ico (s.root i) (i + 1)).reverse := by
  induction i with
  | zero =>
    rw [lineage, if_pos hi, root_zero]
    rfl
  | succ i ih =>
    have hle : s.root i ≤ i := root_le (by omega)
    rw [lineage_succ hi, root_succ hi]
    split_ifs with hp
    · rw [ih (by omega), List.Ico.succ_top (show s.root i ≤ i + 1 by omega), List.reverse_append]
      rfl
    · rw [List.Ico.succ_singleton]
      rfl

/-- A walk comes to no frame below the root. -/
theorem root_le_of_mem_lineage (h : j ∈ s.lineage i) : s.root i ≤ j := by
  rw [lineage_eq_interval (mem_lineage.1 h).1, List.mem_reverse, List.Ico.mem] at h
  exact h.1

/-- Of two frames with one root the lower one is on the way from the upper one. -/
theorem mem_lineage_of_root (hi : i < s.height) (hji : j ≤ i) (hroot : s.root j = s.root i) :
    j ∈ s.lineage i := by
  have hle : s.root j ≤ j := root_le (by omega)
  rw [lineage_eq_interval hi, List.mem_reverse, List.Ico.mem]
  omega

/-- A frame on the way from another one has the same root. -/
theorem root_of_mem_lineage (h : j ∈ s.lineage i) : s.root j = s.root i := by
  have hi : i < s.height := (mem_lineage.1 h).1
  induction i with
  | zero =>
    obtain rfl : j = 0 := Nat.le_zero.1 (le_of_mem_lineage h)
    rfl
  | succ i ih =>
    rw [lineage_succ hi, List.mem_cons] at h
    rcases h with rfl | h
    · rfl
    · split_ifs at h with hp
      · rw [root_succ hi, if_pos hp]
        exact ih h (by omega)
      · exact nomatch h

/-- A frame with the root of another one is there too. -/
theorem lt_height_of_root (hi : i < s.height) (hroot : s.root j = s.root i) : j < s.height := by
  by_contra hj
  have hself : s.root j = j := root_of_height_le (Nat.not_lt.1 hj)
  have hlt : s.root i < s.height := root_lt_height hi
  omega

/-- A walk that comes to frame `i` goes over the frames above it first, and then on as from `i`. -/
theorem lineage_eq_append (hj : j < s.height) (hij : i ≤ j) (hroot : s.root j = s.root i) :
    s.lineage j = (List.Ico (i + 1) (j + 1)).reverse ++ s.lineage i := by
  have hle : s.root i ≤ i := root_le (by omega)
  rw [lineage_eq_interval hj, lineage_eq_interval (Nat.lt_of_le_of_lt hij hj), hroot, ← List.reverse_append,
    List.Ico.append_consecutive (by omega) (by omega)]

/-- The first answer of the frames from `j` down to the one above `i`. -/
def readAbove (s : FrameStack) (i j : Nat) (read : Frame → Option α) : Option α :=
  (List.Ico (i + 1) (j + 1)).reverse.findSome? fun k => (s.frame? k).bind read

theorem readAbove_eq_none_iff {read : Frame → Option α} :
    s.readAbove i j read = none ↔ ∀ k ≤ j, i < k → (s.frame? k).bind read = none := by
  simp only [readAbove, List.findSome?_eq_none_iff, List.mem_reverse, List.Ico.mem]
  exact ⟨fun h k hkj hik => h k ⟨hik, by omega⟩, fun h k hk => h k (by omega) (by omega)⟩

/-- The frames above `i` answer before `i` does. -/
theorem readThrough_eq_or (hj : j < s.height) (hij : i ≤ j) (hroot : s.root j = s.root i)
    (read : Frame → Option α) : s.readThrough j read = (s.readAbove i j read).or (s.readThrough i read) := by
  rw [readThrough, lineage_eq_append hj hij hroot, List.findSome?_append]
  rfl

theorem findSome?_congr {f g : Nat → Option α} {targets : List Nat} (h : ∀ k ∈ targets, f k = g k) :
    targets.findSome? f = targets.findSome? g := by
  induction targets with
  | nil => rfl
  | cons k rest ih =>
    obtain ⟨hk, hrest⟩ := List.forall_mem_cons.1 h
    rw [List.findSome?_cons, List.findSome?_cons, hk, ih hrest]

/-- A read along a lineage is the same on stacks that agree there. -/
theorem readThrough_congr {read : Frame → Option α} (hlineage : t.lineage i = s.lineage i)
    (h : ∀ k ∈ s.lineage i, (t.frame? k).bind read = (s.frame? k).bind read) :
    t.readThrough i read = s.readThrough i read := by
  rw [readThrough, readThrough, hlineage]
  exact findSome?_congr h

/-- A write leaves the frames above it alone. -/
theorem readAbove_writeThrough (s : FrameStack) (i j : Nat) (change : Frame → Frame) (read : Frame → Option α) :
    (s.writeThrough i change).readAbove i j read = s.readAbove i j read := by
  refine findSome?_congr fun k hk => ?_
  have hik : i < k := (List.Ico.mem.1 (List.mem_reverse.1 hk)).1
  rw [frame?_writeThrough, if_neg fun h => Nat.not_le.2 hik (le_of_mem_lineage h)]

/-- What is put at frame `i` is seen from frame `j`: they have one root, and of the frames above `i` up to `j`
none has a value of its own. -/
def Sees (s : FrameStack) (j i : Nat) (cache : Cache) (l : Link) : Prop :=
  s.root j = s.root i ∧ ∀ k ≤ j, i < k → (s.frame? k).bind (·.kept? cache l) = none

instance : Decidable (s.Sees j i cache l) := inferInstanceAs (Decidable (_ ∧ ∀ k ≤ j, _))

theorem sees_self : s.Sees i i cache l := ⟨rfl, fun k hki hik => by omega⟩

/-- A write is found in no other cache, for no other socket and from no frame with another root. -/
theorem kept?_keep_of_ne (h : ¬ (cache' = cache ∧ l' = l ∧ s.root j = s.root i)) (v : Value) :
    (s.keep i cache l v).kept? j cache' l' = s.kept? j cache' l' := by
  refine readThrough_congr (lineage_congr (shape_keep ..) j) fun k hk => ?_
  rw [keep, frame?_writeThrough]
  split_ifs with hki
  · -- both frames have one root here, so it is another cache or another socket
    have hroot : s.root j = s.root i := (root_of_mem_lineage hk).symm.trans (root_of_mem_lineage hki)
    cases s.frame? k with
    | none => rfl
    | some f =>
      rw [Option.map_some, Option.bind_some, Option.bind_some, Frame.kept?_keep, if_neg]
      rintro ⟨hcache, hl⟩
      exact h ⟨hcache, hl, hroot⟩
  · rfl

/-- A read from above a write finds the first value on the way, and what was written only behind all of them. -/
theorem kept?_keep_of_le (hj : j < s.height) (hij : i ≤ j) (hroot : s.root j = s.root i) (cache : Cache) (l : Link)
    (v : Value) : (s.keep i cache l v).kept? j cache l = (s.readAbove i j (·.kept? cache l)).or (some v) := by
  have hshape : (s.keep i cache l v).shape = s.shape := shape_keep ..
  have hi : i < s.height := Nat.lt_of_le_of_lt hij hj
  rw [kept?, readThrough_eq_or (height_congr hshape ▸ hj) hij (by rw [root_congr hshape, root_congr hshape, hroot]),
    keep, readAbove_writeThrough]
  exact congrArg _ (kept?_keep_self hi cache l v)

/-- A value that was written is found where it is seen from; every other read is as before. -/
theorem kept?_keep (hi : i < s.height) (j : Nat) (cache cache' : Cache) (l l' : Link) (v : Value) :
    (s.keep i cache l v).kept? j cache' l' =
      if cache' = cache ∧ l' = l ∧ s.Sees j i cache l then some v else s.kept? j cache' l' := by
  by_cases hsame : cache' = cache ∧ l' = l ∧ s.root j = s.root i
  · obtain ⟨rfl, rfl, hroot⟩ := hsame
    have hj : j < s.height := lt_height_of_root hi hroot
    rcases Nat.lt_or_ge i j with hij | hji
    · -- the frames above `i` answer first, both before and after the write
      rw [kept?_keep_of_le hj hij.le hroot, kept?, readThrough_eq_or hj hij.le hroot]
      cases habove : s.readAbove i j (·.kept? cache' l') with
      | none =>
        rw [if_pos ⟨rfl, rfl, hroot, readAbove_eq_none_iff.1 habove⟩]
        rfl
      | some w =>
        rw [if_neg fun h => nomatch habove.symm.trans (readAbove_eq_none_iff.2 h.2.2.2)]
        rfl
    · rw [kept?_keep_of_mem (mem_lineage_of_root hi hji hroot), if_pos]
      exact ⟨rfl, rfl, hroot, fun k hkj hik => by omega⟩
  · rw [kept?_keep_of_ne hsame, if_neg]
    exact fun h => hsame ⟨h.1, h.2.1, h.2.2.1⟩

/-- From a frame that no permeable frame stands on, all frames with its root are below it. -/
theorem sees_iff_of_apart (hi : i < s.height) (hapart : s.isPermeable (i + 1) = false) (hj : j < s.height) :
    s.Sees j i cache l ↔ s.root j = s.root i := by
  refine ⟨And.left, fun hroot => ⟨hroot, fun k hkj hik => ?_⟩⟩
  have hle : s.root i ≤ i := root_le hi
  have hpermeable := (mem_lineage.1 (root_mem_lineage hj)).2.2 (i + 1) (by omega) (by omega)
  exact nomatch hapart.symm.trans hpermeable

/-- A write on a frame that no permeable frame stands on is found from the frames with its root, and from
no others. -/
theorem kept?_keep_of_apart (hi : i < s.height) (hapart : s.isPermeable (i + 1) = false) (hj : j < s.height)
    (cache cache' : Cache) (l l' : Link) (v : Value) : (s.keep i cache l v).kept? j cache' l' =
      if cache' = cache ∧ l' = l ∧ s.root j = s.root i then some v else s.kept? j cache' l' := by
  simp only [kept?_keep hi, sees_iff_of_apart hi hapart hj]

/-- What becomes of a stack when a value is put into a cache at frame `i`: the reads of its socket find it where it
is seen from, every other read answers as before, and the frames keep their kinds, their signals and their
fixtures. -/
structure Puts (s : FrameStack) (i : Nat) (cache : Cache) (l : Link) (v : Value) (t : FrameStack) : Prop where
  output : ∀ j l', t.output? j l' =
    if Cache.output = cache ∧ l' = l ∧ s.Sees j i cache l then some v else s.output? j l'
  input : ∀ j l', t.input? j l' =
    if Cache.input = cache ∧ l' = l ∧ s.Sees j i cache l then some v else s.input? j l'
  exposed : ∀ j l', t.exposed? j l' =
    if Cache.exposed = cache ∧ l' = l ∧ s.Sees j i cache l then some v else s.exposed? j l'
  signals : t.view Frame.signals = s.view Frame.signals
  fixtures : t.view Frame.fixtures = s.view Frame.fixtures

theorem puts_keep (hi : i < s.height) (cache : Cache) (l : Link) (v : Value) :
    s.Puts i cache l v (s.keep i cache l v) where
  output j l' := kept?_keep hi j cache .output l l' v
  input j l' := kept?_keep hi j cache .input l l' v
  exposed j l' := kept?_keep hi j cache .exposed l l' v
  signals := by cases cache <;> exact view_writeThrough (fun _ => rfl) fun _ => rfl
  fixtures := by cases cache <;> exact view_writeThrough (fun _ => rfl) fun _ => rfl

/-- A signal is added once to each frame of the lineage, and that is all that changes. -/
theorem frame?_addSignal (s : FrameStack) (i j : Nat) (signal : Link) :
    (s.addSignal i signal).frame? j = (s.frame? j).map fun f =>
      if j ∈ s.lineage i then { f with signals := f.signals ++ [signal] } else f := by
  rw [addSignal, frame?_writeThrough]
  split_ifs
  · rfl
  · exact Option.map_id'.symm

/-- Reads and writes on a stack of any frames with any contents. The lineage of a frame leads down frame by frame
to its root, the greatest frame up to it that is not permeable, or else the outermost one. A value that is put at
the frame is found from every frame with the same root, unless a frame above it and up to the reader had a value
of its own, and no other read notices it. A signal is added once to each frame of the lineage and to no other. No
frame comes or goes, and each keeps its kind, its provider, its marks and its active nodes. -/
theorem reads_after_writes (s : FrameStack) {i : Nat} (hi : i < s.height) :
    s.root i = Nat.findGreatest (fun k => s.isPermeable k = false) i ∧
    s.lineage i = (List.Ico (s.root i) (i + 1)).reverse ∧
    (∀ l v, s.Puts i .output l v (s.putOutput i l v) ∧ s.Puts i .input l v (s.putInput i l v) ∧
      s.Puts i .exposed l v (s.putExposed i l v)) ∧
    ∀ signal, (∀ j, (s.addSignal i signal).frame? j = (s.frame? j).map fun f =>
        if j ∈ s.lineage i then { f with signals := f.signals ++ [signal] } else f) ∧
      (s.addSignal i signal).view Frame.fixtures = s.view Frame.fixtures := by
  refine ⟨root_eq_findGreatest hi, lineage_eq_interval hi, fun l v => ?_, fun signal => ?_⟩
  · exact ⟨puts_keep hi .output l v, puts_keep hi .input l v, puts_keep hi .exposed l v⟩
  · exact ⟨fun j => frame?_addSignal s i j signal, view_writeThrough (fun _ => rfl) fun _ => rfl⟩

end FrameStack

/-- Five frames, of which the second ends walks and the fourth alone has an output. -/
def shadowedStack : FrameStack :=
  ⟨[.fresh true none, .fresh false none, .fresh true none,
    (Frame.fresh true none).putOutput ⟨"b", "out"⟩ (.int 1), .fresh true none]⟩

/-- Two outputs are put at the third frame; the one that the fourth frame has too is not seen from above it. -/
theorem reads_after_writes_shadowed :
    let s := shadowedStack
    let t := s.putOutput 2 ⟨"b", "out"⟩ (.int 2)
    let u := s.putOutput 2 ⟨"c", "out"⟩ (.int 2)
    2 < s.height ∧ s.root 2 = 1 ∧ s.lineage 2 = [2, 1] ∧
      (t.output? 0 ⟨"b", "out"⟩ = none ∧ t.output? 1 ⟨"b", "out"⟩ = some (.int 2) ∧
        t.output? 4 ⟨"b", "out"⟩ = some (.int 1)) ∧
      (u.output? 0 ⟨"c", "out"⟩ = none ∧ u.output? 4 ⟨"c", "out"⟩ = some (.int 2)) ∧
      ((s.addSignal 2 ⟨"b", "lit"⟩).frame? 1).map Frame.signals = some [⟨"b", "lit"⟩] ∧
      ((s.addSignal 2 ⟨"b", "lit"⟩).frame? 3).map Frame.signals = some [] := by
  intro s t u
  have hi : 2 < s.height := by decide
  obtain ⟨hroot, hlineage, hputs, hsignals⟩ := s.reads_after_writes hi
  have hroot : s.root 2 = 1 := hroot
  rw [hroot] at hlineage
  obtain ⟨hb, -, -⟩ := hputs ⟨"b", "out"⟩ (.int 2)
  obtain ⟨hc, -, -⟩ := hputs ⟨"c", "out"⟩ (.int 2)
  obtain ⟨hlit, -⟩ := hsignals ⟨"b", "lit"⟩
  refine ⟨hi, hroot, hlineage, ⟨?_, ?_, ?_⟩, ⟨?_, ?_⟩, ?_, ?_⟩
  · exact (hb.output 0 ⟨"b", "out"⟩).trans (if_neg (by decide))
  · exact (hb.output 1 ⟨"b", "out"⟩).trans (if_pos (by decide))
  · exact (hb.output 4 ⟨"b", "out"⟩).trans (if_neg (by decide))
  · exact (hc.output 0 ⟨"c", "out"⟩).trans (if_neg (by decide))
  · exact (hc.output 4 ⟨"c", "out"⟩).trans (if_pos (by decide))
  · rw [hlit]
    rfl
  · rw [hlit]
    rfl

end SocketGraph
