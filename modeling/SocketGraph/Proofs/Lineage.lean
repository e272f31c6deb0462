import SocketGraph.FrameStack
import Mathlib.Tactic.Common

/-! Walks over the stack. The lineage of a frame is an interval that ends at its root; a write
changes exactly the frames of a lineage, and a read answers with the innermost one that can. -/
namespace SocketGraph
namespace FrameStack

variable {α : Type} {s : FrameStack} {i j k : Nat}

@[simp] theorem frame?_modify (s : FrameStack) (i j : Nat) (change : Frame → Frame) :
    (s.modify i change).frame? j = if i = j then (s.frame? j).map change else s.frame? j := by
  simp only [modify, frame?, List.getElem?_modify]
  by_cases h : i = j <;> simp [h]

theorem frame?_push (s : FrameStack) (f : Frame) (j : Nat) :
    (s.push f).frame? j = if j = s.height then some f else s.frame? j := by
  simp only [push, frame?, height, List.getElem?_append, List.getElem?_singleton]
  split_ifs with h1 h2 h3 <;> first | rfl | omega | simp_all

theorem frame?_push_of_lt (f : Frame) (h : j < s.height) : (s.push f).frame? j = s.frame? j := by
  rw [frame?_push, if_neg (by omega)]

@[simp] theorem frame?_push_height (s : FrameStack) (f : Frame) :
    (s.push f).frame? s.height = some f := by rw [frame?_push, if_pos rfl]

theorem frame?_pop (s : FrameStack) (j : Nat) :
    s.pop.frame? j = if j + 1 < s.height then s.frame? j else none := by
  simp only [pop, frame?, height, List.getElem?_dropLast]
  congr 1
  exact propext (by omega)

@[simp] theorem height_pop (s : FrameStack) : s.pop.height = s.height - 1 := by
  simp [pop, height]

theorem frame?_eq_none_iff : s.frame? j = none ↔ s.height ≤ j := by
  simp [frame?, height]

theorem frame?_isSome_iff : (s.frame? j).isSome ↔ j < s.height := by
  simp [frame?, height]

theorem exists_frame? (h : j < s.height) : ∃ f, s.frame? j = some f :=
  Option.isSome_iff_exists.1 (frame?_isSome_iff.2 h)

theorem lt_height_of_frame? {f : Frame} (h : s.frame? j = some f) : j < s.height :=
  frame?_isSome_iff.1 (by simp [h])

theorem ext_frame? {s t : FrameStack} (h : ∀ j, s.frame? j = t.frame? j) : s = t := by
  obtain ⟨fs⟩ := s
  obtain ⟨gs⟩ := t
  exact congrArg mk (List.ext_getElem? h)

/-- A walk from a frame goes over the frames below it as long as all of them let it on. -/
theorem mem_descend : j ∈ s.descend i ↔ j ≤ i ∧ ∀ k, j < k → k ≤ i → s.isPermeable k = true := by
  induction i with
  | zero =>
    simp only [descend, List.mem_singleton]
    constructor
    · rintro rfl
      exact ⟨Nat.le_refl _, fun k hk hk' => by omega⟩
    · rintro ⟨h, -⟩
      omega
  | succ i ih =>
    rw [descend, List.mem_cons]
    by_cases hp : s.isPermeable (i + 1) = true
    · rw [if_pos hp, ih]
      constructor
      · rintro (rfl | ⟨hj, h⟩)
        · exact ⟨Nat.le_refl _, fun k hk hk' => by omega⟩
        · refine ⟨by omega, fun k hk hk' => ?_⟩
          rcases Nat.le_succ_iff.1 hk' with hk' | rfl
          · exact h k hk hk'
          · exact hp
      · rintro ⟨hj, h⟩
        rcases Nat.le_succ_iff.1 hj with hj | rfl
        · exact .inr ⟨hj, fun k hk hk' => h k hk (by omega)⟩
        · exact .inl rfl
    · rw [if_neg hp]
      constructor
      · rintro (rfl | h)
        · exact ⟨Nat.le_refl _, fun k hk hk' => by omega⟩
        · simp at h
      · rintro ⟨hj, h⟩
        by_contra hne
        exact hp (h (i + 1) (by simp at hne; omega) (Nat.le_refl _))

theorem mem_lineage :
    j ∈ s.lineage i ↔ i < s.height ∧ j ≤ i ∧ ∀ k, j < k → k ≤ i → s.isPermeable k = true := by
  unfold lineage
  split_ifs with h <;> simp [h, mem_descend]

theorem le_of_mem_lineage (h : j ∈ s.lineage i) : j ≤ i := (mem_lineage.1 h).2.1

theorem self_mem_lineage (h : i < s.height) : i ∈ s.lineage i :=
  mem_lineage.2 ⟨h, Nat.le_refl _, fun k hk hk' => by omega⟩

/-- The walk from a frame on the way is the rest of the whole walk. -/
theorem mem_lineage_trans (hj : j ∈ s.lineage i) (hk : k ∈ s.lineage j) : k ∈ s.lineage i := by
  obtain ⟨hi, hji, hpj⟩ := mem_lineage.1 hj
  obtain ⟨-, hkj, hpk⟩ := mem_lineage.1 hk
  refine mem_lineage.2 ⟨hi, by omega, fun m hkm hmi => ?_⟩
  rcases Nat.lt_or_ge j m with hjm | hmj
  · exact hpj m hjm hmi
  · exact hpk m hkm hmj

theorem descend_pairwise (s : FrameStack) (i : Nat) : (s.descend i).Pairwise (· > ·) := by
  induction i with
  | zero => simp [descend]
  | succ i ih =>
    rw [descend, List.pairwise_cons]
    refine ⟨fun j hj => ?_, ?_⟩
    · split_ifs at hj with hp
      · have := (mem_descend.1 hj).1
        omega
      · simp at hj
    · split_ifs with hp
      · exact ih
      · exact List.Pairwise.nil

theorem lineage_nodup (s : FrameStack) (i : Nat) : (s.lineage i).Nodup := by
  unfold lineage
  split_ifs with h
  · exact (s.descend_pairwise i).imp fun hab => by omega
  · exact List.nodup_nil

/-- The lineage goes on below a frame exactly when the frame is permeable. -/
theorem lineage_succ (h : i + 1 < s.height) :
    s.lineage (i + 1) = (i + 1) :: if s.isPermeable (i + 1) then s.lineage i else [] := by
  have hi : i < s.height := by omega
  simp only [lineage, if_pos h, if_pos hi, descend]

theorem root_zero (s : FrameStack) : s.root 0 = 0 := by
  unfold root lineage
  split_ifs <;> simp [descend]

theorem root_succ (h : i + 1 < s.height) :
    s.root (i + 1) = if s.isPermeable (i + 1) then s.root i else i + 1 := by
  rw [root, lineage_succ h]
  split_ifs with hp
  · have hne : s.lineage i ≠ [] := List.ne_nil_of_mem (self_mem_lineage (by omega))
    rw [root, List.getLastD_cons]
    obtain ⟨d, l, hl⟩ := List.exists_cons_of_ne_nil hne
    simp [hl, List.getLast?_cons]
  · rfl

theorem root_mem_lineage (h : i < s.height) : s.root i ∈ s.lineage i := by
  have hne : s.lineage i ≠ [] := List.ne_nil_of_mem (self_mem_lineage h)
  rw [root, List.getLastD_eq_getLast?, List.getLast?_eq_some_getLast hne]
  exact List.getLast_mem hne

theorem root_le (h : i < s.height) : s.root i ≤ i := le_of_mem_lineage (root_mem_lineage h)

theorem root_lt_height (h : i < s.height) : s.root i < s.height := Nat.lt_of_le_of_lt (root_le h) h

/-- A write reaches the frames of the lineage and no others. -/
theorem frame?_writeThrough (s : FrameStack) (i j : Nat) (change : Frame → Frame) :
    (s.writeThrough i change).frame? j =
      if j ∈ s.lineage i then (s.frame? j).map change else s.frame? j := by
  unfold writeThrough
  generalize hl : s.lineage i = l
  have hnodup : l.Nodup := hl ▸ s.lineage_nodup i
  clear hl
  induction l generalizing s with
  | nil => rfl
  | cons d l ih =>
    obtain ⟨hd, hl⟩ := List.nodup_cons.1 hnodup
    rw [List.foldl_cons, ih _ hl, frame?_modify]
    by_cases hj : d = j
    · subst hj
      simp [hd]
    · simp [hj, Ne.symm hj]

theorem readThrough_zero (read : Frame → Option α) :
    s.readThrough 0 read = (s.frame? 0).bind read := by
  unfold readThrough lineage
  split_ifs with h
  · simp [descend]
  · simp [frame?_eq_none_iff.2 (Nat.not_lt.1 h)]

/-- A read asks the frame itself first, and goes on below it only when the frame is permeable. -/
theorem readThrough_succ (read : Frame → Option α) (h : i + 1 < s.height) :
    s.readThrough (i + 1) read = ((s.frame? (i + 1)).bind read).or
      (if s.isPermeable (i + 1) then s.readThrough i read else none) := by
  rw [readThrough, lineage_succ h, List.findSome?_cons]
  cases hread : (s.frame? (i + 1)).bind read with
  | some v => rfl
  | none => split_ifs <;> rfl

/-- An answer comes from some frame of the lineage. -/
theorem exists_of_readThrough {read : Frame → Option α} {a : α}
    (h : s.readThrough i read = some a) :
    ∃ j ∈ s.lineage i, ∃ f, s.frame? j = some f ∧ read f = some a := by
  obtain ⟨j, hj, ha⟩ := List.exists_of_findSome?_eq_some h
  obtain ⟨f, hf, ha⟩ := Option.bind_eq_some_iff.1 ha
  exact ⟨j, hj, f, hf, ha⟩

theorem readThrough_eq_none_iff {read : Frame → Option α} :
    s.readThrough i read = none ↔ ∀ j ∈ s.lineage i, (s.frame? j).bind read = none := by
  simp [readThrough]

theorem readThrough_self {read : Frame → Option α} {f : Frame} {a : α} (hf : s.frame? i = some f)
    (ha : read f = some a) : s.readThrough i read = some a := by
  have hi : i < s.height := lt_height_of_frame? hf
  cases i with
  | zero => rw [readThrough_zero, hf]; exact ha
  | succ i => rw [readThrough_succ read hi, hf]; simp [ha]

/-- The table of what a node exposes answers like the reads of its sockets. -/
theorem get?_exposedBy (s : FrameStack) (i : Nat) (node : NodeId) (socket : String) :
    (s.exposedBy i node).get? socket = s.exposed? i ⟨node, socket⟩ := by
  unfold exposedBy exposed? readThrough
  generalize s.lineage i = targets
  induction targets with
  | nil => rfl
  | cons j rest ih =>
    rw [List.foldr_cons, Table.get?_union, ih, List.findSome?_cons]
    cases hj : s.frame? j with
    | none => rfl
    | some f =>
      cases hnode : Table.get? f.exposed node with
      | none => simp [SocketValues.get?, hnode]
      | some exposed =>
        simp only [SocketValues.get?, Option.bind_some, hnode, Option.getD_some]
        cases exposed.get? socket <;> rfl

/-! A new frame on top leaves the walks from the frames below it as they were. -/

theorem isPermeable_push (s : FrameStack) (f : Frame) (j : Nat) :
    (s.push f).isPermeable j = if j = s.height then f.permeable else s.isPermeable j := by
  unfold isPermeable
  rw [frame?_push]
  split_ifs <;> rfl

theorem descend_push (f : Frame) (h : i < s.height) : (s.push f).descend i = s.descend i := by
  induction i with
  | zero => rfl
  | succ i ih =>
    have hne : i + 1 ≠ s.height := by omega
    simp only [descend, ih (by omega), isPermeable_push, if_neg hne]

theorem lineage_push (f : Frame) (h : i < s.height) : (s.push f).lineage i = s.lineage i := by
  have h' : i < (s.push f).height := by
    rw [height_push]
    omega
  rw [lineage, lineage, if_pos h, if_pos h', descend_push f h]

theorem root_push (f : Frame) (h : i < s.height) : (s.push f).root i = s.root i := by
  rw [root, root, lineage_push f h]

theorem readThrough_push (f : Frame) (read : Frame → Option α) (h : i < s.height) :
    (s.push f).readThrough i read = s.readThrough i read := by
  induction i with
  | zero => rw [readThrough_zero, readThrough_zero, frame?_push_of_lt f h]
  | succ i ih =>
    have hne : i + 1 ≠ s.height := by omega
    rw [readThrough_succ read h, readThrough_succ read (by rw [height_push]; omega),
      frame?_push_of_lt f h, isPermeable_push, if_neg hne, ih (by omega)]

@[simp] theorem top_push (s : FrameStack) (f : Frame) : (s.push f).top = s.height := by
  simp [top]

/-- A read on the new frame goes on to the frame that was on top before. -/
theorem readThrough_push_height (s : FrameStack) (f : Frame) (read : Frame → Option α) :
    (s.push f).readThrough s.height read =
      (read f).or (if f.permeable then s.readThrough s.top read else none) := by
  have hf : (s.push f).isPermeable s.height = f.permeable := by
    rw [isPermeable_push, if_pos rfl]
  cases hs : s.height with
  | zero =>
    have hnone : s.readThrough s.top read = none := by
      rw [top, hs, readThrough_zero, frame?_eq_none_iff.2 (by omega)]
      rfl
    rw [readThrough_zero, ← hs, frame?_push_height, hnone]
    simp
  | succ n =>
    rw [readThrough_succ read (by rw [height_push]; omega), ← hs, frame?_push_height, hf, top, hs,
      readThrough_push f read (by omega)]
    rfl

/-- The new frame on top shares the root of the frame that was on top before, if it is permeable. -/
theorem root_push_height (s : FrameStack) (f : Frame) :
    (s.push f).root s.height =
      if f.permeable = true ∧ 0 < s.height then s.root s.top else s.height := by
  have hf : (s.push f).isPermeable s.height = f.permeable := by
    rw [isPermeable_push, if_pos rfl]
  rw [top]
  cases hs : s.height with
  | zero => simp [root_zero]
  | succ n =>
    rw [hs] at hf
    rw [root_succ (by rw [height_push]; omega), hf, root_push f (by omega)]
    simp

end FrameStack
end SocketGraph
