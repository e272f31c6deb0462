import SocketGraph.Proofs.CallStack

/-! Frames that handlers may run on. Above such a frame there is at most a frame that lets nothing
through, and whoever answers for it from an outer frame is the gateway that has opened the linked scene
and is active there. -/
namespace SocketGraph
namespace FrameStack

variable {pairs : Activation → Pairings → Prop} {calls : CallStack} {s t : FrameStack} {i j : Nat}

/-- A binding answers for a frame on behalf of the gateway that has opened the scene of that frame: its
handler is at work, and it is the innermost active node of its own frame. Which pairings a gateway may
open a scene with is a parameter. -/
structure Answers (pairs : Activation → Pairings → Prop) (calls : CallStack) (s : FrameStack) (i : Nat)
    (b : Binding) : Prop where
  below : b.caller < i
  gateway : ∃ g ∈ calls, g.frame = b.caller ∧ g.scene = some (s.root i) ∧
    s.active? b.caller = some g.current ∧ pairs g.activation b.pairings

/-- Handlers may run on a frame: no frame above shares its contents, and the gateway that answers for
it, if there is one, works on a frame further below on which handlers may run too. -/
inductive Ready (pairs : Activation → Pairings → Prop) (calls : CallStack) (s : FrameStack) :
    Nat → Prop
  | intro {i : Nat} (present : i < s.height) (apart : s.isPermeable (i + 1) = false)
      (answers : ∀ b, s.provider? i = some (.gateway b) → s.Answers pairs calls i b)
      (caller : ∀ b, s.provider? i = some (.gateway b) → Ready pairs calls s b.caller) :
      Ready pairs calls s i

/-- A frame from which the gateways that answer can be reached, as from a ready one. -/
structure Served (pairs : Activation → Pairings → Prop) (calls : CallStack) (s : FrameStack)
    (i : Nat) : Prop where
  answers : ∀ b, s.provider? i = some (.gateway b) → s.Answers pairs calls i b
  caller : ∀ b, s.provider? i = some (.gateway b) → s.Ready pairs calls b.caller

namespace Answers

variable {b : Binding}

theorem congr (hst : s.shape = t.shape) (h : s.Answers pairs calls i b) :
    t.Answers pairs calls i b := by
  obtain ⟨hlt, g, hg, hframe, hscene, hactive, hp⟩ := h
  refine ⟨hlt, g, hg, hframe, ?_, ?_, hp⟩
  · rwa [← root_congr hst]
  · rwa [← active?_congr hst]

theorem cons (g : Invocation) (h : s.Answers pairs calls i b) :
    s.Answers pairs (g :: calls) i b := by
  obtain ⟨hlt, g', hg', hrest⟩ := h
  exact ⟨hlt, g', List.mem_cons_of_mem _ hg', hrest⟩

/-- An activation on the frame itself or above leaves the gateways below in their places. -/
theorem enter (a : Activation) (h : s.Answers pairs calls i b) (hij : i ≤ j) :
    (s.enter j a).Answers pairs calls i b := by
  obtain ⟨hlt, g, hg, hframe, hscene, hactive, hp⟩ := h
  refine ⟨hlt, g, hg, hframe, ?_, ?_, hp⟩
  · rwa [root_enter]
  · rwa [active?_enter_of_ne (by omega)]

theorem push (f : Frame) (h : s.Answers pairs calls i b) (hi : i < s.height) :
    (s.push f).Answers pairs calls i b := by
  obtain ⟨hlt, g, hg, hframe, hscene, hactive, hp⟩ := h
  refine ⟨hlt, g, hg, hframe, ?_, ?_, hp⟩
  · rwa [root_push f hi]
  · unfold active?
    rwa [frame?_push_of_lt f (by omega)]

end Answers

namespace Ready

theorem present (h : s.Ready pairs calls i) : i < s.height := by cases h; assumption

theorem apart (h : s.Ready pairs calls i) : s.isPermeable (i + 1) = false := by cases h; assumption

theorem served (h : s.Ready pairs calls i) : s.Served pairs calls i := by
  cases h with
  | intro _ _ answers caller => exact ⟨answers, caller⟩

/-- Readiness is read off the shape. -/
theorem congr (hst : s.shape = t.shape) (h : s.Ready pairs calls i) : t.Ready pairs calls i := by
  induction h with
  | intro present apart answers _ ih =>
    refine .intro (height_congr hst ▸ present) (isPermeable_congr hst _ ▸ apart) ?_ ?_
    · intro b hb
      rw [← provider?_congr hst] at hb
      exact (answers b hb).congr hst
    · intro b hb
      rw [← provider?_congr hst] at hb
      exact ih b hb

/-- Further handlers at work do no harm. -/
theorem cons (g : Invocation) (h : s.Ready pairs calls i) : s.Ready pairs (g :: calls) i := by
  induction h with
  | intro present apart answers _ ih =>
    exact .intro present apart (fun b hb => (answers b hb).cons g) ih

theorem enter (a : Activation) (h : s.Ready pairs calls i) (hij : i ≤ j) :
    (s.enter j a).Ready pairs calls i := by
  induction h with
  | intro present apart answers _ ih =>
    refine .intro (by rwa [height_enter]) (by rwa [isPermeable_enter]) ?_ ?_
    · intro b hb
      rw [provider?_enter] at hb
      exact (answers b hb).enter a hij
    · intro b hb
      rw [provider?_enter] at hb
      exact ih b hb (by have := (answers b hb).below; omega)

/-- A frame stays ready under a new frame on top that does not share its contents. -/
theorem push (f : Frame) (h : s.Ready pairs calls i) (hf : f.permeable = false ∨ i + 1 < s.height) :
    (s.push f).Ready pairs calls i := by
  induction h with
  | @intro i present apart answers _ ih =>
    have hprovider : (s.push f).provider? i = s.provider? i := readThrough_push f _ present
    refine .intro (by rw [height_push]; omega) ?_ ?_ ?_
    · rw [isPermeable_push]
      split_ifs with htop
      · exact hf.resolve_right (by omega)
      · exact apart
    · intro b hb
      rw [hprovider] at hb
      exact (answers b hb).push f present
    · intro b hb
      rw [hprovider] at hb
      exact ih b hb (.inr (by have := (answers b hb).below; omega))

end Ready

namespace Served

theorem congr (hst : s.shape = t.shape) (h : s.Served pairs calls i) : t.Served pairs calls i := by
  constructor
  · intro b hb
    rw [← provider?_congr hst] at hb
    exact (h.answers b hb).congr hst
  · intro b hb
    rw [← provider?_congr hst] at hb
    exact (h.caller b hb).congr hst

theorem of_provider?_eq_none (h : s.provider? i = none) : s.Served pairs calls i :=
  ⟨fun b hb => by simp [h] at hb, fun b hb => by simp [h] at hb⟩

end Served

namespace Ready

/-- A frame on top is ready as soon as its gateway can be reached. -/
theorem of_push {f : Frame}
    (h : ∀ b, (s.push f).provider? s.height = some (.gateway b) →
      (s.push f).Answers pairs calls s.height b ∧ (s.push f).Ready pairs calls b.caller) :
    (s.push f).Ready pairs calls s.height := by
  refine .intro (by simp) ?_ (fun b hb => (h b hb).1) fun b hb => (h b hb).2
  unfold isPermeable
  rw [frame?_eq_none_iff.2 (by simp)]
  rfl

/-- The inner frame of a linked scene is ready when the gateway that opens it is at work on a ready
frame. -/
theorem sceneScope {g : Invocation} {p : Pairings} (h : s.Ready pairs calls g.frame)
    (hg : g ∈ calls) (hscene : g.scene = some s.height)
    (hactive : s.active? g.frame = some g.current) (hp : pairs g.activation p) :
    ((s.push (.fresh false (some (.gateway ⟨g.frame, p⟩)))).push (.fresh true none)).Ready pairs calls
      (s.height + 1) := by
  rw [← height_push s (.fresh false (some (.gateway ⟨g.frame, p⟩)))]
  refine of_push fun b hb => ?_
  have hb' : b = ⟨g.frame, p⟩ := by
    simp only [provider?, readThrough_push_height, top_push] at hb
    simpa [Frame.fresh, eq_comm] using hb
  subst hb'
  have hi : g.frame < s.height := h.present
  refine ⟨⟨by simp; omega, g, hg, rfl, ?_, ?_, hp⟩,
    (h.push _ (.inl rfl)).push _ (.inr (by simp; omega))⟩
  · rw [hscene, root_push_height, if_pos ⟨rfl, by simp⟩, top_push, root_push_height, if_neg]
    simp [Frame.fresh]
  · unfold active?
    rw [frame?_push_of_lt _ (by simp; omega), frame?_push_of_lt _ hi]
    exact hactive

/-- The inner frame of a call is ready when the gateways can be reached from the frame below. -/
theorem callScope (provider : Option Provider) (h : s.Served pairs calls s.top) :
    ((s.push (.fresh true none)).push (.fresh true (provider.map .host))).Ready pairs calls
      (s.height + 1) := by
  rw [← height_push s (.fresh true none)]
  refine of_push fun b hb => ?_
  have hb' : s.provider? s.top = some (.gateway b) := by
    simp only [provider?, readThrough_push_height, top_push] at hb
    cases provider with
    | none => simpa [Frame.fresh, provider?] using hb
    | some provider => simp [Frame.fresh] at hb
  obtain ⟨hlt, g, hg, hframe, hscene, hactive, hp⟩ := h.answers b hb'
  unfold top at hlt
  have hcaller : (s.push (.fresh true none)).Ready pairs calls b.caller :=
    (h.caller b hb').push _ (.inr (by omega))
  refine ⟨⟨by simp; omega, g, hg, hframe, ?_, ?_, hp⟩, hcaller.push _ (.inr (by simp; omega))⟩
  · rw [hscene, root_push_height, if_pos ⟨rfl, by simp⟩, top_push, root_push_height,
      if_pos ⟨rfl, by omega⟩]
  · unfold active?
    rw [frame?_push_of_lt _ (by simp; omega), frame?_push_of_lt _ (by omega)]
    exact hactive

end Ready

end FrameStack
end SocketGraph
