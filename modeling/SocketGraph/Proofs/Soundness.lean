import SocketGraph.Proofs.Cached
import SocketGraph.Proofs.Repetition

/-! The soundness of caches. Every frame stands for a site; what its caches hold is what evaluations
without caches give there, as far as these give anything within some number of levels. -/
namespace SocketGraph

theorem Scene.Instance.plain_eq {scene : Scene} {c c' : Component} {a a' : Activation}
    (h : scene.Instance c a) (h' : scene.Instance c' a') (hnode : a.node = a'.node) :
    a.plain = a'.plain := by
  obtain ⟨info, cause, hinfo, hc, ha⟩ := h
  obtain ⟨info', cause', hinfo', hc', ha'⟩ := h'
  rw [hnode, hinfo'] at hinfo
  obtain rfl := Option.some.inj hinfo
  obtain rfl := Option.some.inj (hc.symm.trans hc')
  rw [ha, ha', hnode]
  rfl

/-- What an evaluation within some levels says about a value in a cache, if it says anything. -/
def Scene.Tells (scene : Scene) (levels : Nat) (site : Site) (cache : Cache) (l : Link)
    (answer : Option Value) : Prop :=
  match cache with
  | .output => ∃ y, scene.recompute levels site l.node (some l.socket) = .ok y ∧
      y.pushed.get? l.socket = answer
  | .input => ∃ c a, scene.Instance c a ∧ a.node = l.node ∧
      Recompute.fetch scene (scene.recompute levels) site a l.socket = .ok answer
  | .exposed => ∃ requested y, scene.recompute levels site l.node requested = .ok y ∧
      y.exposed.get? l.socket = answer

namespace Scene.Tells

variable {scene : Scene} {m n : Nat} {site : Site} {cache : Cache} {l : Link}
  {answer answer' : Option Value} (hsteady : scene.registry.Steady)
include hsteady

theorem mono (h : scene.Tells m site cache l answer) (hmn : m ≤ n) :
    scene.Tells n site cache l answer := by
  have hle := recompute_le hsteady hmn
  cases cache with
  | output =>
    obtain ⟨y, hy, hanswer⟩ := h
    exact ⟨y, hle hy, hanswer⟩
  | input =>
    obtain ⟨c, a, hmade, hnode, hfetch⟩ := h
    exact ⟨c, a, hmade, hnode, Recompute.fetch_mono hle hfetch⟩
  | exposed =>
    obtain ⟨requested, y, hy, hanswer⟩ := h
    exact ⟨requested, y, hle hy, hanswer⟩

theorem unique (h : scene.Tells m site cache l answer) (h' : scene.Tells n site cache l answer') :
    answer = answer' := by
  have h := h.mono hsteady (Nat.le_max_left m n)
  have h' := h'.mono hsteady (Nat.le_max_right m n)
  cases cache with
  | output =>
    obtain ⟨y, hy, rfl⟩ := h
    obtain ⟨z, hz, rfl⟩ := h'
    rw [recompute_unique hsteady hy hz]
  | input =>
    obtain ⟨c, a, hmade, hnode, hfetch⟩ := h
    obtain ⟨c', a', hmade', hnode', hfetch'⟩ := h'
    have hplain := hmade.plain_eq hmade' (hnode.trans hnode'.symm)
    have hsame : Recompute.fetch scene (scene.recompute (max m n)) site a.plain l.socket =
        Recompute.fetch scene (scene.recompute (max m n)) site a'.plain l.socket := by rw [hplain]
    exact Except.ok.inj (hfetch.symm.trans (hsame.trans hfetch'))
  | exposed =>
    obtain ⟨requested, y, hy, rfl⟩ := h
    obtain ⟨requested', z, hz, rfl⟩ := h'
    rw [recompute_exposed hsteady hy hz]

end Scene.Tells

/-- No marks are set, and what the frames keep is what evaluations at their sites tell. -/
structure Sound (scene : Scene) (levels : Nat) (sites : Nat → Site) (st : EngineState) : Prop where
  forever : st.forever = .empty
  marks : ∀ {i f}, st.stack.frame? i = some f → f.marks = .empty
  kept : ∀ {i f cache l v answer}, st.stack.frame? i = some f → f.kept? cache l = some v →
    scene.Tells levels (sites i) cache l answer → answer = some v

/-- What has been written since: only what evaluations tell something about, and what is the own
business of someone. -/
def Accounted (scene : Scene) (levels : Nat) (sites : Nat → Site) (own : Nat → Cache → Link → Prop)
    (s t : FrameStack) : Prop :=
  ∀ ⦃i f g⦄, s.frame? i = some f → t.frame? i = some g → ∀ cache l,
    g.kept? cache l = f.kept? cache l ∨ (∃ answer, scene.Tells levels (sites i) cache l answer) ∨
      own i cache l

namespace Sound

variable {scene : Scene} {levels : Nat} {sites sites' : Nat → Site} {st st' : EngineState}
  {s : FrameStack} {i : Nat} {cache : Cache} {l : Link} {v : Value}

theorem fresh (scene : Scene) (levels : Nat) (sites : Nat → Site) :
    Sound scene levels sites .fresh := ⟨rfl, nofun, nofun⟩

/-- No node has been marked as updated. -/
theorem needsUpdate (h : Sound scene levels sites st) (i : Nat) (node : NodeId)
    (component : String) : st.needsUpdate i node component = true := by
  have hmarked (j : Nat) : st.stack.isMarked j node component = false := by
    unfold FrameStack.isMarked
    cases hf : st.stack.frame? j with
    | none => rfl
    | some f => rw [Option.any_some, h.marks hf, Marks.covers_empty]
  rw [EngineState.needsUpdate, h.forever, Marks.covers_empty, hmarked, hmarked]
  rfl

/-- Soundness is about the contents of frames. -/
theorem congr (h : Sound scene levels sites st) (hsame : st.stack.SameContents st'.stack)
    (hforever : st'.forever = st.forever) : Sound scene levels sites st' := by
  refine ⟨hforever.trans h.forever, fun {i f} hf => ?_, fun {i f cache l v answer} hf hv htells => ?_⟩
  · obtain ⟨g, hg, hcontents⟩ := hsame.symm.frame? hf
    exact (Frame.marks_of_contents hcontents).symm.trans (h.marks hg)
  · obtain ⟨g, hg, hcontents⟩ := hsame.symm.frame? hf
    rw [← Frame.kept?_of_contents hcontents] at hv
    exact h.kept hg hv htells

theorem congr_sites (h : Sound scene levels sites st)
    (hsites : ∀ i < st.stack.height, sites' i = sites i) : Sound scene levels sites' st := by
  refine ⟨h.forever, h.marks, fun {i f cache l v answer} hf hv htells => ?_⟩
  rw [hsites i (FrameStack.lt_height_of_frame? hf)] at htells
  exact h.kept hf hv htells

/-- Values that are found along a lineage are sound for the site of its frames. -/
theorem kept? (h : Sound scene levels sites st)
    (hlineage : ∀ j ∈ st.stack.lineage i, sites j = sites i) (hv : st.stack.kept? i cache l = some v)
    {answer : Option Value} (htells : scene.Tells levels (sites i) cache l answer) :
    answer = some v := by
  obtain ⟨j, hj, f, hf, hfv⟩ := FrameStack.kept?_eq_some hv
  rw [← hlineage j hj] at htells
  exact h.kept hf hfv htells

/-- A value may be kept that nothing tells against. -/
theorem keep (h : Sound scene levels sites st)
    (hlineage : ∀ j ∈ st.stack.lineage i, sites j = sites i)
    (hv : ∀ answer, scene.Tells levels (sites i) cache l answer → answer = some v) :
    Sound scene levels sites { st with stack := st.stack.keep i cache l v } := by
  refine ⟨h.forever, fun {j g} hg => ?_, fun {j g cache' l' v' answer} hg hv' htells => ?_⟩
  · obtain ⟨f, hf, rfl⟩ := FrameStack.frame?_keep hg
    split_ifs
    · rw [Frame.marks_keep, h.marks hf]
    · exact h.marks hf
  · obtain ⟨f, hf, rfl⟩ := FrameStack.frame?_keep hg
    split_ifs at hv' with hj
    · rw [Frame.kept?_keep] at hv'
      split_ifs at hv' with hsame
      · obtain ⟨rfl, rfl⟩ := hsame
        obtain rfl := Option.some.inj hv'
        exact hv answer (hlineage j hj ▸ htells)
      · exact h.kept hf hv' htells
    · exact h.kept hf hv' htells

theorem push (h : Sound scene levels sites st) (permeable : Bool) (provider : Option FrameProvider) :
    Sound scene levels sites { st with stack := st.stack.push (.fresh permeable provider) } := by
  refine ⟨h.forever, fun {i f} hf => ?_, fun {i f cache l v answer} hf hv htells => ?_⟩
  · rw [FrameStack.frame?_push] at hf
    split_ifs at hf
    · obtain rfl := Option.some.inj hf
      rfl
    · exact h.marks hf
  · rw [FrameStack.frame?_push] at hf
    split_ifs at hf
    · obtain rfl := Option.some.inj hf
      rw [Frame.kept?_fresh] at hv
      exact nomatch hv
    · exact h.kept hf hv htells

theorem pop (h : Sound scene levels sites st) :
    Sound scene levels sites { st with stack := st.stack.pop } := by
  refine ⟨h.forever, fun {i f} hf => ?_, fun {i f cache l v answer} hf => ?_⟩
  · rw [FrameStack.frame?_pop] at hf
    split_ifs at hf
    exact h.marks hf
  · rw [FrameStack.frame?_pop] at hf
    split_ifs at hf
    exact h.kept hf

/-- Fewer levels tell less. -/
theorem weaken (hsteady : scene.registry.Steady) {levels' : Nat} (h : Sound scene levels sites st)
    (hle : levels' ≤ levels) : Sound scene levels' sites st :=
  ⟨h.forever, h.marks, fun hf hv htells => h.kept hf hv (htells.mono hsteady hle)⟩

end Sound

namespace Accounted

variable {scene : Scene} {levels : Nat} {sites sites' : Nat → Site}
  {own own' : Nat → Cache → Link → Prop} {s t u : FrameStack}

theorem refl (s : FrameStack) : Accounted scene levels sites own s s := by
  intro i f g hf hg cache l
  obtain rfl := Option.some.inj (hf.symm.trans hg)
  exact .inl rfl

theorem trans (hst : Accounted scene levels sites own s t) (htu : Accounted scene levels sites own t u)
    (hheight : s.height = t.height) : Accounted scene levels sites own s u := by
  intro i f h hf hh cache l
  obtain ⟨g, hg⟩ := FrameStack.exists_frame? (hheight ▸ FrameStack.lt_height_of_frame? hf)
  rcases htu hg hh cache l with hgh | htells
  · rw [hgh]
    exact hst hf hg cache l
  · exact .inr htells

theorem mono (h : Accounted scene levels sites own s t)
    (hown : ∀ {i cache l}, own i cache l → own' i cache l) :
    Accounted scene levels sites own' s t :=
  fun _ _ _ hf hg cache l => (h hf hg cache l).imp id (.imp id hown)

/-- Changes of the active nodes are no changes. -/
theorem congr {s' t' : FrameStack} (hs : s.SameContents s') (ht : t.SameContents t')
    (h : Accounted scene levels sites own s t) : Accounted scene levels sites own s' t' := by
  intro i f' g' hf' hg' cache l
  obtain ⟨f, hf, hfc⟩ := hs.symm.frame? hf'
  obtain ⟨g, hg, hgc⟩ := ht.symm.frame? hg'
  rw [← Frame.kept?_of_contents hfc, ← Frame.kept?_of_contents hgc]
  exact h hf hg cache l

theorem keep (s : FrameStack) {i : Nat} {cache : Cache} {l : Link} (v : Value)
    (h : ∀ j ∈ s.lineage i, (∃ answer, scene.Tells levels (sites j) cache l answer) ∨
      own j cache l) : Accounted scene levels sites own s (s.keep i cache l v) := by
  intro j f g hf hg cache' l'
  obtain ⟨f', hf', rfl⟩ := FrameStack.frame?_keep hg
  obtain rfl := Option.some.inj (hf.symm.trans hf')
  split_ifs with hj
  · rw [Frame.kept?_keep]
    split_ifs with hsame
    · obtain ⟨rfl, rfl⟩ := hsame
      exact .inr (h j hj)
    · exact .inl rfl
  · exact .inl rfl

end Accounted

/-- Caches that were sound for many levels are so again after a run that was watched for fewer levels,
if what was the own business of someone has come out right. -/
theorem Sound.restore {scene : Scene} {levels levels' : Nat} {sites : Nat → Site}
    {own : Nat → Cache → Link → Prop} {st st' : EngineState} (hsteady : scene.registry.Steady)
    (hbefore : Sound scene levels sites st) (hafter : Sound scene levels' sites st')
    (hwritten : Accounted scene levels' sites own st.stack st'.stack)
    (hheight : st.stack.height = st'.stack.height)
    (hown : ∀ {i f cache l v answer}, st'.stack.frame? i = some f → own i cache l →
      f.kept? cache l = some v → scene.Tells levels (sites i) cache l answer → answer = some v) :
    Sound scene levels sites st' := by
  refine ⟨hafter.forever, hafter.marks, fun {i g cache l v answer} hg hv htells => ?_⟩
  obtain ⟨f, hf⟩ := FrameStack.exists_frame? (hheight ▸ FrameStack.lt_height_of_frame? hg)
  rcases hwritten hf hg cache l with hsame | ⟨answer', htells'⟩ | hmine
  · exact hbefore.kept hf (hsame ▸ hv) htells
  · rw [htells.unique hsteady htells']
    exact hafter.kept hg hv htells'
  · exact hown hg hmine hv htells

end SocketGraph
