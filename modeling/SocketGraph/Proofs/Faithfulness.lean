import SocketGraph.Proofs.Linked

/-! The calls that handlers make are faithful: on every frame they measure up to what evaluations
without caches give at the site of the frame. -/
namespace SocketGraph

section
variable {ω : Type} {scene : Scene} {watch : Watcher ω} {below : Calls ω} {i : Nat} {node : NodeId}
  {requested : Option String} {c : Component} {a : Activation} {r : Run ω}

/-- A node that cannot be activated is not evaluated. -/
theorem evaluateAt_eq_error (watch : Watcher ω) (below : Calls ω) {e : Failure}
    (h : scene.activation node requested = .error e)
    (hneeds : ∀ component, r.state.needsUpdate i node component = true) :
    (evaluateAt scene watch below i node requested r).1 = .error e := by
  unfold Scene.activation at h
  unfold evaluateAt
  cases hinfo : scene.tables.executable.node? node with
  | none =>
    rw [hinfo] at h
    exact congrArg Except.error (Except.error.inj h)
  | some info =>
    simp only [hinfo] at h
    cases hget : scene.registry.get? info.component with
    | none =>
      rw [hget] at h
      simp only [Bind.bind, StateT.bind, Action.state, if_pos (hneeds _), hget]
      exact congrArg Except.error (Except.error.inj h)
    | some c =>
      rw [hget] at h
      exact nomatch h

/-- The evaluation of a node that needs its update enters the node, runs the update one nesting deeper and leaves
the node again. -/
theorem evaluateAt_apply (watch : Watcher ω) (below : Calls ω)
    (ha : scene.activation node requested = .ok (c, a))
    (hneeds : ∀ component, r.state.needsUpdate i node component = true) :
    evaluateAt scene watch below i node requested r =
      let entered := (Action.changeState watch .deeper (Action.changeStack watch (·.enter i a) r).2).2
      let updated := runUpdate scene watch below i c a entered
      let left := (Action.changeStack watch (·.leave i) (Action.changeState watch .shallower updated.2).2).2
      ((fun _ => left.state.stack.exposedBy i node) <$> updated.1, left) := by
  obtain ⟨info, hnode, hget, rfl⟩ := Scene.activation_eq_ok.1 ha
  exact evaluateAt_eq_updated watch below hnode hget (hneeds _)

theorem run_evaluateAt (watch : Watcher ω) (below : Calls ω)
    (ha : scene.activation node requested = .ok (c, a))
    (hneeds : ∀ component, r.state.needsUpdate i node component = true) :
    ∃ r' : Run ω, r'.state = { r.state with
        stack := r.state.stack.enter i a
        nesting := r.state.nesting + 1 } ∧
      (evaluateAt scene watch below i node requested r).1 =
        (fun _ => ((runUpdate scene watch below i c a r').2.state.stack.leave i).exposedBy i node) <$>
          (runUpdate scene watch below i c a r').1 ∧
      (evaluateAt scene watch below i node requested r).2.state =
        { (runUpdate scene watch below i c a r').2.state with
          stack := (runUpdate scene watch below i c a r').2.state.stack.leave i
          nesting := (runUpdate scene watch below i c a r').2.state.nesting - 1 } := by
  rw [evaluateAt_apply watch below ha hneeds]
  exact ⟨_, rfl, rfl, rfl⟩

/-- An evaluation gives what its node exposes on the frame in the end. -/
theorem exposedBy_evaluateAt {exposed : Table Value}
    (h : (evaluateAt scene watch below i node requested r).1 = .ok exposed) : exposed =
      (evaluateAt scene watch below i node requested r).2.state.stack.exposedBy i node := by
  rcases evaluateAt_cases watch below i node requested r with
    ⟨failure, heq⟩ | ⟨info, -, -, heq⟩ | ⟨info, c, -, -, -, heq⟩
  · rw [heq] at h
    exact nomatch h
  · rw [heq] at h ⊢
    exact (Except.ok.inj h).symm
  · rw [heq] at h ⊢
    dsimp only at h ⊢
    generalize activeUpdate scene watch below i c _ r = updated at h ⊢
    obtain ⟨outcome, r'⟩ := updated
    cases outcome with
    | error failure => exact nomatch h
    | ok _ => exact (Except.ok.inj h).symm

variable {v : Vantage}

/-- An update does what the script of its node does, unless it is nested too deep. -/
theorem Meets.updated {Expected : Nat → Yield → Prop}
    {Right : Yield → Unit → FrameStack → Prop} (h : v.Holds scene r)
    (hscript : ∀ {r}, v.Holds scene r → Meets scene v nobody r
      (perform scene watch below i a (c.script a)) Expected Right) :
    Meets scene v nobody r (runUpdate scene watch below i c a) Expected Right := by
  refine Meets.state ?_
  split
  · rename_i hdeep
    rw [h.nesting] at hdeep
    exact Meets.skip rfl (Meets.fail fun _ _ => Nat.le_trans hdeep (Nat.le_add_right _ _))
  · unfold Component.script at hscript
    cases hupdate : c.update with
    | none =>
      rw [hupdate] at hscript
      exact hscript h
    | some handler =>
      rw [hupdate] at hscript
      refine Meets.skip rfl (Meets.skip rfl (Meets.finish (fun _ _ => rfl) (hscript ?_)))
      exact h.congr rfl

/-- An evaluation meets what the update of its node meets one nesting deeper. -/
theorem Meets.evaluated {Expected : Nat → Yield → Prop} {Right : Yield → FrameStack → Prop}
    (ha : scene.activation node requested = .ok (c, a)) (h : v.Holds scene r)
    (hupdate : ∀ {r'}, (v.within i a).Holds scene r' →
      Meets scene (v.within i a) nobody r' (runUpdate scene watch below i c a) Expected
        fun y _ s => Right y s)
    (hright : ∀ {y s t}, s.SameContents t → Right y t → Right y s) :
    Meets scene v nobody r (evaluateAt scene watch below i node requested)
      (fun m y => ∃ k, m = k + 1 ∧ Expected k y) fun y _ s => Right y s := by
  obtain ⟨r', hr', hresult, hstate⟩ :=
    run_evaluateAt watch below ha (h.sound.needsUpdate i node)
  have hrun := hupdate (h.within hr')
  cases hran : (runUpdate scene watch below i c a r').1 with
  | error e =>
    rw [hran] at hresult
    refine ⟨fun _ m y hm hy => ?_, fun ha => (nomatch hresult.symm.trans ha),
      fun ha => (nomatch hresult.symm.trans ha)⟩
    obtain ⟨k, rfl, hy⟩ := hy
    have hdeep : scene.limits.recursionDepth ≤ v.nesting + 1 + k :=
      hrun.fails hran (Nat.le_of_lt hm) hy
    omega
  | ok _ =>
    rw [hran] at hresult
    refine ⟨fun he => (nomatch hresult.symm.trans he), fun _ => (hrun.holds hran).left hstate,
      fun _ m y hm hy => ?_⟩
    obtain ⟨k, rfl, hy⟩ := hy
    obtain ⟨hdone, hwritten⟩ := hrun.right hran (Nat.le_of_lt hm) hy
    rw [hstate]
    rw [hr'] at hwritten
    exact ⟨hright (.leave _ i) hdone,
      hwritten.congr (.enter _ i a) (FrameStack.SameContents.leave _ i).symm⟩

end

section
variable {ω : Type} {scene : Scene} {watch : Watcher ω} {below : Calls ω} {v : Vantage} {i : Nat}
  (hsited : v.stack.Sited scene v.sites i)
include hsited

/-- What a run has given, and nothing else, is found on a frame where its node has been evaluated. -/
theorem kept?_eq_of_foundOn {node : NodeId} {y : Yield} {r : Run ω} (h : v.Holds scene r)
    (hfound : y.FoundOn i node r.state.stack) {cache : Cache} {socket : String}
    (htells : scene.Tells v.levels (v.sites i) cache ⟨node, socket⟩ (y.for? cache socket)) :
    r.state.stack.kept? i cache ⟨node, socket⟩ = y.for? cache socket := by
  cases hkept : r.state.stack.kept? i cache ⟨node, socket⟩ with
  | some w => exact (h.sound.kept? (h.lineage hsited) hkept htells).symm
  | none =>
    cases hgiven : y.for? cache socket with
    | none => rfl
    | some w =>
      have hsome := hfound cache socket (by rw [hgiven]; rfl)
      rw [hkept] at hsome
      exact nomatch hsome

/-- What is read on such a frame is what the run has given. -/
theorem exposedBy_eq_of_foundOn (hsteady : scene.registry.Steady) {node : NodeId}
    {requested : Option String} {y : Yield} {m : Nat} (hm : m ≤ v.levels)
    (hy : scene.recompute m (v.sites i) node requested = .ok y) {r : Run ω} (h : v.Holds scene r)
    (hfound : y.FoundOn i node r.state.stack) :
    y.exposed = r.state.stack.exposedBy i node ∧ ∀ socket, requested = some socket →
      r.state.stack.kept? i .output ⟨node, socket⟩ = y.pushed.get? socket := by
  constructor
  · refine Table.ext_get? fun socket => ?_
    have htells : scene.Tells m (v.sites i) .exposed ⟨node, socket⟩ (y.for? .exposed socket) :=
      ⟨requested, y, hy, rfl⟩
    rw [FrameStack.get?_exposedBy_eq_kept?]
    exact (kept?_eq_of_foundOn hsited h hfound (htells.mono hsteady hm)).symm
  · rintro socket rfl
    have htells : scene.Tells m (v.sites i) .output ⟨node, socket⟩ (y.for? .output socket) :=
      ⟨y, hy, rfl⟩
    exact kept?_eq_of_foundOn hsited h hfound (htells.mono hsteady hm)

/-- Evaluating a node on a frame gives what evaluating it at the site of the frame gives. -/
theorem meets_evaluateAt (hsteady : scene.registry.Steady)
    (hbelow : Faithful scene below (v.nesting + 1)) (node : NodeId) (requested : Option String)
    {r : Run ω} (h : v.Holds scene r) :
    Meets scene v nobody r (evaluateAt scene watch below i node requested)
      (fun m y => scene.recompute m (v.sites i) node requested = .ok y)
      fun y exposed s => y.exposed = exposed ∧ ∀ socket, requested = some socket →
        s.kept? i .output ⟨node, socket⟩ = y.pushed.get? socket := by
  cases ha : scene.activation node requested with
  | error e =>
    have he := evaluateAt_eq_error watch below ha (h.sound.needsUpdate i node)
    refine ⟨fun _ m y _ hy => ?_, fun hok => (nomatch he.symm.trans hok),
      fun hok => (nomatch he.symm.trans hok)⟩
    obtain ⟨_, c, a, -, ha', -⟩ := Scene.recompute_eq_ok.1 hy
    exact nomatch ha.symm.trans ha'
  | ok activated =>
    obtain ⟨c, a⟩ := activated
    obtain ⟨info, -, hget, hmake⟩ := Scene.activation_eq_ok.1 ha
    obtain rfl : a.node = node := by
      rw [hmake]
      rfl
    have hsited' := hsited.enter a (Nat.le_refl i)
    have hactive := v.stack.active?_enter_self hsited.present a
    have hevaluate : Meets scene v nobody r (evaluateAt scene watch below i a.node requested)
        (fun m y => ∃ k, m = k + 1 ∧ k < v.levels ∧ Recompute.perform scene (scene.recompute k)
          (v.sites i) a (c.script a) .empty = .ok y) fun y _ s => y.FoundOn i a.node s := by
      refine Meets.evaluated ha h (fun h' => Meets.updated h' fun h' => ?_) Yield.FoundOn.congr
      rcases hsteady hget with rfl | hc
      · exact meets_gateway hsteady hsited' ha hbelow hactive h'
      · exact meets_steady hsteady hsited' hbelow hc ha hactive h'
    have hexpected {m : Nat} {y : Yield} (hm : m ≤ v.levels)
        (hy : scene.recompute m (v.sites i) a.node requested = .ok y) :
        ∃ k, m = k + 1 ∧ k < v.levels ∧ Recompute.perform scene (scene.recompute k) (v.sites i) a
          (c.script a) .empty = .ok y := by
      obtain ⟨k, c', a', rfl, ha', hy⟩ := Scene.recompute_eq_ok.1 hy
      obtain ⟨rfl, rfl⟩ := Prod.mk.inj (Except.ok.inj (ha.symm.trans ha'))
      exact ⟨k, rfl, hm, hy⟩
    refine ⟨fun he m y hm hy => hevaluate.fails he hm (hexpected hm hy), hevaluate.holds,
      fun hexposed m y hm hy => ?_⟩
    obtain ⟨hfound, hwritten⟩ := hevaluate.right hexposed hm (hexpected hm hy)
    rw [exposedBy_evaluateAt hexposed]
    exact ⟨exposedBy_eq_of_foundOn hsited hsteady hm hy (hevaluate.holds hexposed) hfound, hwritten⟩

end

/-- All calls of a scene are faithful, by induction on the levels of nesting that are left to them. -/
theorem faithful_calls {ω : Type} {scene : Scene} (watch : Watcher ω)
    (hsteady : scene.registry.Steady) (levels n : Nat)
    (hlevels : scene.limits.recursionDepth ≤ n + levels) :
    Faithful scene (scene.calls watch levels) n := by
  induction levels generalizing n with
  | zero =>
    refine ⟨fun node requested hn _ h => Meets.fail fun _ _ => ?_, fun h => (nomatch h)⟩
    omega
  | succ levels ih =>
    refine ⟨fun node requested hn hsited h => ?_, exposedBy_evaluateAt⟩
    exact meets_evaluateAt hsited hsteady (hn ▸ ih (n + 1) (by omega)) node requested h

theorem faithful_hostCalls {ω : Type} {scene : Scene} (watch : Watcher ω)
    (hsteady : scene.registry.Steady) : Faithful scene (scene.hostCalls watch) 0 := by
  refine faithful_calls watch hsteady _ 0 ?_
  unfold Limits.allowance
  omega

end SocketGraph
