import SocketGraph.Proofs.Underway

/-! Gateways at work. The linked scene is evaluated on frames of its own, and what its target exposes is
pushed to the gateway's outputs on the frame of the gateway. -/
namespace SocketGraph

variable {ω α β : Type} {scene : Scene} {watch : Watcher ω} {below : Calls ω} {v : Vantage} {i : Nat}
  {a : Activation}

/-- Nothing tells against what a node of a linked scene exposes. -/
def Scene.Confirms (scene : Scene) (levels : Nat) (site : Site) (node : NodeId)
    (exposed : Table Value) : Prop :=
  ∀ ⦃socket w⦄, exposed.get? socket = some w → ∀ ⦃answer⦄,
    scene.Tells levels site .exposed ⟨node, socket⟩ answer → answer = some w

section
variable (hsited : v.stack.Sited scene v.sites i) (hbelow : Faithful scene below v.nesting)
  {c : Component} (hmade : scene.Instance c a) (hactive : v.stack.active? i = some a)
include hsited hbelow hmade hactive

/-- The linked scene gives what its target exposes without caches, if that is known; and anyway
nothing tells against what it gives. -/
theorem meets_linked (watch : Watcher ω) (p : Pairings) (target : Link) {r : Run ω}
    (h : v.Holds scene r) :
    Meets scene v nobody r (Action.sceneScope watch i p fun inner =>
        below.evaluate inner target.node (some target.socket))
      (fun m y => scene.recompute m (.scene a.plain p (v.sites i)) target.node
        (some target.socket) = .ok y)
      (fun y exposed _ => y.exposed = exposed) ∧
    ∀ {exposed}, (Action.sceneScope watch i p (fun inner =>
        below.evaluate inner target.node (some target.socket)) r).1 = .ok exposed →
      scene.Confirms v.levels (.scene a.plain p (v.sites i)) target.node exposed := by
  obtain ⟨sites, hsites, hsite, hsited'⟩ : ∃ sites : Nat → Site,
      (∀ j < v.stack.height, sites j = v.sites j) ∧
        sites (v.stack.height + 1) = .scene a.plain p (v.sites i) ∧
        (v.stack.opened (.fresh false (some (.gateway ⟨i, p⟩))) (.fresh true none)).Sited scene
          sites (v.stack.height + 1) :=
    ⟨_, fun j hj => Site.above_of_lt hj, Site.above_of_le (Nat.le_succ _),
      hsited.linked p hmade hactive⟩
  have hinside {r' : Run ω} (h' : (v.opened _ _ sites).Holds scene r') :=
    hbelow.evaluate (v := v.opened _ _ sites) target.node (some target.socket) rfl hsited' h'
  rw [← hsite]
  refine ⟨Meets.between h hsites rfl rfl fun h' => ?_, fun {exposed} hexposed => ?_⟩
  · exact (hinside h').weaken (fun _ hy => hy) fun _ _ hright => hright.1
  · obtain ⟨r', hr', hresult, -⟩ := Action.run_between watch (.fresh false (some (.gateway ⟨i, p⟩)))
      (.fresh true none) (fun inner => below.evaluate inner target.node (some target.socket)) r
    rw [h.height] at hresult
    have hran := hresult.symm.trans hexposed
    have hafter := (hinside (h.opened hsites rfl rfl hr')).holds hran
    intro socket w hw answer htells
    rw [hbelow.exposed hran, FrameStack.get?_exposedBy_eq_kept?] at hw
    exact hafter.sound.kept? (hafter.lineage hsited') hw htells

end

/-- Values are pushed one after another that nothing tells against; they are found afterwards, as what
was found before. -/
theorem meets_pushes (hsited : v.stack.Sited scene v.sites i) {Expected : Nat → β → Prop}
    {values : List (String × Value)}
    (hsound : ∀ {socket w}, (socket, w) ∈ values → ∀ {answer},
      scene.Tells v.levels (v.sites i) .output ⟨a.node, socket⟩ answer → answer = some w)
    (hknown : ∀ {m b}, m ≤ v.levels → Expected m b → ∀ {socket w}, (socket, w) ∈ values →
      ∃ answer, scene.Tells v.levels (v.sites i) .output ⟨a.node, socket⟩ answer)
    {r : Run ω} (h : v.Holds scene r) :
    Meets scene v nobody r
      (perform scene watch below i a (values.foldr (fun e next => .push e.1 e.2 next) .succeed))
      Expected
      fun _ _ t => ∀ socket, (∃ w, (socket, w) ∈ values) ∨
        (r.state.stack.kept? i .output ⟨a.node, socket⟩).isSome →
          (t.kept? i .output ⟨a.node, socket⟩).isSome := by
  induction values generalizing r with
  | nil =>
    refine Meets.succeed h fun _ _ socket hsocket => hsocket.resolve_left ?_
    rintro ⟨w, hw⟩
    exact nomatch hw
  | cons e rest ih =>
    obtain ⟨socket, w⟩ := e
    refine Meets.skip rfl (Meets.keep .output hsited (h.congr rfl)
      (hsound List.mem_cons_self) (fun hm hb => .inl (hknown hm hb List.mem_cons_self)) ?_)
    intro r' h' hstack
    have hrest := ih (fun hmem => hsound (List.mem_cons_of_mem _ hmem))
      (fun hm hb _ _ hmem => hknown hm hb (List.mem_cons_of_mem _ hmem)) h'
    refine hrest.weaken (fun _ hb => hb) ?_
    intro _ _ _ _ _ _ hright socket' hsocket'
    refine hright socket' ?_
    rw [hstack]
    rcases hsocket' with ⟨w', hmem⟩ | hkept
    · rcases List.mem_cons.1 hmem with hhead | hmem
      · obtain ⟨rfl, rfl⟩ := Prod.mk.inj hhead
        have hi : i < r.state.stack.height := h.height ▸ hsited.present
        exact .inr (Option.isSome_iff_exists.2 ⟨w', FrameStack.kept?_keep_self hi _ _ _⟩)
      · exact .inl ⟨w', hmem⟩
    · exact .inr (FrameStack.kept?_keep_isSome .output ⟨a.node, socket⟩ w hkept)

theorem Yield.foundOn_empty (i : Nat) (node : NodeId) (s : FrameStack) :
    Yield.empty.FoundOn i node s := by
  intro cache socket hsome
  cases cache <;> exact nomatch hsome

section
variable (hsteady : scene.registry.Steady) {requested : Option String} {levels : Nat} {site : Site}
  {p : Pairings} (ha : scene.activation a.node requested = .ok (Gateway.component, a))
  (hp : Gateway.pairings a.attributes = .ok p)
include hsteady ha hp

/-- Nothing tells against the values that a gateway pushes for confirmed ones. -/
theorem Scene.Confirms.paired {node : NodeId} {exposed : Table Value}
    (h : scene.Confirms levels (.scene a.plain p site) node exposed) {socket : String} {w : Value}
    (hmem : (socket, w) ∈ Gateway.pairedValues p (Gateway.exposedBy node exposed))
    {answer : Option Value} (htells : scene.Tells levels site .output ⟨a.node, socket⟩ answer) :
    answer = some w := by
  obtain ⟨inner, hinner, hw⟩ := Gateway.mem_pairedValues.1 hmem
  obtain ⟨z, hz, rfl⟩ := htells
  obtain ⟨m, _, _, rfl, -, -⟩ := recompute_eq_ok.1 hz
  rw [recompute_gateway ha hp hinner] at hz
  obtain ⟨y, hy, rfl⟩ := Outcome.map_eq_ok.1 hz
  have hsame : y.exposed.get? inner = some w :=
    h hw ⟨_, y, recompute_le hsteady (Nat.le_succ m) hy, rfl⟩
  exact (Yield.get?_pushAll_empty Gateway.pairedValues_unique).2
    (Gateway.mem_pairedValues.2 ⟨inner, hinner, hsame⟩)

/-- Something is known about each output for which a value of the linked scene is known. -/
theorem Scene.tells_paired {target : Link} {m : Nat} (hm : m < levels) {y : Yield}
    (hy : scene.recompute m (.scene a.plain p site) target.node (some target.socket) = .ok y)
    {socket : String} {w : Value}
    (hmem : (socket, w) ∈ Gateway.pairedValues p (Gateway.exposedBy target.node y.exposed)) :
    ∃ answer, scene.Tells levels site .output ⟨a.node, socket⟩ answer := by
  obtain ⟨inner, hinner, hw⟩ := Gateway.mem_pairedValues.1 hmem
  have hexposes : y.exposed ≠ .empty := fun hempty => by
    rw [hempty] at hw
    exact nomatch hw
  have hagain := recompute_again hsteady hy hexposes (some inner)
  have hpushed : scene.recompute (m + 1) site a.node (some socket) = .ok (Yield.empty.pushAll
      (Gateway.pairedValues p (Gateway.exposedBy target.node y.exposed))) := by
    rw [recompute_gateway ha hp hinner, hagain]
    rfl
  have htells : scene.Tells (m + 1) site .output ⟨a.node, socket⟩ _ := ⟨_, hpushed, rfl⟩
  exact ⟨_, htells.mono hsteady hm⟩

end

section
variable (hsteady : scene.registry.Steady) (hsited : v.stack.Sited scene v.sites i)
  {requested : Option String} (ha : scene.activation a.node requested = .ok (Gateway.component, a))
include hsteady hsited ha

/-- The values that a gateway pushes for what its target exposes are found afterwards. -/
theorem meets_paired {p : Pairings} (hp : Gateway.pairings a.attributes = .ok p) {target : Link}
    {exposed : Table Value}
    (hconfirms : scene.Confirms v.levels (.scene a.plain p (v.sites i)) target.node exposed)
    {r : Run ω} (h : v.Holds scene r) :
    Meets scene v nobody r (perform scene watch below i a
        (Gateway.pushPaired p .succeed (Gateway.exposedBy target.node exposed)))
      (fun m y => m < v.levels ∧ scene.recompute m (.scene a.plain p (v.sites i)) target.node
        (some target.socket) = .ok y ∧ y.exposed = exposed)
      fun y _ t => (Yield.empty.pushAll (Gateway.pairedValues p
        (Gateway.exposedBy target.node y.exposed))).FoundOn i a.node t := by
  rw [Gateway.pushPaired_eq]
  refine (meets_pushes hsited ?_ ?_ h).weaken (fun _ hb => hb) ?_
  · exact fun hmem _ => hconfirms.paired hsteady ha hp hmem
  · rintro m y - ⟨hlt, hy, rfl⟩ socket w hmem
    exact Scene.tells_paired hsteady ha hp hlt hy hmem
  · rintro m y _ t - ⟨-, -, rfl⟩ hright cache socket hsome
    cases cache with
    | output =>
      obtain ⟨w, hw⟩ := Option.isSome_iff_exists.1 hsome
      have hmem := (Yield.get?_pushAll_empty Gateway.pairedValues_unique).1 hw
      exact hright socket (.inl ⟨w, hmem⟩)
    | input => exact nomatch hsome
    | exposed =>
      rw [Yield.for?, Yield.exposed_pushAll] at hsome
      cases hsome

/-- A gateway pushes what it pushes without caches. -/
theorem meets_gateway (hbelow : Faithful scene below v.nesting)
    (hactive : v.stack.active? i = some a) {r : Run ω} (h : v.Holds scene r) :
    Meets scene v nobody r (perform scene watch below i a (Gateway.update a))
      (fun m z => m < v.levels ∧ Recompute.perform scene (scene.recompute m) (v.sites i) a
        (Gateway.update a) .empty = .ok z)
      fun z _ t => z.FoundOn i a.node t := by
  have hmade : scene.Instance Gateway.component a := by
    obtain ⟨info, hinfo, hc, ha'⟩ := Scene.activation_eq_ok.1 ha
    exact ⟨info, .pull requested, hinfo, hc, ha'⟩
  simp only [Recompute.perform_gateway]
  unfold Gateway.update Gateway.enter
  cases hpairings : Gateway.pairings a.attributes with
  | error problem => exact Meets.fail fun _ hb => nomatch hb.2
  | ok p =>
    cases hrequested : a.requested? with
    | none =>
      refine Meets.succeed h ?_
      rintro m z - ⟨-, hz⟩
      obtain rfl := Except.ok.inj hz
      exact Yield.foundOn_empty _ _ _
    | some socket =>
      simp only [Option.bind_some]
      cases htarget : p.get? socket with
      | none =>
        refine Meets.succeed h ?_
        rintro m z - ⟨-, hz⟩
        obtain rfl := Except.ok.inj hz
        exact Yield.foundOn_empty _ _ _
      | some target =>
        refine Meets.skip rfl (Meets.skip rfl (Meets.skip rfl ?_))
        have hlinked {r' : Run ω} (h' : v.Holds scene r') :=
          meets_linked hsited hbelow hmade hactive watch p target h'
        refine Meets.bind (hlinked (h.congr (by rfl))).1 ?_ (fun e r' => ⟨e, rfl⟩) ?_ (h.congr rfl)
        · rintro m z hm ⟨-, hz⟩
          obtain ⟨y, hy, -⟩ := Outcome.map_eq_ok.1 hz
          exact ⟨y, hy⟩
        · intro exposed r' hexposed h'
          have hconfirms := (hlinked (h.congr (by rfl))).2 hexposed
          refine (meets_paired hsteady hsited ha hpairings hconfirms h').translate ?_
          rintro m z - ⟨⟨hlt, hz⟩, y, hy, hsame, -⟩
          obtain ⟨y', hy', rfl⟩ := Outcome.map_eq_ok.1 hz
          obtain rfl := Except.ok.inj (hy.symm.trans hy')
          exact ⟨y, ⟨hlt, hy, hsame⟩, fun hfound => hfound⟩

end
end SocketGraph
