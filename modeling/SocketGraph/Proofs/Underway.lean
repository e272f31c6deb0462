import SocketGraph.Proofs.Resolution

/-! Steady handlers under way. While one is at work, its frames keep something of what this run has
given so far and of what it will have given in the end, which earlier runs have left. -/
namespace SocketGraph

/-- What a run has given for a cache. -/
def Yield.for? (y : Yield) (cache : Cache) (socket : String) : Option Value :=
  match cache with
  | .output => y.pushed.get? socket
  | .input => none
  | .exposed => y.exposed.get? socket

theorem Yield.for?_push (y : Yield) (socket : String) (v : Value) (cache : Cache) (socket' : String) :
    (y.push socket v).for? cache socket' =
      if cache = .output ∧ socket' = socket then some v else y.for? cache socket' := by
  cases cache <;> simp [for?, push, Table.get?_insert]

theorem Yield.for?_expose (y : Yield) (socket : String) (v : Value) (cache : Cache)
    (socket' : String) : (y.expose socket v).for? cache socket' =
      if cache = .exposed ∧ socket' = socket then some v else y.for? cache socket' := by
  cases cache <;> simp [for?, expose, Table.get?_insert]

/-- What a node pushes and exposes on a frame is its own business. -/
def FrameStack.ownOf (s : FrameStack) (i : Nat) (node : NodeId) (j : Nat) (cache : Cache)
    (l : Link) : Prop :=
  j ∈ s.lineage i ∧ l.node = node ∧ cache ≠ .input

/-- A node at work on a frame, when its run has given one thing so far and will have given another in
the end. -/
structure Underway (final y : Yield) (i : Nat) (node : NodeId) (s : FrameStack) : Prop where
  stored : ∀ {j f cache socket w}, cache ≠ .input → j ∈ s.lineage i → s.frame? j = some f →
    f.kept? cache ⟨node, socket⟩ = some w →
    y.for? cache socket = some w ∨ final.for? cache socket = some w
  found : ∀ {cache socket}, (y.for? cache socket).isSome → (s.kept? i cache ⟨node, socket⟩).isSome

namespace Underway

variable {final y y' : Yield} {i : Nat} {node : NodeId} {s t : FrameStack}

/-- A further value is given and kept. -/
theorem keep {cache : Cache} {socket : String} {v : Value} (h : Underway final y i node s)
    (hi : i < s.height) (hy : ∀ cache' socket', y'.for? cache' socket' =
      if cache' = cache ∧ socket' = socket then some v else y.for? cache' socket') :
    Underway final y' i node (s.keep i cache ⟨node, socket⟩ v) := by
  have hlineage : (s.keep i cache ⟨node, socket⟩ v).lineage i = s.lineage i :=
    FrameStack.lineage_congr (FrameStack.shape_keep ..) i
  constructor
  · intro j g cache' socket' w hcache hj hg hw
    rw [hlineage] at hj
    obtain ⟨f, hf, rfl⟩ := FrameStack.frame?_keep hg
    rw [if_pos hj, Frame.kept?_keep] at hw
    rw [hy]
    split_ifs at hw with hsame
    · obtain ⟨rfl, hlink⟩ := hsame
      rw [if_pos ⟨rfl, congrArg Link.socket hlink⟩]
      exact .inl hw
    · rw [if_neg fun hsame' => hsame ⟨hsame'.1, by rw [hsame'.2]⟩]
      exact h.stored hcache hj hf hw
  · intro cache' socket' hsome
    rw [hy] at hsome
    split_ifs at hsome with hsame
    · obtain ⟨rfl, rfl⟩ := hsame
      rw [FrameStack.kept?_keep_self hi]
      rfl
    · exact FrameStack.kept?_keep_isSome _ _ _ (h.found hsome)

/-- The node stays under way while its own values are left alone. -/
theorem congr (h : Underway final y i node s) (hshape : t.shape = s.shape)
    (hsame : ∀ {j f g cache socket}, cache ≠ .input → j ∈ s.lineage i → s.frame? j = some f →
      t.frame? j = some g → g.kept? cache ⟨node, socket⟩ = f.kept? cache ⟨node, socket⟩) :
    Underway final y i node t := by
  have hheight := FrameStack.height_congr hshape
  have hlineage := FrameStack.lineage_congr hshape i
  constructor
  · intro j g cache socket w hcache hj hg hw
    rw [hlineage] at hj
    obtain ⟨f, hf⟩ := FrameStack.exists_frame? (hheight ▸ FrameStack.lt_height_of_frame? hg)
    rw [hsame hcache hj hf hg] at hw
    exact h.stored hcache hj hf hw
  · intro cache socket hsome
    have hcache : cache ≠ .input := by
      rintro rfl
      exact nomatch hsome
    obtain ⟨w, hw⟩ := Option.isSome_iff_exists.1 (h.found hsome)
    obtain ⟨j, hj, f, hf, hfw⟩ := FrameStack.kept?_eq_some hw
    obtain ⟨g, hg⟩ := FrameStack.exists_frame? (hheight ▸ FrameStack.lt_height_of_frame? hf)
    refine FrameStack.kept?_isSome (hlineage ▸ hj) hg ?_
    rw [hsame hcache hj hf hg, hfw]
    rfl

/-- A value that earlier runs have left may be passed over, whatever this run would give. -/
theorem pass {socket : String} {v : Value} (h : Underway final y i node s)
    (hnone : y.exposed.get? socket = none)
    (hkept : (s.kept? i .exposed ⟨node, socket⟩).isSome) :
    Underway final (y.expose socket v) i node s := by
  constructor
  · intro j f cache socket' w hcache hj hf hw
    rw [Yield.for?_expose]
    split_ifs with hsame
    · obtain ⟨rfl, rfl⟩ := hsame
      refine .inr ((h.stored hcache hj hf hw).resolve_left fun hgiven => ?_)
      exact nomatch hnone.symm.trans hgiven
    · exact h.stored hcache hj hf hw
  · intro cache socket' hsome
    rw [Yield.for?_expose] at hsome
    split_ifs at hsome with hsame
    · obtain ⟨rfl, rfl⟩ := hsame
      exact hkept
    · exact h.found hsome

end Underway

theorem Scene.Unknown.not_tells {scene : Scene} {levels : Nat} {site : Site} {node : NodeId}
    (h : scene.Unknown levels site node) {cache : Cache} (hcache : cache ≠ .input) {socket : String}
    {answer : Option Value} : ¬ scene.Tells levels site cache ⟨node, socket⟩ answer := by
  intro htells
  cases cache with
  | output =>
    obtain ⟨y, hy, -⟩ := htells
    exact h _ y hy
  | input => exact hcache rfl
  | exposed =>
    obtain ⟨requested, y, hy, -⟩ := htells
    exact h requested y hy

section
variable {ω α β : Type} {scene : Scene} {watch : Watcher ω} {below : Calls ω} {v : Vantage} {i : Nat}
  {a : Activation} (hsited : v.stack.Sited scene v.sites i)
  (hunknown : scene.Unknown v.levels (v.sites i) a.node)
include hsited hunknown

/-- A node about which nothing is known may write whatever it wants. -/
theorem Meets.write (cache : Cache) (hcache : cache ≠ .input) {socket : String} {w : Value}
    {f : Unit → Action ω (Outcome α)} {Expected : Nat → β → Prop}
    {Right : β → α → FrameStack → Prop} {r : Run ω} (h : v.Holds scene r)
    (hf : ∀ {r'}, v.Holds scene r' →
      r'.state.stack = r.state.stack.keep i cache ⟨a.node, socket⟩ w →
      Meets scene v (v.stack.ownOf i a.node) r' (f ()) Expected Right) :
    Meets scene v (v.stack.ownOf i a.node) r
      (Action.changeStack watch (·.keep i cache ⟨a.node, socket⟩ w) >>= f) Expected Right := by
  exact Meets.keep cache hsited h (fun htells => absurd htells (hunknown.not_tells hcache))
    (fun _ _ => .inr fun j hj => ⟨hj, rfl, hcache⟩) hf

/-- Nothing of a node about which nothing is known is written by others. -/
theorem Underway.fetched {final y : Yield} {s t : FrameStack} (h : Underway final y i a.node s)
    (hs : s.shape = v.stack.shape) (ht : t.shape = v.stack.shape)
    (hwritten : Accounted scene v.levels v.sites nobody s t) : Underway final y i a.node t := by
  refine h.congr (ht.trans hs.symm) fun {j f g cache socket} hcache hj hf hg => ?_
  rw [FrameStack.lineage_congr hs] at hj
  rcases hwritten hf hg cache ⟨a.node, socket⟩ with hsame | ⟨answer, htells⟩ | hnobody
  · exact hsame
  · rw [hsited.lineage j hj] at htells
    exact absurd htells (hunknown.not_tells hcache)
  · exact hnobody.elim

end

/-- A script of a node does what it does without caches, from whatever its run has given so far. -/
def Steadily {ω : Type} (scene : Scene) (watch : Watcher ω) (below : Calls ω) (v : Vantage) (i : Nat)
    (a : Activation) (final : Yield) (s : Script) : Prop :=
  ∀ {r : Run ω}, v.Holds scene r →
    Meets scene v (v.stack.ownOf i a.node) r (perform scene watch below i a s)
      (fun m z => ∃ y, Recompute.perform scene (scene.recompute m) (v.sites i) a s y = .ok z ∧
        Underway final y i a.node r.state.stack)
      fun z _ t => Underway final z i a.node t

namespace Steadily

variable {ω : Type} {scene : Scene} {watch : Watcher ω} {below : Calls ω} {v : Vantage} {i : Nat}
  {a : Activation} {final : Yield}

theorem done (outcome : Outcome Unit) : Steadily scene watch below v i a final (.done outcome) := by
  intro r h
  cases outcome with
  | ok _ =>
    refine Meets.succeed h ?_
    rintro m z - ⟨y, hy, hunder⟩
    obtain rfl := Except.ok.inj hy
    exact hunder
  | error failure =>
    refine Meets.fail ?_
    rintro m z - ⟨y, hy, -⟩
    exact nomatch hy

theorem emit {event : Event} {next : Script}
    (hnext : Steadily scene watch below v i a final next) :
    Steadily scene watch below v i a final (.emit event next) :=
  fun h => Meets.skip rfl (Meets.skip rfl (hnext (h.congr rfl)))

variable (hsited : v.stack.Sited scene v.sites i)
  (hunknown : scene.Unknown v.levels (v.sites i) a.node)
include hsited hunknown

theorem push {socket : String} {w : Value} {next : Script}
    (hnext : Steadily scene watch below v i a final next) :
    Steadily scene watch below v i a final (.push socket w next) := by
  intro r h
  refine Meets.skip rfl (Meets.write hsited hunknown .output nofun (h.congr rfl) ?_)
  intro r' h' hstack
  refine (hnext h').weaken ?_ fun _ _ hright => hright
  rintro m z - ⟨y, hy, hunder⟩
  refine ⟨y.push socket w, hy, ?_⟩
  rw [hstack]
  exact hunder.keep (h.height ▸ hsited.present) (y.for?_push socket w)

theorem expose {socket : String} {w : Value} {next : Script}
    (hnext : Steadily scene watch below v i a final next) :
    Steadily scene watch below v i a final (.expose socket w next) := by
  intro r h
  refine Meets.skip rfl (Meets.write hsited hunknown .exposed nofun (h.congr rfl) ?_)
  intro r' h' hstack
  refine (hnext h').weaken ?_ fun _ _ hright => hright
  rintro m z - ⟨y, hy, hunder⟩
  refine ⟨y.expose socket w, hy, ?_⟩
  rw [hstack]
  exact hunder.keep (h.height ▸ hsited.present) (y.for?_expose socket w)

variable {c : Component} (hsteady : scene.registry.Steady)
  (hbelow : Faithful scene below v.nesting) (hmade : scene.Instance c a)
  (hactive : v.stack.active? i = some a)
include hsteady hbelow hmade hactive

theorem fetch {socket : String} {next : Outcome (Option Value) → Script}
    (fails : ∀ e, next (.error e) = .fail e)
    (hnext : ∀ w, Steadily scene watch below v i a final (next (.ok w))) :
    Steadily scene watch below v i a final (.fetch socket next) := by
  intro r h
  have h : v.Holds scene (Action.note watch (.performed i a (.fetch socket next)) r).2 := h.congr rfl
  have hfetch : Finds scene v _ (fetchInput scene watch below i socket) _ :=
    finds_fetchInput hsteady hbelow hsited hmade hactive socket h
  refine Meets.skip rfl (Meets.bind (hfetch.accounted.mono False.elim) ?_
    (fun e r' => ⟨e, by rw [fails]; rfl⟩) ?_ h)
  · rintro m z - ⟨y, hy, -⟩
    cases hw : Recompute.fetch scene (scene.recompute m) (v.sites i) a socket with
    | error failure =>
      rw [Recompute.perform, hw, fails] at hy
      cases hy
    | ok w => exact ⟨w, hw⟩
  · intro w r' _ h'
    refine (hnext w h').weaken ?_ fun _ _ hright => hright
    rintro m z - ⟨⟨y, hy, hunder⟩, w', hw, ⟨rfl, hwritten⟩, -⟩
    dsimp only at hw
    rw [Recompute.perform, hw] at hy
    exact ⟨y, hy, hunder.fetched hsited hunknown h.shape h'.shape hwritten⟩

/-- A socket that an earlier run has exposed is passed over soundly: the run exposes the same there. -/
theorem unlessExposed {socket : String} {next : Bool → Script}
    (exposes : next false = .fetch socket (Script.exposing socket (next true)))
    (hnext : Steadily scene watch below v i a final (next true)) :
    Steadily scene watch below v i a final (.hasExposed socket next) := by
  intro r h
  refine Meets.skip rfl (Meets.readStack ?_)
  have h : v.Holds scene (Action.note watch (.performed i a (.hasExposed socket next)) r).2 :=
    h.congr rfl
  change Meets scene v _ _ (perform scene watch below i a
    (next (r.state.stack.kept? i .exposed ⟨a.node, socket⟩).isSome)) _ _
  cases hexposed : (r.state.stack.kept? i .exposed ⟨a.node, socket⟩).isSome with
  | true =>
    refine (hnext h).weaken ?_ fun _ _ hright => hright
    rintro m z - ⟨y, hy, hunder⟩
    rcases Recompute.perform_unlessExposed exposes hy with hy | ⟨hgiven, w, hy⟩
    · exact ⟨y, hy, hunder⟩
    · exact ⟨y.expose socket w, hy, hunder.pass hgiven hexposed⟩
  | false =>
    have hrest : Steadily scene watch below v i a final (next false) := by
      rw [exposes]
      refine fetch hsited hunknown hsteady hbelow hmade hactive (fun e => rfl) fun w => ?_
      cases w with
      | none => exact hnext
      | some w => exact expose hsited hunknown hnext
    refine (hrest h).weaken ?_ fun _ _ hright => hright
    rintro m z - ⟨y, hy, hunder⟩
    rw [Recompute.perform] at hy
    cases hgiven : (y.exposed.get? socket).isSome with
    | true =>
      have hkept : (r.state.stack.kept? i .exposed ⟨a.node, socket⟩).isSome :=
        hunder.found hgiven
      rw [hexposed] at hkept
      cases hkept
    | false =>
      rw [hgiven] at hy
      exact ⟨y, hy, hunder⟩

/-- Every steady script does what it does without caches. -/
theorem of_steady {s : Script} (hs : s.Steady) : Steadily scene watch below v i a final s := by
  induction hs with
  | done outcome => exact done outcome
  | fetch fails _ ih => exact fetch hsited hunknown hsteady hbelow hmade hactive fails ih
  | push _ ih => exact push hsited hunknown ih
  | expose _ ih => exact expose hsited hunknown ih
  | emit _ ih => exact emit ih
  | unlessExposed exposes _ ih =>
    exact unlessExposed hsited hunknown hsteady hbelow hmade hactive exposes ih

end Steadily

/-- What a run has given is found on a frame. -/
def Yield.FoundOn (y : Yield) (i : Nat) (node : NodeId) (s : FrameStack) : Prop :=
  ∀ cache socket, (y.for? cache socket).isSome → (s.kept? i cache ⟨node, socket⟩).isSome

theorem Yield.FoundOn.congr {y : Yield} {i : Nat} {node : NodeId} {s t : FrameStack}
    (hst : s.SameContents t) (h : y.FoundOn i node t) : y.FoundOn i node s := by
  intro cache socket hsome
  rw [FrameStack.kept?_of_contents hst]
  exact h cache socket hsome

/-- What a steady node gives is told for all its outputs and exposed sockets. -/
theorem Scene.tells_of_steady {scene : Scene} {node : NodeId} {requested : Option String}
    {c : Component} {a : Activation} {m : Nat} {site : Site} {y : Yield} (hc : c.Steady)
    (ha : scene.activation node requested = .ok (c, a))
    (hy : scene.recompute m site node requested = .ok y) {cache : Cache} (hcache : cache ≠ .input)
    (socket : String) : scene.Tells m site cache ⟨node, socket⟩ (y.for? cache socket) := by
  cases cache with
  | output => exact ⟨y, recompute_of_steady hc ha hy (some socket), rfl⟩
  | input => exact absurd rfl hcache
  | exposed => exact ⟨requested, y, hy, rfl⟩

section
variable {scene : Scene} {v : Vantage} {i : Nat} {node : NodeId} {final y : Yield}
  (hsited : v.stack.Sited scene v.sites i)
  (htells : ∀ {cache}, cache ≠ .input → ∀ socket,
    scene.Tells v.levels (v.sites i) cache ⟨node, socket⟩ (final.for? cache socket))
include hsited htells

/-- At first the caches keep nothing but what a node will have given in the end. -/
theorem Underway.start {ω : Type} {r : Run ω} (h : v.Holds scene r) :
    Underway final .empty i node r.state.stack := by
  refine ⟨fun {j f cache socket w} hcache hj hf hw => .inr ?_, fun {cache _} hsome => ?_⟩
  · have htells := htells hcache socket
    rw [← h.lineage hsited j hj] at htells
    exact h.sound.kept hf hw htells
  · cases cache <;> exact nomatch hsome

variable (hsteady : scene.registry.Steady) {least : Nat}
include hsteady

/-- With more levels something is told about what was the own business of a node. -/
theorem Accounted.told {s t : FrameStack} (hle : least ≤ v.levels)
    (h : Accounted scene least v.sites (v.stack.ownOf i node) s t) :
    Accounted scene v.levels v.sites nobody s t := by
  intro j f g hf hg cache l
  rcases h hf hg cache l with hsame | ⟨answer, htold⟩ | ⟨hj, hnode, hcache⟩
  · exact .inl hsame
  · exact .inr (.inl ⟨answer, htold.mono hsteady hle⟩)
  · obtain ⟨l, socket⟩ := l
    obtain rfl : l = node := hnode
    have hsite : v.sites j = v.sites i := hsited.lineage j hj
    exact .inr (.inl ⟨_, hsite ▸ htells hcache socket⟩)

/-- When a node has given everything, what was its own business has come out right. -/
theorem Vantage.Holds.restore {ω : Type} {r r' : Run ω} (h : v.Holds scene r)
    (hafter : ({ v with levels := least } : Vantage).Holds scene r')
    (hdone : Underway final final i node r'.state.stack)
    (hwritten : Accounted scene least v.sites (v.stack.ownOf i node) r.state.stack r'.state.stack) :
    v.Holds scene r' := by
  refine ⟨hafter.shape, hafter.nesting, h.sound.restore hsteady hafter.sound hwritten
    (h.height.trans hafter.height.symm) ?_⟩
  rintro j f cache ⟨_, socket⟩ w answer hf ⟨hj, rfl, hcache⟩ hw htold
  rw [hsited.lineage j hj] at htold
  rw [htold.unique hsteady (htells hcache socket)]
  exact (hdone.stored hcache (FrameStack.lineage_congr hafter.shape i ▸ hj) hf hw).elim id id

end

/-- A steady node gives what it gives without caches. It is watched with just so few levels that nothing
is known about the node itself, which is free then to keep what its run has not yet made right. -/
theorem meets_steady {ω : Type} {scene : Scene} {watch : Watcher ω} {below : Calls ω} {v : Vantage}
    {i : Nat} {a : Activation} (hsteady : scene.registry.Steady)
    (hsited : v.stack.Sited scene v.sites i) (hbelow : Faithful scene below v.nesting)
    {requested : Option String} {c : Component} (hc : c.Steady)
    (ha : scene.activation a.node requested = .ok (c, a)) (hactive : v.stack.active? i = some a)
    {r : Run ω} (h : v.Holds scene r) :
    Meets scene v nobody r (perform scene watch below i a (c.script a))
      (fun m z => m < v.levels ∧ Recompute.perform scene (scene.recompute m) (v.sites i) a
        (c.script a) .empty = .ok z)
      fun z _ t => z.FoundOn i a.node t := by
  obtain ⟨info, hinfo, hget, hmake⟩ := Scene.activation_eq_ok.1 ha
  have hmade : scene.Instance c a := ⟨info, .pull requested, hinfo, hget, hmake⟩
  have hscript : (c.script a).Steady := by
    rw [hmake]
    exact hc.script _ _ _
  have hrecompute {m : Nat} {z : Yield} (hz : Recompute.perform scene (scene.recompute m)
      (v.sites i) a (c.script a) .empty = .ok z) :
      scene.recompute (m + 1) (v.sites i) a.node requested = .ok z :=
    Scene.recompute_eq_ok.2 ⟨m, c, a, rfl, ha, hz⟩
  rcases Scene.unknown_or_known hc ha (v.sites i) v.levels with
    hunknown | ⟨least, hlt, y, hunknown, hy⟩
  · have hsteadily : Steadily scene watch below v i a .empty (c.script a) :=
      Steadily.of_steady hsited hunknown hsteady hbelow hmade hactive hscript
    have hnothing {m z} (hz : m < v.levels ∧ Recompute.perform scene (scene.recompute m)
        (v.sites i) a (c.script a) .empty = .ok z) : False :=
      hunknown _ _ (Scene.recompute_le hsteady hz.1 (hrecompute hz.2))
    exact ⟨fun _ _ _ _ hz => (hnothing hz).elim, (hsteadily h).holds,
      fun _ _ _ _ hz => (hnothing hz).elim⟩
  · have hle := Nat.le_of_lt hlt
    have hsteadily : Steadily scene watch below { v with levels := least } i a y (c.script a) :=
      Steadily.of_steady (v := { v with levels := least }) hsited hunknown hsteady hbelow hmade
        hactive hscript
    have hrun := hsteadily ⟨h.shape, h.nesting, h.sound.weaken hsteady hle⟩
    have htells {cache : Cache} (hcache : cache ≠ .input) (socket : String) :
        scene.Tells v.levels (v.sites i) cache ⟨a.node, socket⟩ (y.for? cache socket) :=
      (Scene.tells_of_steady hc ha hy hcache socket).mono hsteady hlt
    have hexpected : ∃ z, Recompute.perform scene (scene.recompute least) (v.sites i) a
        (c.script a) z = .ok y ∧ Underway y z i a.node r.state.stack := by
      obtain ⟨_, c', a', ⟨⟩, ha', hperform⟩ := Scene.recompute_eq_ok.1 hy
      obtain ⟨rfl, rfl⟩ := Prod.mk.inj (Except.ok.inj (ha.symm.trans ha'))
      exact ⟨.empty, hperform, .start hsited htells h⟩
    refine ⟨fun he m z _ hz => ?_, fun {_} hok => ?_, fun {_} hok m z _ hz => ?_⟩
    · have hleast := hunknown.lt hsteady (hrecompute hz.2)
      have hdeep : scene.limits.recursionDepth ≤ v.nesting + least :=
        hrun.fails he (Nat.le_refl _) hexpected
      omega
    · obtain ⟨hdone, hwritten⟩ := hrun.right hok (Nat.le_refl _) hexpected
      exact h.restore hsited htells hsteady (hrun.holds hok) hdone hwritten
    · obtain ⟨hdone, hwritten⟩ := hrun.right hok (Nat.le_refl _) hexpected
      rw [Scene.recompute_unique hsteady (hrecompute hz.2) hy]
      exact ⟨fun cache socket hsome => hdone.found hsome, hwritten.told hsited htells hsteady hle⟩

end SocketGraph
