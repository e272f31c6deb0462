import SocketGraph.Proofs.Vantage

/-! Resolved inputs. Cached or not, an input that is found is the one that evaluations without caches
find, at every frame that a look-up comes to. -/
namespace SocketGraph

variable {ω α : Type}

/-- Nobody writes on his own account. -/
def nobody (_ : Nat) (_ : Cache) (_ : Link) : Prop := False

/-- An action finds what evaluations without caches find. -/
def Finds (scene : Scene) (v : Vantage) (r : Run ω) (x : Action ω (Outcome α))
    (expected : Nat → Outcome α) : Prop :=
  Meets scene v nobody r x (fun m b => expected m = .ok b) fun b a _ => b = a

/-- Calls that handlers make at some nesting measure up to evaluations without caches. -/
structure Faithful (scene : Scene) (below : Calls ω) (n : Nat) : Prop where
  evaluate : ∀ {v : Vantage} {i : Nat} {r : Run ω} (node : NodeId) (requested : Option String),
    v.nesting = n → v.stack.Sited scene v.sites i → v.Holds scene r →
    Meets scene v nobody r (below.evaluate i node requested)
      (fun m y => scene.recompute m (v.sites i) node requested = .ok y)
      fun y exposed s => y.exposed = exposed ∧ ∀ socket, requested = some socket →
        s.kept? i .output ⟨node, socket⟩ = y.pushed.get? socket
  exposed : ∀ {i : Nat} {node : NodeId} {requested : Option String} {r : Run ω} {exposed},
    (below.evaluate i node requested r).1 = .ok exposed →
    exposed = (below.evaluate i node requested r).2.state.stack.exposedBy i node

section
variable {scene : Scene} {watch : Watcher ω} {below : Calls ω} {v : Vantage} {i : Nat}
  {lookup : Lookup ω} {ask : Nat → Link → Outcome (Option Value)}
  (hsteady : scene.registry.Steady) (hbelow : Faithful scene below v.nesting)
  (hsited : v.stack.Sited scene v.sites i)
  (hlookup : ∀ (l : Link) {r : Run ω}, v.Holds scene r → Finds scene v r (lookup i l) (ask · l))

include hsteady hbelow hsited hlookup

theorem finds_resolveProducer (l : Link) {r : Run ω} (h : v.Holds scene r) :
    Finds scene v r (resolveProducer below lookup i l)
      fun m => Recompute.producer (scene.recompute m) (v.sites i) (ask m) l := by
  refine Meets.readStack ?_
  cases hout : r.state.stack.output? i l with
  | some w =>
    -- what is kept is what the producer pushes
    refine Meets.succeed h fun {m b} hm hb => ?_
    obtain ⟨y, hy, hb⟩ := Recompute.producer_eq_ok.1 hb
    have htells : scene.Tells v.levels (v.sites i) .output l (y.pushed.get? l.socket) :=
      Scene.Tells.mono hsteady ⟨y, hy, rfl⟩ hm
    have hkept : r.state.stack.kept? i .output l = some w := hout
    rw [h.sound.kept? (h.lineage hsited) hkept htells] at hb
    exact (Except.ok.inj hb).symm
  | none =>
    have hevaluate : Meets scene v nobody r (below.evaluate i l.node (some l.socket))
        (fun m y => scene.recompute m (v.sites i) l.node (some l.socket) = .ok y)
        fun y _ s => s.output? i l = y.pushed.get? l.socket :=
      (hbelow.evaluate l.node (some l.socket) rfl hsited h).weaken (fun _ hy => hy)
        fun _ _ hright => hright.2 l.socket rfl
    refine Meets.bind hevaluate ?_ (fun e r' => ⟨e, rfl⟩) ?_ h
    · intro m b hm hb
      obtain ⟨y, hy, -⟩ := Recompute.producer_eq_ok.1 hb
      exact ⟨y, hy⟩
    · intro exposed r' _ h'
      refine Meets.readStack ?_
      cases hout : r'.state.stack.output? i l with
      | some w =>
        refine Meets.succeed h' ?_
        rintro m b - ⟨hb, y, hy, hpushed, -⟩
        have hb := (Recompute.producer_of_ok hy).symm.trans hb
        rw [← hpushed] at hb
        exact (Except.ok.inj hb).symm
      | none =>
        refine (hlookup l h').weaken ?_ fun _ _ hright => hright
        rintro m b - ⟨hb, y, hy, hpushed, -⟩
        have hb := (Recompute.producer_of_ok hy).symm.trans hb
        rw [← hpushed] at hb
        exact hb

theorem finds_resolveProducers (ls : List Link) {r : Run ω} (h : v.Holds scene r) :
    Finds scene v r (resolveProducers below lookup i ls)
      fun m => Recompute.producers (scene.recompute m) (v.sites i) (ask m) ls := by
  induction ls generalizing r with
  | nil => exact Meets.succeed h fun _ hb => (Except.ok.inj hb).symm
  | cons l rest ih =>
    refine Meets.bind (finds_resolveProducer hsteady hbelow hsited hlookup l h) ?_
      (fun e r' => ⟨e, rfl⟩) ?_ h
    · intro m b hm hb
      obtain ⟨w, hw, -⟩ := Outcome.bind_eq_ok.1 hb
      exact ⟨w, hw⟩
    · intro w r' _ h'
      refine Meets.bind (ih h') ?_ (fun e r' => ⟨e, rfl⟩) ?_ h'
      · rintro m b hm ⟨hb, -⟩
        obtain ⟨_, -, hb⟩ := Outcome.bind_eq_ok.1 hb
        obtain ⟨ws, hws, -⟩ := Outcome.bind_eq_ok.1 hb
        exact ⟨ws, hws⟩
      · intro ws r'' _ h''
        refine Meets.succeed h'' ?_
        rintro m b hm ⟨⟨hb, _, hw, rfl, -⟩, _, hws, rfl, -⟩
        obtain ⟨_, hw', hb⟩ := Outcome.bind_eq_ok.1 hb
        obtain ⟨_, hws', hb⟩ := Outcome.bind_eq_ok.1 hb
        obtain rfl := Except.ok.inj (hw.symm.trans hw')
        obtain rfl := Except.ok.inj (hws.symm.trans hws')
        exact (Except.ok.inj hb).symm

theorem finds_resolveInput (a : Activation) (socket : String) {r : Run ω} (h : v.Holds scene r) :
    Finds scene v r (resolveInput scene below lookup i a socket)
      fun m => Recompute.input scene (scene.recompute m) (v.sites i) (ask m) a socket := by
  unfold resolveInput Recompute.input
  cases scene.tables.executable.producers a.node socket with
  | cons first rest =>
    dsimp only
    split
    · refine Meets.bind (finds_resolveProducers hsteady hbelow hsited hlookup _ h) ?_
        (fun e r' => ⟨e, rfl⟩) ?_ h
      · intro m b hm hb
        obtain ⟨ws, hws, -⟩ := Outcome.bind_eq_ok.1 hb
        exact ⟨ws, hws⟩
      · intro ws r' _ h'
        refine Meets.succeed h' ?_
        rintro m b hm ⟨hb, _, hws, rfl, -⟩
        obtain ⟨_, hws', hb⟩ := Outcome.bind_eq_ok.1 hb
        obtain rfl := Except.ok.inj (hws.symm.trans hws')
        exact (Except.ok.inj hb).symm
    · exact finds_resolveProducer hsteady hbelow hsited hlookup first h
  | nil =>
    refine Meets.readStack ?_
    rw [FrameStack.provider?_congr h.shape, hsited.provided]
    split
    · exact hlookup _ h
    · exact Meets.succeed h fun _ hb => (Except.ok.inj hb).symm

/-- An input is kept only when nothing tells against it. -/
theorem finds_inputOf {c : Component} {a : Activation} (hmade : scene.Instance c a)
    (hask : ∀ m, ask m = Recompute.ask scene (scene.recompute m) (v.sites i)) (socket : String)
    {r : Run ω} (h : v.Holds scene r) :
    Finds scene v r (inputOf scene watch below lookup i a socket)
      fun m => Recompute.fetch scene (scene.recompute m) (v.sites i) a socket := by
  have htells {m : Nat} {b : Option Value}
      (hb : Recompute.fetch scene (scene.recompute m) (v.sites i) a socket = .ok b) :
      scene.Tells m (v.sites i) .input ⟨a.node, socket⟩ b := ⟨c, a, hmade, rfl, hb⟩
  refine Meets.readStack ?_
  match hinput : r.state.stack.input? i ⟨a.node, socket⟩ with
  | some w =>
    refine Meets.succeed h fun {m b} hm hb => ?_
    have hkept : r.state.stack.kept? i .input ⟨a.node, socket⟩ = some w := hinput
    exact h.sound.kept? (h.lineage hsited) hkept ((htells hb).mono hsteady hm)
  | none =>
    have hresolve := finds_resolveInput hsteady hbelow hsited hlookup a socket h
    have hfetch (m : Nat) : Recompute.fetch scene (scene.recompute m) (v.sites i) a socket =
        Recompute.input scene (scene.recompute m) (v.sites i) (ask m) a socket := by
      rw [hask]
      rfl
    refine Meets.bind hresolve (fun {m b} _ hb => ⟨b, (hfetch m).symm.trans hb⟩)
      (fun e r' => ⟨e, rfl⟩) ?_ h
    intro answer r' hanswer h'
    match answer with
    | none =>
      refine Meets.succeed h' ?_
      rintro m b hm ⟨hb, _, hb', rfl, -⟩
      exact Except.ok.inj (hb.symm.trans ((hfetch m).trans hb'))
    | some w =>
      have htold {b : Option Value}
          (hb : scene.Tells v.levels (v.sites i) .input ⟨a.node, socket⟩ b) : b = some w := by
        obtain ⟨c', a', hmade', hnode, hb⟩ := hb
        have hplain := hmade.plain_eq hmade' hnode.symm
        have hb' : Recompute.fetch scene (scene.recompute v.levels) (v.sites i) a'.plain socket =
            .ok b := hb
        rw [← hplain] at hb'
        exact (hresolve.right hanswer (Nat.le_refl _) ((hfetch _).symm.trans hb')).1
      refine Meets.keep .input hsited h' htold (fun hm hb => ?_) fun h'' _ => ?_
      · exact .inl ⟨_, (htells hb.1).mono hsteady hm⟩
      · exact Meets.succeed h'' fun hm hb => htold ((htells hb.1).mono hsteady hm)

theorem finds_fetchWith {c : Component} {a : Activation} (hmade : scene.Instance c a)
    (hactive : v.stack.active? i = some a)
    (hask : ∀ m, ask m = Recompute.ask scene (scene.recompute m) (v.sites i)) (socket : String)
    {r : Run ω} (h : v.Holds scene r) :
    Finds scene v r (fetchWith scene watch below lookup i socket)
      fun m => Recompute.fetch scene (scene.recompute m) (v.sites i) a socket := by
  refine Meets.readStack ?_
  rw [FrameStack.active?_congr h.shape, hactive]
  exact finds_inputOf hsteady hbelow hsited hlookup hmade hask socket h

end

section
variable {scene : Scene} {watch : Watcher ω} {below : Calls ω} {v : Vantage} {i : Nat}
  (hsteady : scene.registry.Steady) (hbelow : Faithful scene below v.nesting)
  (hsited : v.stack.Sited scene v.sites i)
include hsteady hbelow hsited

/-- A look-up takes a step for each gateway, and each gateway leads further down. -/
theorem finds_lookupWithin {steps : Nat} (hsteps : i < steps) (l : Link) {r : Run ω}
    (h : v.Holds scene r) :
    Finds scene v r (lookupWithin scene watch below steps i l)
      fun m => Recompute.ask scene (scene.recompute m) (v.sites i) l := by
  induction steps generalizing i l r with
  | zero => omega
  | succ steps ih =>
    refine Meets.readStack ?_
    rw [FrameStack.provider?_congr h.shape]
    match hprovider : v.stack.provider? i with
    | none =>
      rw [hsited.host none hprovider]
      exact Meets.succeed h fun _ hb => (Except.ok.inj hb).symm
    | some (.host provider) =>
      rw [hsited.host (some provider) hprovider]
      have hanswer : (askHost watch provider l r).1 = provider.answer l.socket l.node ∧
          (askHost watch provider l r).2.state = r.state := by
        unfold askHost
        split <;> exact ⟨rfl, rfl⟩
      refine Meets.skip hanswer.2 (Meets.succeed (h.congr hanswer.2) fun _ hb => ?_)
      rw [hanswer.1]
      exact (Except.ok.inj hb).symm
    | some (.gateway b) =>
      obtain ⟨hlt, c, a, hmade, hactive, hsite⟩ := hsited.gateway hprovider
      have hcaller := hsited.caller hprovider
      rw [hsite]
      dsimp only [Recompute.ask]
      match b.pairings.socketFor? l with
      | some own =>
        refine Meets.skip rfl ?_
        exact finds_fetchWith hsteady hbelow hcaller (fun l _ => ih hcaller (by omega) l) hmade hactive
          (fun m => rfl) own (h.congr rfl)
      | none => exact ih hcaller (by omega) l h

theorem finds_fetchInput {c : Component} {a : Activation} (hmade : scene.Instance c a)
    (hactive : v.stack.active? i = some a) (socket : String) {r : Run ω} (h : v.Holds scene r) :
    Finds scene v r (fetchInput scene watch below i socket)
      fun m => Recompute.fetch scene (scene.recompute m) (v.sites i) a socket := by
  have hprovide (l : Link) {r : Run ω} (h : v.Holds scene r) :
      Finds scene v r (provide scene watch below i l)
        fun m => Recompute.ask scene (scene.recompute m) (v.sites i) l :=
    finds_lookupWithin hsteady hbelow hsited (Nat.lt_succ_self i) l h
  exact finds_fetchWith hsteady hbelow hsited hprovide hmade hactive (fun m => rfl) socket h

end
end SocketGraph
