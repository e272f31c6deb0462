import SocketGraph.Proofs.Sited
import SocketGraph.Proofs.Soundness

/-! How an action on the frames measures up to an evaluation without caches. -/
namespace SocketGraph

/-- From where a run is watched: how many levels evaluations without caches are given, which sites the
frames stand for, what the frames look like and how deep handlers are nested. -/
structure Vantage where
  levels : Nat
  sites : Nat → Site
  stack : FrameStack
  nesting : Nat

/-- A run is as it looks, and its caches are sound. -/
structure Vantage.Holds {ω : Type} (scene : Scene) (v : Vantage) (r : Run ω) : Prop where
  shape : r.state.stack.shape = v.stack.shape
  nesting : r.state.nesting = v.nesting
  sound : Sound scene v.levels v.sites r.state

theorem Vantage.Holds.lineage {ω : Type} {scene : Scene} {v : Vantage} {r : Run ω} {i : Nat}
    (h : v.Holds scene r) (hsited : v.stack.Sited scene v.sites i) :
    ∀ j ∈ r.state.stack.lineage i, v.sites j = v.sites i :=
  (hsited.congr h.shape.symm).lineage

/-- An action measures up to an expectation, which is what evaluations within some levels give. If it
succeeds, then soundly, with the right result and without unaccounted writes whenever anything is
expected at all; and it fails only where no level is left for what is expected. -/
structure Meets {ω α β : Type} (scene : Scene) (v : Vantage) (own : Nat → Cache → Link → Prop)
    (r : Run ω) (x : Action ω (Outcome α)) (Expected : Nat → β → Prop)
    (Right : β → α → FrameStack → Prop) : Prop where
  fails : ∀ {e}, (x r).1 = .error e → ∀ {m b}, m ≤ v.levels → Expected m b →
    scene.limits.recursionDepth ≤ v.nesting + m
  holds : ∀ {a}, (x r).1 = .ok a → v.Holds scene (x r).2
  right : ∀ {a}, (x r).1 = .ok a → ∀ {m b}, m ≤ v.levels → Expected m b →
    Right b a (x r).2.state.stack ∧
      Accounted scene v.levels v.sites own r.state.stack (x r).2.state.stack

theorem Vantage.Holds.height {ω : Type} {scene : Scene} {v : Vantage} {r : Run ω}
    (h : v.Holds scene r) : r.state.stack.height = v.stack.height := FrameStack.height_congr h.shape

theorem Vantage.Holds.congr {ω : Type} {scene : Scene} {v : Vantage} {r r' : Run ω}
    (h : v.Holds scene r) (hstate : r'.state = r.state) : v.Holds scene r' := by
  obtain ⟨hshape, hnesting, hsound⟩ := h
  rw [← hstate] at hshape hnesting hsound
  exact ⟨hshape, hnesting, hsound⟩

/-- The vantage from inside an evaluation. -/
def Vantage.within (v : Vantage) (i : Nat) (a : Activation) : Vantage :=
  { v with
    stack := v.stack.enter i a
    nesting := v.nesting + 1 }

theorem Vantage.Holds.within {ω : Type} {scene : Scene} {v : Vantage} {r r' : Run ω} {i : Nat}
    {a : Activation} (h : v.Holds scene r) (hr' : r'.state = { r.state with
      stack := r.state.stack.enter i a
      nesting := r.state.nesting + 1 }) : (v.within i a).Holds scene r' := by
  refine ⟨?_, ?_, ?_⟩
  · rw [hr']
    exact FrameStack.shape_enter_congr h.shape i a
  · rw [hr']
    exact congrArg (· + 1) h.nesting
  · rw [hr']
    exact h.sound.congr (FrameStack.SameContents.enter _ i a).symm rfl

theorem Vantage.Holds.left {ω : Type} {scene : Scene} {v : Vantage} {r r' : Run ω} {i : Nat}
    {a : Activation} (h : (v.within i a).Holds scene r) (hr' : r'.state = { r.state with
      stack := r.state.stack.leave i
      nesting := r.state.nesting - 1 }) : v.Holds scene r' := by
  refine ⟨?_, ?_, ?_⟩
  · rw [hr', ← FrameStack.leave_enter v.stack i a]
    exact FrameStack.shape_leave_congr h.shape i
  · rw [hr']
    exact congrArg (· - 1) h.nesting
  · rw [hr']
    exact h.sound.congr (FrameStack.SameContents.leave _ i).symm rfl

/-! Scopes. -/

/-- The vantage from inside a scope. -/
def Vantage.opened (v : Vantage) (outer inner : Frame) (sites : Nat → Site) : Vantage :=
  { v with
    sites := sites
    stack := v.stack.opened outer inner }

/-- A scope is opened, its body run, and the scope closed again. -/
theorem Action.run_between {ω α : Type} (watch : Watcher ω) (outer inner : Frame)
    (body : Nat → Action ω α) (r : Run ω) :
    ∃ r' : Run ω, r'.state = { r.state with stack := r.state.stack.opened outer inner } ∧
      (Action.between watch outer inner body r).1 = (body (r.state.stack.height + 1) r').1 ∧
      (Action.between watch outer inner body r).2.state =
        { (body (r.state.stack.height + 1) r').2.state with
          stack := (body (r.state.stack.height + 1) r').2.state.stack.pop.pop } := by
  let r' := (Action.changeStack watch (·.push inner) (Action.changeStack watch (·.push outer) r).2).2
  have htop : r'.state.stack.top = r.state.stack.height + 1 := by
    change ((r.state.stack.push _).push _).top = _
    rw [FrameStack.top_push, FrameStack.height_push]
  refine ⟨r', rfl, ?_⟩
  rw [← htop]
  exact ⟨rfl, rfl⟩

section
variable {ω : Type} {scene : Scene} {v : Vantage} {sites : Nat → Site} {r r' : Run ω}
  {outer inner : Frame}

theorem Vantage.Holds.opened {permeable permeable' : Bool} {provider provider' : Option FrameProvider}
    (h : v.Holds scene r) (hsites : ∀ j < v.stack.height, sites j = v.sites j)
    (houter : outer = .fresh permeable provider) (hinner : inner = .fresh permeable' provider')
    (hr' : r'.state = { r.state with stack := r.state.stack.opened outer inner }) :
    (v.opened outer inner sites).Holds scene r' := by
  have hsound : Sound scene v.levels sites r.state :=
    h.sound.congr_sites fun j hj => hsites j (h.height ▸ hj)
  subst houter hinner
  refine ⟨?_, ?_, ?_⟩
  · rw [hr']
    exact FrameStack.shape_opened_congr h.shape _ _
  · rw [hr']
    exact h.nesting
  · rw [hr']
    exact (hsound.push permeable provider).push permeable' provider'

theorem Vantage.Holds.closed (h : (v.opened outer inner sites).Holds scene r)
    (hsites : ∀ j < v.stack.height, sites j = v.sites j)
    (hr' : r'.state = { r.state with stack := r.state.stack.pop.pop }) : v.Holds scene r' := by
  have hshape : r.state.stack.pop.pop.shape = v.stack.shape := by
    rw [← v.stack.pop_opened outer inner]
    exact FrameStack.shape_pop_congr (FrameStack.shape_pop_congr h.shape)
  refine ⟨?_, ?_, ?_⟩
  · rwa [hr']
  · rw [hr']
    exact h.nesting
  · rw [hr']
    exact h.sound.pop.pop.congr_sites fun j hj =>
      (hsites j (FrameStack.height_congr hshape ▸ hj)).symm

end

/-- The frames that stay when a scope is closed are changed as they were inside. -/
theorem Accounted.closed {scene : Scene} {levels : Nat} {sites sites' : Nat → Site}
    {own : Nat → Cache → Link → Prop} {s t : FrameStack} {outer inner : Frame}
    (h : Accounted scene levels sites' own (s.opened outer inner) t)
    (hsites : ∀ j < s.height, sites' j = sites j) (ht : t.height = s.height + 2) :
    Accounted scene levels sites own s t.pop.pop := by
  intro j f g hf hg cache l
  have hj := FrameStack.lt_height_of_frame? hf
  rw [FrameStack.frame?_pop, FrameStack.frame?_pop, FrameStack.height_pop, ht, if_pos (by omega),
    if_pos (by omega)] at hg
  have hwritten := h ((FrameStack.frame?_opened_of_lt _ _ hj).trans hf) hg cache l
  rwa [hsites j hj] at hwritten

namespace Meets

variable {ω α β γ δ ε : Type} {scene : Scene} {v : Vantage} {own own' : Nat → Cache → Link → Prop}
  {r : Run ω} {x : Action ω (Outcome α)} {Expected Expected' : Nat → β → Prop}
  {Right Right' : β → α → FrameStack → Prop}

theorem succeed {a : α} (h : v.Holds scene r)
    (hright : ∀ {m b}, m ≤ v.levels → Expected m b → Right b a r.state.stack) :
    Meets scene v own r (pure (.ok a)) Expected Right := by
  refine ⟨fun he => (nomatch he), fun _ => h, fun {a'} ha m b hm hb => ⟨?_, .refl _⟩⟩
  obtain rfl := Except.ok.inj ha
  exact hright hm hb

theorem fail {e : Failure} (h : ∀ {m b}, m ≤ v.levels → Expected m b →
    scene.limits.recursionDepth ≤ v.nesting + m) :
    Meets scene v own r (pure (.error e)) Expected Right :=
  ⟨fun _ => h, fun ha => (nomatch ha), fun ha => (nomatch ha)⟩

/-- What is expected may be put in other terms. -/
theorem translate {Expected₁ : Nat → δ → Prop} {Right₁ : δ → α → FrameStack → Prop}
    (h : Meets scene v own r x Expected₁ Right₁) (hexpected : ∀ {m b}, m ≤ v.levels →
      Expected m b → ∃ b₁, Expected₁ m b₁ ∧ ∀ {a s}, Right₁ b₁ a s → Right b a s) :
    Meets scene v own r x Expected Right := by
  refine ⟨fun he m b hm hb => ?_, h.holds, fun ha m b hm hb => ?_⟩
  · obtain ⟨b₁, hb₁, -⟩ := hexpected hm hb
    exact h.fails he hm hb₁
  · obtain ⟨b₁, hb₁, hright⟩ := hexpected hm hb
    exact (h.right ha hm hb₁).imp hright id

/-- Less may be expected, and less be required of the result. -/
theorem weaken (h : Meets scene v own r x Expected Right)
    (hexpected : ∀ {m b}, m ≤ v.levels → Expected' m b → Expected m b)
    (hright : ∀ {m b a s}, m ≤ v.levels → Expected' m b → Right b a s → Right' b a s) :
    Meets scene v own r x Expected' Right' :=
  h.translate fun hm hb => ⟨_, hexpected hm hb, hright hm hb⟩

/-- What has been written belongs to what is known about the result. -/
theorem accounted (h : Meets scene v own r x Expected Right) :
    Meets scene v own r x Expected fun b a s =>
      Right b a s ∧ Accounted scene v.levels v.sites own r.state.stack s :=
  ⟨h.fails, h.holds, fun ha _ _ hm hb => ⟨h.right ha hm hb, (h.right ha hm hb).2⟩⟩

theorem mono (h : Meets scene v own r x Expected Right)
    (hown : ∀ {i cache l}, own i cache l → own' i cache l) :
    Meets scene v own' r x Expected Right :=
  ⟨h.fails, h.holds, fun ha _ _ hm hb => (h.right ha hm hb).imp id (·.mono hown)⟩

/-- Reading changes nothing. -/
theorem readStack {read : FrameStack → γ} {f : γ → Action ω (Outcome α)}
    (h : Meets scene v own r (f (read r.state.stack)) Expected Right) :
    Meets scene v own r (Action.readStack read >>= f) Expected Right := ⟨h.fails, h.holds, h.right⟩

theorem state {f : EngineState → Action ω (Outcome α)}
    (h : Meets scene v own r (f r.state) Expected Right) :
    Meets scene v own r (Action.state >>= f) Expected Right := ⟨h.fails, h.holds, h.right⟩

/-- Something that keeps the caches sound and accounts for what it writes may be done first. -/
theorem step {y : Action ω γ} {f : γ → Action ω (Outcome α)}
    (hwritten : ∀ {m b}, m ≤ v.levels → Expected m b →
      Accounted scene v.levels v.sites own r.state.stack (y r).2.state.stack)
    (hheight : r.state.stack.height = (y r).2.state.stack.height)
    (h : Meets scene v own (y r).2 (f (y r).1) Expected Right) :
    Meets scene v own r (y >>= f) Expected Right :=
  ⟨h.fails, h.holds, fun ha _ _ hm hb =>
    (h.right ha hm hb).imp id ((hwritten hm hb).trans · hheight)⟩

/-- Something that does not touch the state may be done first. -/
theorem skip {y : Action ω γ} {f : γ → Action ω (Outcome α)} (hstate : (y r).2.state = r.state)
    (h : Meets scene v own (y r).2 (f (y r).1) Expected Right) :
    Meets scene v own r (y >>= f) Expected Right := by
  refine step (fun _ _ => ?_) ?_ h
  · rw [hstate]
    exact .refl _
  · rw [hstate]

/-- A value is kept that nothing tells against, and something tells about it or it is the own business
of someone. -/
theorem keep {watch : Watcher ω} {i : Nat} (cache : Cache) {l : Link} {w : Value}
    {f : Unit → Action ω (Outcome α)} (hsited : v.stack.Sited scene v.sites i)
    (h : v.Holds scene r)
    (hsound : ∀ {answer}, scene.Tells v.levels (v.sites i) cache l answer → answer = some w)
    (hknown : ∀ {m b}, m ≤ v.levels → Expected m b →
      (∃ answer, scene.Tells v.levels (v.sites i) cache l answer) ∨
        ∀ j ∈ v.stack.lineage i, own j cache l)
    (hf : ∀ {r'}, v.Holds scene r' → r'.state.stack = r.state.stack.keep i cache l w →
      Meets scene v own r' (f ()) Expected Right) :
    Meets scene v own r (Action.changeStack watch (·.keep i cache l w) >>= f) Expected Right := by
  have hlineage := h.lineage hsited
  have hshape := r.state.stack.shape_keep i cache l w
  refine step (fun hm hb => .keep _ w fun j hj => ?_) (FrameStack.height_congr hshape).symm
    (hf ⟨hshape.trans h.shape, h.nesting, h.sound.keep hlineage fun _ => hsound⟩ rfl)
  rcases hknown hm hb with htells | hown
  · rw [hlineage j hj]
    exact .inl htells
  · rw [FrameStack.lineage_congr h.shape] at hj
    exact .inr (hown j hj)

/-- Something that does not touch the state may be done in the end. -/
theorem finish {y : Outcome α → Action ω γ} (hstate : ∀ outcome r, (y outcome r).2.state = r.state)
    (h : Meets scene v own r x Expected Right) :
    Meets scene v own r (x >>= fun outcome => y outcome >>= fun _ => pure outcome) Expected Right := by
  have hrun : ((x >>= fun outcome => y outcome >>= fun _ => pure outcome) r).2.state =
      (x r).2.state := hstate (x r).1 (x r).2
  refine ⟨h.fails, fun ha => (h.holds ha).congr hrun, fun ha _ _ hm hb => ?_⟩
  rw [hrun]
  exact h.right ha hm hb

/-- One action after another: the second one may rely on what the first one has met. -/
theorem bind {Expected₁ : Nat → δ → Prop} {Right₁ : δ → ε → FrameStack → Prop}
    {y : Action ω (Outcome ε)} {g : Outcome ε → Action ω (Outcome α)}
    (hy : Meets scene v own r y Expected₁ Right₁)
    (hexpected : ∀ {m b}, m ≤ v.levels → Expected m b → ∃ b₁, Expected₁ m b₁)
    (hfails : ∀ e r', ∃ e', (g (.error e) r').1 = .error e')
    (hg : ∀ {a₁ r'}, (y r).1 = .ok a₁ → v.Holds scene r' → Meets scene v own r' (g (.ok a₁))
        (fun m b => Expected m b ∧ ∃ b₁, Expected₁ m b₁ ∧ Right₁ b₁ a₁ r'.state.stack ∧
          Accounted scene v.levels v.sites own r.state.stack r'.state.stack) Right)
    (h : v.Holds scene r) : Meets scene v own r (y >>= g) Expected Right := by
  cases ha₁ : (y r).1 with
  | error e =>
    obtain ⟨e', he'⟩ := hfails e (y r).2
    have hrun : ((y >>= g) r).1 = .error e' := by
      change (g (y r).1 (y r).2).1 = _
      rw [ha₁, he']
    refine ⟨fun _ m b hm hb => ?_, fun ha => ?_, fun ha => ?_⟩
    · obtain ⟨b₁, hb₁⟩ := hexpected hm hb
      exact hy.fails ha₁ hm hb₁
    · exact nomatch hrun.symm.trans ha
    · exact nomatch hrun.symm.trans ha
  | ok a₁ =>
    have hrest := hg ha₁ (hy.holds ha₁)
    have hrun : (y >>= g) r = g (.ok a₁) (y r).2 := by
      change g (y r).1 (y r).2 = _
      rw [ha₁]
    have hknown {m b} (hm : m ≤ v.levels) (hb : Expected m b) : Expected m b ∧ ∃ b₁,
        Expected₁ m b₁ ∧ Right₁ b₁ a₁ (y r).2.state.stack ∧
          Accounted scene v.levels v.sites own r.state.stack (y r).2.state.stack := by
      obtain ⟨b₁, hb₁⟩ := hexpected hm hb
      obtain ⟨hright, hwritten⟩ := hy.right ha₁ hm hb₁
      exact ⟨hb, b₁, hb₁, hright, hwritten⟩
    refine ⟨fun he m b hm hb => ?_, fun ha => ?_, fun ha m b hm hb => ?_⟩
    · rw [hrun] at he
      exact hrest.fails he hm (hknown hm hb)
    · rw [hrun] at ha ⊢
      exact hrest.holds ha
    · rw [hrun] at ha ⊢
      obtain ⟨hright, hwritten⟩ := hrest.right ha hm (hknown hm hb)
      obtain ⟨-, b₁, -, -, hfirst⟩ := hknown hm hb
      refine ⟨hright, hfirst.trans hwritten ?_⟩
      rw [h.height, (hy.holds ha₁).height]

/-- A scope meets what its body meets inside. -/
theorem between {watch : Watcher ω} {outer inner : Frame} {sites : Nat → Site}
    {permeable permeable' : Bool} {provider provider' : Option FrameProvider}
    {body : Nat → Action ω (Outcome α)} {Fits : β → α → Prop} (h : v.Holds scene r)
    (hsites : ∀ j < v.stack.height, sites j = v.sites j)
    (houter : outer = .fresh permeable provider) (hinner : inner = .fresh permeable' provider')
    (hbody : ∀ {r'}, (v.opened outer inner sites).Holds scene r' →
      Meets scene (v.opened outer inner sites) own r' (body (v.stack.height + 1)) Expected
        fun b a _ => Fits b a) :
    Meets scene v own r (Action.between watch outer inner body) Expected fun b a _ => Fits b a := by
  obtain ⟨r', hr', hresult, hstate⟩ := Action.run_between watch outer inner body r
  have hinside := hbody (h.opened hsites houter hinner hr')
  rw [h.height] at hresult hstate
  refine ⟨fun he => ?_, fun {a} ha => ?_, fun {a} ha m b hm hb => ?_⟩
  · rw [hresult] at he
    exact hinside.fails he
  · rw [hresult] at ha
    exact (hinside.holds ha).closed hsites hstate
  · rw [hresult] at ha
    obtain ⟨hfits, hwritten⟩ := hinside.right ha hm hb
    have hheight := (hinside.holds ha).height
    refine ⟨hfits, ?_⟩
    rw [hstate]
    rw [hr'] at hwritten
    refine Accounted.closed hwritten (fun j hj => hsites j (h.height ▸ hj)) ?_
    rw [hheight, h.height]
    exact v.stack.height_opened outer inner

end Meets
end SocketGraph
