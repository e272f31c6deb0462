import SocketGraph.Component.Node
import SocketGraph.Proofs.Repeatable
import SocketGraph.Proofs.Retained

/-! Exposed inputs. When the handler of a component with the usual behaviour has worked, the exposed inputs of
its node have their turns. One that a value is visible for is left as it is, whoever has exposed that value,
and any other one is fetched. -/
namespace SocketGraph

namespace FrameStack

variable {s : FrameStack} {i : Nat}

theorem kept?_pop (h : i < s.pop.height) (cache : Cache) (l : Link) : s.pop.kept? i cache l = s.kept? i cache l := by
  have hs : 0 < s.height := by
    rw [height_pop] at h
    omega
  obtain ⟨f, hf⟩ := exists_push_pop hs
  conv => rhs; rw [hf]
  exact (kept?_push f h cache l).symm

end FrameStack

namespace EngineState

variable {st st' : EngineState} {i : Nat} {cache : Cache} {l : Link}

/-- What lies below two frames that are opened and closed again. -/
theorem kept?_closeBoth {f f' : Frame} (hi : i < st.stack.height)
    (houtline : st'.stack.outline = ((st.push f).push f').stack.outline)
    (h : st'.stack.kept? i cache l = ((st.push f).push f').stack.kept? i cache l) :
    st'.closeBoth.stack.kept? i cache l = st.stack.kept? i cache l := by
  have hclosed := FrameStack.height_of_outline (outline_closeBoth houtline)
  have hpopped : st'.stack.pop.height = st.stack.height + 1 := by
    rw [FrameStack.height_pop, FrameStack.height_of_outline houtline]
    simp [push]
  have hi' : i < (st.stack.push f).height := by
    rw [FrameStack.height_push]
    omega
  calc st'.closeBoth.stack.kept? i cache l
      = st'.stack.pop.kept? i cache l := FrameStack.kept?_pop (hclosed ▸ hi) cache l
    _ = st'.stack.kept? i cache l := FrameStack.kept?_pop (by omega) cache l
    _ = ((st.stack.push f).push f').kept? i cache l := h
    _ = (st.stack.push f).kept? i cache l := FrameStack.kept?_push f' hi' cache l
    _ = st.stack.kept? i cache l := FrameStack.kept?_push f hi cache l

theorem root_pushBoth {f f' : Frame} (hi : i < st.stack.height) :
    ((st.push f).push f').stack.root i = st.stack.root i := by
  have hi' : i < (st.stack.push f).height := by
    rw [FrameStack.height_push]
    omega
  exact (FrameStack.root_push f' hi').trans (FrameStack.root_push f hi)

end EngineState

/-- What is found from a frame stays as long as nothing is written above its root. -/
theorem Course.kept?_of_unwritten {scene : Scene} {calls : CallStack} {role role' : Role} {st st' : EngineState}
    {ms : List Moment} (h : Course scene calls role st ms role' st') {cache : Cache} (hcache : cache ≠ .input)
    {i : Nat} (hi : i < st.stack.height) {l : Link}
    (hms : ∀ m ∈ ms, m.writes? cache l (st.stack.root i) = none) :
    st'.stack.kept? i cache l = st.stack.kept? i cache l := by
  induction h with
  | seq first _ ih ih' =>
    obtain ⟨hfirst, hsecond⟩ := List.forall_mem_append.1 hms
    rw [← FrameStack.root_of_outline first.outline] at hsecond
    exact (ih' (first.height ▸ hi) hsecond).trans (ih hi hfirst)
  | kept calls st j socket v =>
    have hview : (st.stack.putInput j socket v).view Frame.written = st.stack.view Frame.written :=
      FrameStack.view_writeThrough (fun _ => rfl) fun _ => rfl
    exact FrameStack.kept?_of_view hview hcache i l
  | @updated calls st st' j a g ms _ _ _ work ih | @triggered calls st st' j a g ms _ _ _ work ih =>
    have henter : (st.enter j a).stack.view Frame.written = st.stack.view Frame.written :=
      FrameStack.view_modify (fun _ => rfl) fun _ => rfl
    have hleave : (st'.leave j).stack.view Frame.written = st'.stack.view Frame.written :=
      FrameStack.view_modify (fun _ => rfl) fun _ => rfl
    have hwork := ih (by simpa using hi) fun m hm => by
      rw [← hms m (by simp [Moment.handled, hm])]
      exact congrArg (Moment.writes? cache l · m) (FrameStack.root_of_outline (FrameStack.outline_enter _ _ _) i)
    exact (FrameStack.kept?_of_view hleave hcache i l).trans
      (hwork.trans (FrameStack.kept?_of_view henter hcache i l))
  | wrote calls g st script =>
    have hunwritten := hms _ List.mem_cons_self
    cases hkeeps : script.keeps? with
    | none => exact FrameStack.kept?_of_view (script.view_effect hkeeps _ _ st) hcache i l
    | some kept =>
      obtain ⟨c, socket, v⟩ := kept
      rw [Script.effect_of_keeps? hkeeps]
      refine FrameStack.kept?_keep_of_ne (fun hwritten => ?_) v
      simp [Moment.writes?, hkeeps, hwritten] at hunwritten
  | inner _ ih => exact ih hi hms
  | @linked calls g st st' ms pairings course ih =>
    refine EngineState.kept?_closeBoth hi course.outline (ih (by simp; omega) fun m hm => ?_)
    rw [EngineState.openScene, EngineState.root_pushBoth hi]
    exact hms m (by simp [hm])
  | @signalled calls g st st' ms pairings provider _ course ih =>
    have hopened : i < (st.openScene g.frame pairings).stack.height := by simp; omega
    refine EngineState.kept?_closeBoth hi ?_ (EngineState.kept?_closeBoth hopened course.outline (ih ?_ fun m hm => ?_))
    · exact EngineState.outline_closeBoth course.outline
    · simp
      omega
    · have hroot : ((st.openScene g.frame pairings).deeper.openCall provider).stack.root i = st.stack.root i :=
        (EngineState.root_pushBoth hopened).trans (EngineState.root_pushBoth hi)
      rw [hroot]
      exact hms m (by simp [Moment.propagating, hm])
  | _ => rfl

/-! Handlers at work, operation by operation. -/

section
variable {scene : Scene} {below : Calls History} {calls : CallStack}

/-- An operation of a handler goes on by a course. -/
theorem Course.follows_operate (hbelow : Tracked scene below) (i : Nat) (a : Activation) (script : Script) :
    Follows scene calls (handling i a) (operate scene .history below i a script) := by
  cases script with
  | done outcome => exact follows_pure _
  | fetch socket next =>
    exact (follows_performed fun _ => rfl).bind fun _ =>
      (Follows.inner fun g => follows_fetchInput (hbelow.evaluate _) i socket).bind fun _ => follows_pure _
  | push socket v next => exact follows_wrote (.push socket v next) (fun _ => rfl) (follows_pure _)
  | expose socket v next => exact follows_wrote (.expose socket v next) (fun _ => rfl) (follows_pure _)
  | hasExposed socket next =>
    exact (follows_performed fun _ => rfl).bind fun _ => (follows_readStack _).bind fun _ => follows_pure _
  | exposeSignal socket next =>
    rw [operate]
    split_ifs with hsignal
    · exact follows_wrote (.exposeSignal socket next) (fun _ => by rw [Script.effect, if_pos hsignal])
        (follows_pure _)
    · exact (follows_performed fun _ => by rw [Script.effect, if_neg hsignal]).bind fun _ =>
        (follows_log _).bind fun _ => follows_pure _
  | forward socket next =>
    have hforward : Follows scene calls (handling i a) _ := follows_forward socket next (follows_pure next)
    rw [operate]
    refine (congrArg (Follows scene calls (handling i a)) ?_).mp hforward
    refine bind_congr fun _ => bind_congr fun signal => ?_
    cases signal <;> rfl
  | mark target scope next => exact follows_wrote (.mark target scope next) (fun _ => rfl) (follows_pure _)
  | emit event next =>
    exact (follows_performed fun _ => rfl).bind fun _ => (follows_emit _).bind fun _ => follows_pure _
  | count name next =>
    exact (follows_performed fun _ => rfl).bind fun _ => (follows_count _).bind fun _ => follows_pure _
  | pullScene pairings target next =>
    exact (follows_performed fun _ => rfl).bind fun _ =>
      (Follows.sceneScope pairings fun _ j => hbelow.evaluate _ j _ _).bind fun _ => follows_pure _
  | pushScene pairings target next =>
    exact (follows_performed fun _ => rfl).bind fun _ =>
      (follows_signalled pairings fun r => hbelow.propagate _ _ _ r).bind fun _ => follows_pure _

end

section
variable (scene : Scene) (levels : Nat) (i : Nat) (a : Activation)

/-- The handler of an activation gets from one moment to a later one, the script that is left and the run so
far. -/
def Performs (m m' : Script × Run History) : Prop :=
  Relation.ReflTransGen (Operates scene .history (scene.calls .history levels) i a) m m'

/-- What becomes of an exposed input in its turn: it is left as it is if a value is visible for it; otherwise it
is fetched, and exposed if it has a value. -/
inductive Turn (socket : String) (t : Run History) : Run History → Prop
  | left (next : Bool → Script) {w : Value} (visible : t.state.stack.exposed? i ⟨a.node, socket⟩ = some w) :
      Turn socket t (Action.note .history (.performed i a (.hasExposed socket next)) t).2
  | absent (next : Bool → Script) (next' : Outcome (Option Value) → Script) {u : Run History}
      (missing : t.state.stack.exposed? i ⟨a.node, socket⟩ = none)
      (fetched : fetching scene .history (scene.calls .history levels) i a socket next'
        (Action.note .history (.performed i a (.hasExposed socket next)) t).2 = (.ok none, u)) :
      Turn socket t u
  | exposed (next : Bool → Script) (next' : Outcome (Option Value) → Script) {u u' : Run History} {v : Value}
      (missing : t.state.stack.exposed? i ⟨a.node, socket⟩ = none)
      (fetched : fetching scene .history (scene.calls .history levels) i a socket next'
        (Action.note .history (.performed i a (.hasExposed socket next)) t).2 = (.ok (some v), u))
      (visible : u'.state.stack.exposed? i ⟨a.node, socket⟩ = some v) : Turn socket t u'

/-- A run in which the handler of an activation is the innermost one at work, on its frame. -/
structure Run.Working (r : Run History) : Prop where
  present : i < r.state.stack.height
  working : ∃ g calls, r.seen.calls = g :: calls ∧ g.frame = i ∧ g.activation = a

end

/-- One run leads to another one, and what is visible for a socket stays unless something is exposed for it. -/
def Run.Leaves (i : Nat) (l : Link) (r r' : Run History) : Prop :=
  ∃ ms, r'.seen.moments = ms ++ r.seen.moments ∧
    ((∀ m ∈ ms, m.writes? .exposed l (r.state.stack.root i) = none) →
      r'.state.stack.exposed? i l = r.state.stack.exposed? i l)

section
variable {scene : Scene} {levels i : Nat} {a : Activation} {r r' : Run History} {script script' : Script}

/-- A script is performed to its end. -/
theorem performs_perform (script : Script) (r : Run History) :
    Performs scene levels i a (script, r)
      (.done (perform scene .history (scene.calls .history levels) i a script r).1,
        (perform scene .history (scene.calls .history levels) i a script r).2) := by
  induction script using perform_induction scene .history (scene.calls .history levels) i a generalizing r with
  | done outcome => exact .refl
  | operated script ih =>
    rw [perform_eq_operate, Action.bind_apply]
    exact .head rfl (ih r _)

theorem recorded_of_performs {g : Invocation} {calls : CallStack} (hcalls : r.seen.calls = g :: calls)
    (hframe : g.frame = i) (hactivation : g.activation = a)
    (h : Performs scene levels i a (script, r) (script', r')) :
    ∃ ms g', Course.Recorded scene calls (.working g) r ms (.working g') r' := by
  generalize hm : (script', r') = m at h
  induction h generalizing script' r' with
  | refl =>
    obtain ⟨rfl, rfl⟩ := Prod.mk.inj hm
    exact ⟨[], g, .rest hcalls⟩
  | @tail m m' _ hstep ih =>
    obtain ⟨script₁, r₁⟩ := m
    obtain ⟨ms, g', hrecorded⟩ := ih rfl
    have hsame := hrecorded.2.same
    have hfollows : Course.Follows scene calls (Course.handling i a) _ :=
      Course.follows_operate (scene.tracked_calls levels) i a script₁
    obtain ⟨ms', role, hnext⟩ := hfollows (.working g') ⟨hsame.1.trans hframe, hsame.2.trans hactivation⟩ r₁
      (congrArg History.calls hrecorded.1)
    obtain ⟨rfl, rfl⟩ := Prod.mk.inj (hm.trans hstep.symm)
    cases role with
    | working g'' => exact ⟨ms ++ ms', g'', hrecorded.trans hnext⟩
    | asked => exact nomatch hnext.2.same
    | delivering => exact nomatch hnext.2.same

/-- While a handler works it stays the innermost one at work, and what is visible stays unless it is exposed
again. -/
theorem leaves_of_performs (hr : r.Working i a) (h : Performs scene levels i a (script, r) (script', r')) :
    r'.Working i a ∧ ∀ l, r.Leaves i l r' := by
  obtain ⟨hi, g, calls, hcalls, hframe, hactivation⟩ := hr
  obtain ⟨ms, g', hseen, hcourse⟩ := recorded_of_performs hcalls hframe hactivation h
  have hsame := hcourse.same
  refine ⟨⟨hcourse.height ▸ hi, g', calls, congrArg History.calls hseen, hsame.1.trans hframe,
    hsame.2.trans hactivation⟩, fun l => ⟨ms.reverse, congrArg History.moments hseen, fun hms => ?_⟩⟩
  have hcache : Cache.exposed ≠ .input := nofun
  exact hcourse.kept?_of_unwritten hcache hi fun m hm => hms m (List.mem_reverse.2 hm)

end

theorem Script.andThen_assoc (x y z : Script) : (x.andThen y).andThen z = x.andThen (y.andThen z) := by
  induction x with
  | done outcome => cases outcome <;> rfl
  | hasExposed socket next ih => exact congrArg (hasExposed socket) (funext ih)
  | _ => simp_all [andThen]

section
variable {scene : Scene} {levels i : Nat} {a : Activation} {r r' : Run History} {script rest : Script}

/-- A script comes to its last part, or it fails before. -/
def Arrives (scene : Scene) (levels i : Nat) (a : Activation) (m : Script × Run History) (rest : Script) : Prop :=
  (∃ r, Performs scene levels i a m (rest, r)) ∨
    ∃ failure r, Performs scene levels i a m (.done (.error failure), r)

theorem Arrives.head (h : Arrives scene levels i a
      (operate scene .history (scene.calls .history levels) i a script r) rest) :
    Arrives scene levels i a (script, r) rest :=
  h.imp (fun ⟨r', h⟩ => ⟨r', .head rfl h⟩) fun ⟨failure, r', h⟩ => ⟨failure, r', .head rfl h⟩

theorem arrives_andThen (script rest : Script) (r : Run History) :
    Arrives scene levels i a (script.andThen rest, r) rest := by
  induction script generalizing r with
  | done outcome =>
    cases outcome with
    | ok _ => exact .inl ⟨r, .refl⟩
    | error failure => exact .inr ⟨failure, r, .refl⟩
  | fetch _ _ ih | hasExposed _ _ ih | count _ _ ih | pullScene _ _ _ ih | pushScene _ _ _ ih =>
    exact .head (ih _ _)
  | push _ _ _ ih | expose _ _ _ ih | mark _ _ _ ih | emit _ _ ih => exact .head (ih _)
  | exposeSignal socket next ih =>
    refine .head ?_
    rw [Script.andThen, operate]
    split <;> exact ih _
  | forward socket next ih =>
    refine .head ?_
    rw [Script.andThen, operate, Action.bind_apply, Action.readStack_bind_apply]
    split <;> exact ih _

/-- A script that succeeds comes to its last part. -/
theorem exists_performs_of_andThen {script rest : Script}
    (h : (perform scene .history (scene.calls .history levels) i a (script.andThen rest) r).1 = .ok ()) :
    ∃ r₁, Performs scene levels i a (script.andThen rest, r) (rest, r₁) ∧
      perform scene .history (scene.calls .history levels) i a rest r₁ =
        perform scene .history (scene.calls .history levels) i a (script.andThen rest) r := by
  rcases arrives_andThen script rest r with ⟨r₁, hperforms⟩ | ⟨failure, r₁, hperforms⟩
  · exact ⟨r₁, hperforms, (perform_of_operates hperforms).symm⟩
  · have hfails := perform_of_operates hperforms
    dsimp only at hfails
    rw [hfails] at h
    exact nomatch h

end

namespace NodeComponent

/-- What is left of an update when some exposed inputs are still to have their turns. -/
def exposing (c : NodeComponent) (ss : List Socket) : Script := (exposeInputs ss).andThen c.remember

theorem updateScript_eq_andThen (c : NodeComponent) (a : Activation) :
    c.updateScript a = (c.update.elim .succeed (· a)).andThen (c.exposing c.exposedInputs) :=
  Script.andThen_assoc _ _ _

theorem exposing_cons (c : NodeComponent) (s : Socket) (ss : List Socket) :
    c.exposing (s :: ss) = .hasExposed s.name fun
      | true => c.exposing ss
      | false => .fetch s.name fun
        | .error failure => .fail failure
        | .ok none => c.exposing ss
        | .ok (some v) => .expose s.name v (c.exposing ss) := by
  refine congrArg (Script.hasExposed s.name) (funext fun known => ?_)
  cases known with
  | true => rfl
  | false =>
    refine congrArg (Script.fetch s.name) (funext fun answer => ?_)
    rcases answer with failure | _ | v <;> rfl

variable {scene : Scene} {levels i : Nat} {a : Activation} {c : NodeComponent}

/-- The next exposed input has its turn. -/
theorem exists_turn (s : Socket) (ss : List Socket) {t : Run History} (ht : t.Working i a)
    (h : (perform scene .history (scene.calls .history levels) i a (c.exposing (s :: ss)) t).1 = .ok ()) :
    ∃ u, Turn scene levels i a s.name t u ∧
      Performs scene levels i a (c.exposing (s :: ss), t) (c.exposing ss, u) := by
  let next' : Outcome (Option Value) → Script
    | .error failure => .fail failure
    | .ok none => c.exposing ss
    | .ok (some v) => .expose s.name v (c.exposing ss)
  let next : Bool → Script
    | true => c.exposing ss
    | false => .fetch s.name next'
  let t₁ := (Action.note .history (.performed i a (.hasExposed s.name next)) t).2
  have hscript : c.exposing (s :: ss) = .hasExposed s.name next := exposing_cons c s ss
  have hasked : Performs scene levels i a (c.exposing (s :: ss), t)
      (next (t.state.stack.exposed? i ⟨a.node, s.name⟩).isSome, t₁) := by
    rw [hscript]
    exact .single rfl
  cases hvisible : t.state.stack.exposed? i ⟨a.node, s.name⟩ with
  | some w =>
    rw [hvisible] at hasked
    exact ⟨t₁, .left next hvisible, hasked⟩
  | none =>
    rw [hvisible] at hasked
    let fetched := fetching scene .history (scene.calls .history levels) i a s.name next' t₁
    have hfetched : Performs scene levels i a (c.exposing (s :: ss), t) (next' fetched.1, fetched.2) :=
      .tail hasked rfl
    rcases hanswer : fetched with ⟨failure | _ | v, u⟩
    · -- the failure would be that of the update
      rw [hanswer] at hfetched
      have hfails := perform_of_operates hfetched
      dsimp only at hfails
      rw [hfails] at h
      exact nomatch h
    · rw [hanswer] at hfetched
      exact ⟨u, .absent next next' hvisible hanswer, hfetched⟩
    · rw [hanswer] at hfetched
      let u' := (operate scene .history (scene.calls .history levels) i a (.expose s.name v (c.exposing ss)) u).2
      have hpresent : i < u.state.stack.height := (leaves_of_performs ht hfetched).1.present
      have hexposed : u'.state.stack.exposed? i ⟨a.node, s.name⟩ = some v :=
        FrameStack.kept?_keep_self hpresent .exposed ⟨a.node, s.name⟩ v
      exact ⟨u', .exposed next next' hvisible hanswer hexposed, .tail hfetched rfl⟩

/-- Every exposed input has its turn, after those before it and before those behind it. -/
theorem exists_turns (ss : List Socket) {t r' : Run History} (ht : t.Working i a)
    (h : perform scene .history (scene.calls .history levels) i a (c.exposing ss) t = (.ok (), r')) :
    ∀ s ∈ ss, ∃ t' u rest, Performs scene levels i a (c.exposing ss, t) (c.exposing (s :: rest), t') ∧
      Turn scene levels i a s.name t' u ∧ u.Working i a ∧
      Performs scene levels i a (c.exposing rest, u) (.done (.ok ()), r') := by
  induction ss generalizing t with
  | nil => exact nofun
  | cons s ss ih =>
    obtain ⟨u, hturn, hperforms⟩ := exists_turn s ss ht (congrArg Prod.fst h)
    have hu := (leaves_of_performs ht hperforms).1
    have hrest : perform scene .history (scene.calls .history levels) i a (c.exposing ss) u = (.ok (), r') :=
      (perform_of_operates hperforms).symm.trans h
    refine List.forall_mem_cons.2 ⟨⟨t, u, ss, .refl, hturn, hu, ?_⟩, fun s' hs' => ?_⟩
    · have hdone : Performs scene levels i a (c.exposing ss, u) _ := performs_perform (c.exposing ss) u
      rwa [hrest] at hdone
    · obtain ⟨t', u', rest, hcomes, hrest'⟩ := ih hu hrest s' hs'
      exact ⟨t', u', rest, hperforms.trans hcomes, hrest'⟩

end NodeComponent

/-- When the handler of a component with the usual behaviour works and succeeds, what it exposes for an exposed
input is visible at once. When its own handler is done, every exposed input has its turn: it is left as it is if a
value is visible for it, exposed in this update or before, and otherwise it is fetched, and its value is exposed.
At all other times what is visible for the input changes only if something is exposed for it. -/
theorem exposed_inputs_settled (c : NodeComponent) (scene : Scene) (levels i : Nat) (a : Activation)
    (r r' : Run History) (hworking : r.Working i a)
    (hrun : perform scene .history (scene.calls .history levels) i a (c.updateScript a) r = (.ok (), r')) :
    ∃ r₁, Performs scene levels i a (c.updateScript a, r) (c.exposing c.exposedInputs, r₁) ∧
      ∀ s ∈ c.exposedInputs,
        (∀ v next r₀, Performs scene levels i a (c.updateScript a, r) (.expose s.name v next, r₀) →
          ∃ r₀', Performs scene levels i a (.expose s.name v next, r₀) (next, r₀') ∧
            r₀'.state.stack.exposed? i ⟨a.node, s.name⟩ = some v ∧ r₀'.Leaves i ⟨a.node, s.name⟩ r') ∧
        r.Leaves i ⟨a.node, s.name⟩ r₁ ∧
        ∃ t u rest, Performs scene levels i a (c.exposing c.exposedInputs, r₁) (c.exposing (s :: rest), t) ∧
          r₁.Leaves i ⟨a.node, s.name⟩ t ∧ Turn scene levels i a s.name t u ∧
          Performs scene levels i a (c.exposing rest, u) (.done (.ok ()), r') ∧
          u.Leaves i ⟨a.node, s.name⟩ r' := by
  have hscript := c.updateScript_eq_andThen a
  obtain ⟨r₁, hown, hrest⟩ := exists_performs_of_andThen (congrArg Prod.fst (hscript ▸ hrun))
  rw [← hscript] at hown hrest
  obtain ⟨hworking₁, hleaves⟩ := leaves_of_performs hworking hown
  refine ⟨r₁, hown, fun s hs => ⟨fun v next r₀ hcomes => ?_, hleaves _, ?_⟩⟩
  · let r₀' := (operate scene .history (scene.calls .history levels) i a (.expose s.name v next) r₀).2
    have hexpose : Performs scene levels i a (.expose s.name v next, r₀) (next, r₀') := .single rfl
    have hworking₀ := (leaves_of_performs hworking hcomes).1
    have hdone : Performs scene levels i a (next, r₀') _ := performs_perform next r₀'
    rw [← perform_of_operates hexpose, ← perform_of_operates hcomes, hrun] at hdone
    exact ⟨r₀', hexpose, FrameStack.kept?_keep_self hworking₀.present .exposed ⟨a.node, s.name⟩ v,
      (leaves_of_performs (leaves_of_performs hworking₀ hexpose).1 hdone).2 _⟩
  · obtain ⟨t, u, rest, hcomes, hturn, hu, hdone⟩ :=
      NodeComponent.exists_turns c.exposedInputs hworking₁ (hrest.trans hrun) s hs
    exact ⟨t, u, rest, hcomes, (leaves_of_performs hworking₁ hcomes).2 _, hturn, hdone,
      (leaves_of_performs hu hdone).2 _⟩

/-- A component that overrides its exposed input when a signal arrives. -/
def overComponent : NodeComponent :=
  ⟨"over", [{ Socket.input "x" "Number" with exposed := true, default := some (.int 7) }], none,
    some fun _ _ => .expose "x" (.int 99) .succeed, none⟩

def overTables : Tables :=
  ⟨⟨Table.empty.insert (socketKey "n" "x") ⟨"n", "x", "Number", "over"⟩, .empty⟩,
    ⟨(Table.empty.insert "i" ⟨"over", .empty⟩).insert "n" ⟨"over", .empty⟩, .empty,
      Table.empty.insert (socketKey "i" "go") [⟨"n", "go"⟩]⟩⟩

def overSession : Session History :=
  ⟨⟨.ofComponents [overComponent.component], ⟨20, 20⟩, none, some (overTables, .fresh)⟩, .empty, [], []⟩

/-- An update of a node for which a value is visible that was exposed before. -/
def overActivation : Activation := overComponent.component.activation "n" .empty (.pull (some "x"))

def overRun : Run History :=
  ⟨⟨((⟨[.fresh true none, .fresh true none]⟩ : FrameStack).putExposed 1 ⟨"n", "x"⟩ (.int 99)).enter 1 overActivation,
    .empty, 1⟩, .empty, [⟨1, overActivation, [], none⟩], []⟩

/-- The input resolves to its default, but after the update the earlier value is visible; so it is in a bracket in
which a signal has arrived before a request, which is answered with the default otherwise. -/
theorem exposed_input_outdated :
    let scene := overSession.engine.scene overTables
    let done := perform scene .history (scene.calls .history 20) 1 overActivation
      (overComponent.updateScript overActivation) overRun
    let signalled := (HostCall.performAll .history [.beginCycle, .triggerSignal "go" (some (.node "i")) none]
      overSession).2
    done.1.toOption = some () ∧
      (fetchInput scene .history (scene.calls .history 20) 1 "x" done.2).1.toOption = some (some (.int 7)) ∧
      done.2.state.stack.exposed? 1 ⟨"n", "x"⟩ = some (.int 99) ∧
      (Host.requestValue .history "n" "x" none overSession).1.toOption = some (some (.int 7)) ∧
      (Host.requestValue .history "n" "x" none signalled).1.toOption = some (some (.int 99)) := by
  decide +kernel

/-- The input has had its turn in that update. -/
theorem exposed_inputs_settled_outdated :
    let scene := overSession.engine.scene overTables
    let done := perform scene .history (scene.calls .history 20) 1 overActivation
      (overComponent.updateScript overActivation) overRun
    overRun.Working 1 overActivation ∧ done = (.ok (), done.2) ∧ ∃ t u, Turn scene 20 1 overActivation "x" t u ∧
      u.Leaves 1 ⟨"n", "x"⟩ done.2 := by
  intro scene done
  have hworking : overRun.Working 1 overActivation := ⟨by decide, _, [], rfl, rfl, rfl⟩
  obtain ⟨r₁, -, hturns⟩ := exposed_inputs_settled overComponent scene 20 1 overActivation overRun done.2
    hworking rfl
  obtain ⟨-, -, t, u, -, -, -, hturn, -, hleaves⟩ := hturns _ List.mem_cons_self
  exact ⟨hworking, rfl, t, u, hturn, hleaves⟩

end SocketGraph
