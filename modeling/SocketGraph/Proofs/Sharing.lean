import Mathlib.Logic.Relation
import SocketGraph.Proofs.Bodies
import SocketGraph.Proofs.Rosters
import SocketGraph.Proofs.WarrantedCalls

/-! Shared producers. A producer is evaluated only for an output that is not known yet. So without linked scenes
and cycles, if every update pushes whatever its node feeds, no node is updated twice in one call. -/
namespace SocketGraph

namespace Executable

/-- An output feeds an input of some node. -/
def FeedsFrom (x : Executable) (output : Link) (consumer : NodeId) : Prop :=
  ∃ socket, output ∈ x.producers consumer socket

/-- A node feeds another one from one of its outputs. -/
def Feeds (x : Executable) (node consumer : NodeId) : Prop := ∃ k, x.FeedsFrom ⟨node, k⟩ consumer

/-- No node is fed by itself, be it through other nodes. -/
def Acyclic (x : Executable) : Prop := ∀ node, ¬ Relation.TransGen x.Feeds node node

end Executable

namespace Moment

/-- The output that is pushed in a moment. -/
def pushed? : Moment → Option Link :=
  told fun _ a script => match script with
    | .push socket _ _ => some ⟨a.node, socket⟩
    | _ => none

/-- The node whose update is finished in a moment. -/
def updated? (m : Moment) : Option NodeId :=
  match m.step with
  | .finished _ a _ => if a.isSignal then none else some a.node
  | _ => none

/-- Until their updates are finished, nodes push all their outputs that feed an input. -/
def Productive (x : Executable) : List Moment → Prop
  | [] => True
  | m :: earlier => (∀ node k consumer, m.updated? = some node → x.FeedsFrom ⟨node, k⟩ consumer →
      ∃ m' ∈ earlier, m'.pushed? = some ⟨node, k⟩) ∧ Productive x earlier

theorem Productive.of_append {x : Executable} {later earlier : List Moment}
    (h : Productive x (later ++ earlier)) : Productive x earlier := by
  induction later with
  | nil => exact h
  | cons _ later ih => exact ih h.2

theorem Productive.split {x : Executable} {later earlier : List Moment} {m : Moment}
    (h : Productive x (later ++ m :: earlier)) {node : NodeId} (hnode : m.updated? = some node) {k : String}
    {consumer : NodeId} (hfeeds : x.FeedsFrom ⟨node, k⟩ consumer) :
    ∃ m' ∈ earlier, m'.pushed? = some ⟨node, k⟩ := h.of_append.1 node k consumer hnode hfeeds

end Moment

namespace FrameStack

variable {s t : FrameStack} {i : Nat} {l : Link}

/-- The outermost frame knows an output. -/
def Recalls (s : FrameStack) (l : Link) : Prop :=
  ∃ f, s.frame? 0 = some f ∧ (f.outputs.get? l.node l.socket).isSome

theorem Recalls.of_view (hs : s.Recalls l) (h : t.view Frame.outputs = s.view Frame.outputs) :
    t.Recalls l := by
  obtain ⟨f, hf, hknown⟩ := hs
  have hview := frame?_of_view h 0
  rw [hf] at hview
  obtain ⟨f', hf', houtputs⟩ := Option.map_eq_some_iff.1 hview
  exact ⟨f', hf', houtputs ▸ hknown⟩

theorem Recalls.height_pos (hs : s.Recalls l) : 0 < s.height := lt_height_of_frame? hs.choose_spec.1

theorem Recalls.push (hs : s.Recalls l) (f : Frame) : (s.push f).Recalls l := by
  obtain ⟨f', hf', hknown⟩ := id hs
  exact ⟨f', (frame?_push_of_lt f hs.height_pos).trans hf', hknown⟩

theorem Recalls.pop (hs : s.Recalls l) (hpop : 0 < s.pop.height) : s.pop.Recalls l := by
  obtain ⟨f, hf, hknown⟩ := hs
  rw [height_pop] at hpop
  exact ⟨f, by rw [frame?_pop, if_pos (by omega), hf], hknown⟩

/-- Outputs that are pushed are known from then on where the outermost frame is reached. -/
theorem recalls_putOutput (hi : 0 ∈ s.lineage i) (l : Link) (v : Value) : (s.putOutput i l v).Recalls l := by
  obtain ⟨hheight, -, -⟩ := mem_lineage.1 hi
  obtain ⟨f, hf⟩ := exists_frame? (s := s) (j := 0) (by omega)
  refine ⟨f.putOutput l v, ?_, ?_⟩
  · rw [putOutput, frame?_writeThrough, if_pos hi, hf]
    rfl
  · rw [Frame.putOutput, SocketValues.get?_put, if_pos ⟨rfl, rfl⟩]
    rfl

theorem Recalls.putOutput (hs : s.Recalls l) (i : Nat) (l' : Link) (v : Value) :
    (s.putOutput i l' v).Recalls l := by
  obtain ⟨f, hf, hknown⟩ := hs
  rw [Recalls, FrameStack.putOutput, frame?_writeThrough]
  split_ifs
  · refine ⟨f.putOutput l' v, by rw [hf]; rfl, ?_⟩
    rw [Frame.putOutput, SocketValues.get?_put]
    split_ifs
    · rfl
    · exact hknown
  · exact ⟨f, hf, hknown⟩

/-- What the outermost frame knows is known on the frames that reach it. -/
theorem Recalls.output?_ne_none (hs : s.Recalls l) (hi : 0 ∈ s.lineage i) : s.output? i l ≠ none := by
  intro hnone
  obtain ⟨f, hf, hknown⟩ := hs
  have hzero := readThrough_eq_none_iff.1 hnone 0 hi
  rw [hf, Option.bind_some] at hzero
  rw [hzero] at hknown
  exact nomatch hknown

end FrameStack

/-- A handler that performs an operation reaches the outermost frame, which stays open. -/
def Moment.Reaches (m : Moment) : Prop :=
  0 < m.state.stack.height ∧ ∀ i a script, m.step = .performed i a script → 0 ∈ m.state.stack.lineage i

/-- What a script pushes is recalled, and nothing is forgotten that was recalled before. -/
theorem Script.recalls_effect {i : Nat} {a : Activation} {st : EngineState} (script : Script) {l : Link}
    (h : st.stack.Recalls l) : (script.effect i a st).stack.Recalls l := by
  cases script with
  | push socket v next => exact h.putOutput i _ v
  | expose => exact h.of_view (FrameStack.view_writeThrough (fun _ => rfl) fun _ => rfl)
  | exposeSignal =>
    rw [effect]
    split_ifs
    · exact h.of_view (FrameStack.view_writeThrough (fun _ => rfl) fun _ => rfl)
    · exact h
  | forward =>
    rw [effect]
    split_ifs
    · exact h.of_view (FrameStack.view_modify (fun _ => rfl) fun _ => rfl)
    · exact h
  | mark target scope next =>
    cases scope with
    | frame | root => exact h.of_view (FrameStack.view_modify (fun _ => rfl) fun _ => rfl)
    | forever => exact h
  | _ => exact h

theorem Moment.effect_of_pushed? {st : EngineState} {calls : CallStack} {i : Nat} {a : Activation}
    {script : Script} {l : Link} (h : (⟨st, calls, .performed i a script⟩ : Moment).pushed? = some l) :
    ∃ v, script.effect i a st = { st with stack := st.stack.putOutput i l v } := by
  cases script with
  | push socket v next =>
    obtain rfl : ⟨a.node, socket⟩ = l := Option.some.inj h
    exact ⟨v, rfl⟩
  | _ => exact nomatch h

/-- After an operation everything is recalled that was pushed until then. -/
theorem Script.recalls_performed {h : List Moment} {st : EngineState} {calls : CallStack} {i : Nat}
    {a : Activation} {script : Script}
    (ht : (∀ m ∈ h, m.Reaches) → ∀ l, (∃ m ∈ h, m.pushed? = some l) → st.stack.Recalls l)
    (hreaches : ∀ m ∈ (⟨st, calls, .performed i a script⟩ : Moment) :: h, m.Reaches) (l : Link)
    (hpushed : ∃ m ∈ (⟨st, calls, .performed i a script⟩ : Moment) :: h, m.pushed? = some l) :
    (script.effect i a st).stack.Recalls l := by
  obtain ⟨hperformed, hh⟩ := List.forall_mem_cons.1 hreaches
  obtain ⟨m, hm, hl⟩ := hpushed
  rcases List.mem_cons.1 hm with rfl | hm
  · obtain ⟨v, hv⟩ := Moment.effect_of_pushed? hl
    rw [hv]
    exact FrameStack.recalls_putOutput (hperformed.2 i a script rfl) l v
  · exact script.recalls_effect (ht hh l ⟨m, hm, hl⟩)

theorem Step.Quiet.pushed? {s : Step} (hs : s.Quiet) (st : EngineState) (calls : CallStack) :
    (⟨st, calls, s⟩ : Moment).pushed? = none := by
  cases s <;> first | rfl | exact hs.elim

/-- A history tells which outputs are known. -/
def Chronicle.pushes : Chronicle where
  tells h st := (∀ m ∈ h, m.Reaches) → ∀ l, (∃ m ∈ h, m.pushed? = some l) → st.stack.Recalls l
  noted calls s hs ht hreaches l := by
    rintro ⟨m, hm, hl⟩
    rcases List.mem_cons.1 hm with rfl | hm
    · exact nomatch (hs.pushed? _ calls).symm.trans hl
    · exact ht (List.forall_mem_cons.1 hreaches).2 l ⟨m, hm, hl⟩
  moved calls hmove ht hreaches l := by
    obtain ⟨hafter, hh⟩ := List.forall_mem_cons.1 hreaches
    rintro ⟨m, hm, hl⟩
    rcases List.mem_cons.1 hm with rfl | hm
    · exact nomatch hl
    · have hbefore := ht hh l ⟨m, hm, hl⟩
      rcases hmove.view (g := Frame.outputs) (fun _ _ => rfl) (fun _ => rfl) (fun _ _ _ => rfl) with
        ⟨hview, -⟩ | ⟨permeable, provider, rfl⟩ | rfl
      · exact hbefore.of_view hview
      · exact hbefore.push _
      · exact hbefore.pop hafter.1
  wrote calls calls' i a script ht hreaches l := by
    rintro ⟨m, hm, hl⟩
    rcases List.mem_cons.1 hm with rfl | hm
    · exact nomatch hl
    · exact script.recalls_performed ht (List.forall_mem_cons.1 hreaches).2 l ⟨m, hm, hl⟩
  idle calls i a script heffect ht hreaches l hpushed := by
    have hrecalls := script.recalls_performed ht hreaches l hpushed
    rwa [heffect] at hrecalls

/-! Frames of calls without linked scenes. -/

namespace FrameStack.Regular

variable {s : FrameStack} {i : Nat} (hs : s.Regular fun _ => False)
include hs

theorem fitting {w : Bool × Option FrameProvider} (hw : w ∈ s.fittings) :
    w.1 = true ∧ ∀ b, w.2 ≠ some (.gateway b) := by
  rcases hs w hw with hopen | ⟨-, b, -, -, hpaired⟩
  · exact hopen
  · exact hpaired.elim

theorem false_not_mem_outline : false ∉ s.outline := by
  intro hmem
  obtain ⟨f, hf, hfalse⟩ := List.mem_map.1 hmem
  have htrue := (hs.fitting (List.mem_map_of_mem hf)).1
  exact nomatch htrue.symm.trans hfalse

theorem isPermeable (hi : i < s.height) : s.isPermeable i = true := by
  obtain ⟨f, hf⟩ := exists_frame? hi
  rw [FrameStack.isPermeable, hf]
  exact (hs.fitting (List.mem_map_of_mem (List.mem_of_getElem? hf))).1

theorem zero_mem_lineage (hi : i < s.height) : 0 ∈ s.lineage i :=
  mem_lineage.2 ⟨hi, Nat.zero_le i, fun _ _ hk => hs.isPermeable (Nat.lt_of_le_of_lt hk hi)⟩

/-- No gateway answers. -/
theorem provider?_ne (b : Binding) : s.provider? i ≠ some (.gateway b) := by
  intro hb
  obtain ⟨j, -, f, hf, hprovider⟩ := exists_of_readThrough hb
  exact (hs.fitting (List.mem_map_of_mem (List.mem_of_getElem? hf))).2 b hprovider

end FrameStack.Regular

namespace Moment

variable {scene : Scene} {paired : Pairings → Prop} {m : Moment} {i : Nat} {a : Activation}

/-- An update that a handler at work calls for is one of a node whose output nobody knows yet. -/
theorem Due.unknown (hdue : m.Due scene paired) (hstep : m.step = .started i a) (hcalls : m.calls ≠ [])
    {k : String} (hk : a.requested? = some k) : m.state.stack.output? i ⟨a.node, k⟩ = none := by
  obtain ⟨st, calls, _⟩ := m
  obtain rfl : _ = Step.started i a := hstep
  have hpull : a.isSignal = false := by
    obtain ⟨_, _, _, _, cause⟩ := a
    cases cause
    · rfl
    · exact nomatch hk
  obtain ⟨-, -, hstarts⟩ := hdue
  rw [if_neg (by simp [hpull])] at hstarts
  obtain ⟨st₀, info, rfl, -, -, hsummoned⟩ := hstarts
  have hview : (st₀.enter i a).deeper.stack.view Frame.outputs = st₀.stack.view Frame.outputs :=
    FrameStack.view_modify (fun _ => rfl) fun _ => rfl
  refine (FrameStack.readThrough_of_view hview (·.get? a.node k) i).trans ?_
  rw [hk] at hsummoned
  cases hsummoned with
  | host _ idle => exact absurd idle hcalls
  | entrance _ bound unknown => exact unknown k
  | fetched active edge unknown => exact unknown

/-- Without linked scenes a handler that is started while others work updates a node that feeds the node of the
innermost one, for an output that feeds it. -/
theorem Due.feeds (hdue : m.Due scene fun _ => False) (hshown : m.Shown) (hstep : m.step = .started i a)
    {p : Nat × Activation} {rest : List (Nat × Activation)} (hposts : m.calls.posts = p :: rest)
    (hp : p.1 = i) : ∃ k, a.requested? = some k ∧
      scene.tables.executable.FeedsFrom ⟨a.node, k⟩ p.2.node := by
  obtain ⟨st, calls, _⟩ := m
  obtain rfl : _ = Step.started i a := hstep
  obtain ⟨hregular, -, hreason⟩ := hdue
  obtain ⟨hi, -, hshows⟩ := hshown i a rfl
  cases calls with
  | nil => exact nomatch hposts
  | cons g calls =>
    obtain ⟨rfl, -⟩ := List.cons.inj hposts
    obtain rfl : g.frame = i := hp
    by_cases hsignal : a.isSignal = true
    · rw [if_pos hsignal] at hreason
      rcases hreason with hnone | ⟨b, hb⟩
      · exact nomatch hnone
      · exact absurd hb (hregular.provider?_ne b)
    · rw [if_neg hsignal] at hreason
      obtain ⟨st₀, info, rfl, -, -, hsummoned⟩ := hreason
      -- the innermost active node of the frame is the one of the innermost handler
      have hactive : st₀.stack.active? g.frame = some g.current := by
        have hon := hshows g.frame
        change (st₀.stack.enter g.frame a).activeOn g.frame = _ at hon
        rw [FrameStack.activeOn_enter _ (by simpa using hi), if_pos rfl, CallStack.on_cons, if_pos rfl,
          CallStack.on_cons, if_pos rfl] at hon
        rw [FrameStack.active?_eq_head?, (List.cons.inj hon).2]
        rfl
      generalize hrequested : a.requested? = requested at hsummoned
      cases hsummoned with
      | host _ idle => exact nomatch idle
      | entrance _ bound unknown =>
        exact absurd ((FrameStack.provider?_enter _ _ _ _).trans bound) (hregular.provider?_ne _)
      | @fetched b socket k active edge unknown =>
        obtain rfl : b = g.current := Option.some.inj (active.symm.trans hactive)
        refine ⟨k, rfl, socket, ?_⟩
        rwa [Invocation.current, Activation.node_sent] at edge

end Moment

/-- Without cycles a post is fed by none of those that were taken before it. -/
theorem TakenIn.feeds {x : Executable} {h : List Moment}
    (hfeeds : ∀ m ∈ h, ∀ i a, m.step = .started i a → ∀ p rest, m.calls.posts = p :: rest →
      x.Feeds a.node p.2.node) {p : Nat × Activation} {rest : List (Nat × Activation)}
    (htaken : TakenIn h (p :: rest)) : ∀ q ∈ rest, Relation.TransGen x.Feeds p.2.node q.2.node := by
  induction rest generalizing p with
  | nil => exact nofun
  | cons p' rest ih =>
    obtain ⟨⟨m, hm, hstep, hposts⟩, hrest⟩ := htaken
    have hfirst := hfeeds m hm _ _ hstep p' rest hposts
    refine List.forall_mem_cons.2 ⟨.single hfirst, fun q hq => ?_⟩
    exact (ih hrest q hq).head hfirst

theorem TakenIn.exists {h : List Moment} {posts : List (Nat × Activation)} (htaken : TakenIn h posts) :
    ∀ p ∈ posts, ∃ m ∈ h, m.step = .started p.1 p.2 := by
  induction posts with
  | nil => exact nofun
  | cons p rest ih =>
    obtain ⟨⟨m, hm, hstep, -⟩, hrest⟩ := htaken
    exact List.forall_mem_cons.2 ⟨⟨m, hm, hstep⟩, ih hrest⟩

/-- The body of a call, after the changes that open its frames, in which no scene is linked. -/
structure Body.Unlinked (scene : Scene) (n : Nat) (opening ms : List Moment) : Prop extends Body n ms where
  due : ∀ m ∈ ms, m.Due scene fun _ => False
  shown : ∀ m ∈ ms, m.Shown
  posted : Roster.posts.Throughout (ms.reverse ++ opening)
  opening : ∀ m ∈ opening, m.step = .changed

namespace Body.Unlinked

variable {scene : Scene} {n : Nat} {opening ms later earlier : List Moment} {m : Moment} {i : Nat}
  {a : Activation} (h : Body.Unlinked scene n opening ms)
include h

theorem height_pos (hm : m ∈ ms) : 0 < m.state.stack.height := by
  rcases h.height m hm with hheight | hlinked
  · omega
  · have hlength := List.length_pos_of_mem hlinked
    rwa [FrameStack.outline, List.length_map] at hlength

omit h in
theorem mem_of_split (hsplit : ms.reverse = later ++ m :: earlier) : m ∈ ms ∧ ∀ m' ∈ earlier, m' ∈ ms := by
  have hmem (m') (hm' : m' ∈ m :: earlier) : m' ∈ ms :=
    List.mem_reverse.1 (hsplit ▸ List.mem_append_right later hm')
  exact ⟨hmem m List.mem_cons_self, fun m' hm' => hmem m' (List.mem_cons_of_mem _ hm')⟩

theorem mem_of_append (hm : m ∈ earlier ++ opening) (hstep : m.step ≠ .changed) : m ∈ earlier :=
  (List.mem_append.1 hm).resolve_right fun hm => hstep (h.opening m hm)

theorem regular (hm : m ∈ ms) (hstep : m.step = .started i a) :
    m.state.stack.Regular fun _ => False := by
  have hdue := h.due m hm
  rw [Moment.Due, hstep] at hdue
  exact hdue.1

theorem reaches (hm : m ∈ ms) : m.Reaches := by
  refine ⟨h.height_pos hm, fun i a script hstep => ?_⟩
  have hdue := h.due m hm
  rw [Moment.Due, hstep] at hdue
  exact hdue.1.zero_mem_lineage hdue.2.lt_height

/-- All handlers are started on the inner frame of the call. -/
theorem frame_eq (hm : m ∈ ms) (hstep : m.step = .started i a) : i = n + 1 := by
  have hregular := h.regular hm hstep
  obtain ⟨hi, hapart, -⟩ := h.shown m hm i a hstep
  have hheight : m.state.stack.height = n + 2 :=
    (h.height m hm).resolve_right hregular.false_not_mem_outline
  by_contra hne
  have hopen := hregular.isPermeable (i := i + 1) (by omega)
  exact nomatch hopen.symm.trans hapart

theorem posted_of_split (hsplit : ms.reverse = later ++ m :: earlier) :
    Posted (earlier ++ opening) m.calls := by
  have hposted := h.posted
  rw [hsplit, List.append_assoc, List.cons_append] at hposted
  exact hposted.split

/-- All handlers work on the inner frame of the call. -/
theorem frame_eq_of_posts (hm : m ∈ ms) : ∀ p ∈ m.calls.posts, p.1 = n + 1 := by
  obtain ⟨later, earlier, hsplit⟩ := List.append_of_mem (List.mem_reverse.2 hm)
  intro p hp
  obtain ⟨m', hm', hstep⟩ := (h.posted_of_split hsplit).taken.exists p hp
  exact h.frame_eq ((mem_of_split hsplit).2 m' (h.mem_of_append hm' (hstep ▸ nofun))) hstep

/-- A handler that is started while others work updates a node that feeds the node of the innermost one. -/
theorem feeds (hm : m ∈ ms) (hstep : m.step = .started i a) {p : Nat × Activation}
    {rest : List (Nat × Activation)} (hposts : m.calls.posts = p :: rest) :
    ∃ k, a.requested? = some k ∧ scene.tables.executable.FeedsFrom ⟨a.node, k⟩ p.2.node := by
  refine (h.due m hm).feeds (h.shown m hm) hstep hposts ?_
  rw [h.frame_eq hm hstep]
  exact h.frame_eq_of_posts hm p (hposts ▸ List.mem_cons_self)

/-- Whatever was pushed in the call is known to every handler that is started. -/
theorem output?_ne_none (hsplit : ms.reverse = later ++ m :: earlier) (hstep : m.step = .started i a)
    {l : Link} (hpushed : ∃ m' ∈ earlier, m'.pushed? = some l) : m.state.stack.output? i l ≠ none := by
  obtain ⟨hm, hearlier⟩ := mem_of_split hsplit
  obtain ⟨st₀, st', hcarries⟩ := h.carries
  have hnothing : Chronicle.pushes.tells [] st₀ := by
    rintro - l ⟨m', hm', -⟩
    cases hm'
  have htells := (hcarries .pushes hnothing).split hsplit (by simp [hstep])
  rw [List.append_nil] at htells
  have hrecalls := htells (fun m' hm' => h.reaches (hearlier m' hm')) l hpushed
  exact hrecalls.output?_ne_none ((h.regular hm hstep).zero_mem_lineage (h.shown m hm i a hstep).1)

/-- Nobody updates a node that is still at work for the one that asks. -/
theorem not_mem_posts (hacyclic : scene.tables.executable.Acyclic)
    (hsplit : ms.reverse = later ++ m :: earlier) (hstep : m.step = .started i a) :
    ∀ p ∈ m.calls.posts, p.2.node ≠ a.node := by
  obtain ⟨hm, hearlier⟩ := mem_of_split hsplit
  have htaken := (h.posted_of_split hsplit).taken
  intro p hp hnode
  cases hposts : m.calls.posts with
  | nil => exact nomatch hposts ▸ hp
  | cons q rest =>
    rw [hposts] at htaken hp
    obtain ⟨k, -, hfeeds⟩ := h.feeds hm hstep hposts
    have hchain := htaken.feeds (x := scene.tables.executable) fun m' hm' j b hstep' q rest hposts' => by
      obtain ⟨k, -, hfeeds⟩ :=
        h.feeds (hearlier m' (h.mem_of_append hm' (by simp [hstep']))) hstep' hposts'
      exact ⟨k, hfeeds⟩
    have hfirst : scene.tables.executable.Feeds a.node q.2.node := ⟨k, hfeeds⟩
    refine hacyclic a.node ?_
    rw [← hnode] at hfirst ⊢
    rcases List.mem_cons.1 hp with rfl | hp
    · exact .single hfirst
    · exact .head hfirst (hchain p hp)

/-- A node whose update is started has not been updated before in the call. -/
theorem not_updated_before (hacyclic : scene.tables.executable.Acyclic)
    (hproductive : Moment.Productive scene.tables.executable (ms.reverse ++ opening))
    (hsplit : ms.reverse = later ++ m :: earlier) {node : NodeId} (hnode : m.updating? = some node) :
    ∀ m' ∈ earlier, m'.updating? ≠ some node := by
  intro m' hm' hnode'
  obtain ⟨i, a, hstep, hpull, rfl⟩ := Moment.exists_of_updating? hnode
  obtain ⟨j, b, hstep', hpull', hsame⟩ := Moment.exists_of_updating? hnode'
  have hm := (mem_of_split hsplit).1
  -- another handler has asked for the update, since it is not the first one
  have hcalls : m.calls ≠ [] := by
    have hrooted := List.pairwise_reverse.2 h.rooted
    rw [hsplit] at hrooted
    have hlater := (List.pairwise_cons.1 (List.pairwise_append.1 hrooted).2.1).1 m' hm'
    exact hlater (by simp [hnode']) (by simp [hnode])
  rcases (h.posted_of_split hsplit).held m' (List.mem_append_left _ hm') j b hstep' with
    hpost | ⟨m₁, hm₁, outcome, hfinished⟩
  · exact h.not_mem_posts hacyclic hsplit hstep _ hpost hsame
  · obtain ⟨p, rest, hposts⟩ : ∃ p rest, m.calls.posts = p :: rest := by
      cases hcalls' : m.calls with
      | nil => exact absurd hcalls' hcalls
      | cons g calls => exact ⟨_, _, rfl⟩
    obtain ⟨k, hk, hfeeds⟩ := h.feeds hm hstep hposts
    -- its first update has pushed the output that is asked for
    obtain ⟨before, after, hbetween⟩ := List.append_of_mem hm₁
    have hupdated : m₁.updated? = some a.node := by simp [Moment.updated?, hfinished, hpull', hsame]
    rw [hsplit, List.append_assoc, List.cons_append, hbetween, ← List.cons_append, ← List.append_assoc]
      at hproductive
    obtain ⟨m₂, hm₂, hpushed⟩ := hproductive.split hupdated hfeeds
    have hm₂ : m₂ ∈ earlier := h.mem_of_append
      (hbetween ▸ List.mem_append_right _ (List.mem_cons_of_mem _ hm₂)) fun hchanged => by
        simp [Moment.pushed?, Moment.told, hchanged] at hpushed
    exact h.output?_ne_none hsplit hstep ⟨m₂, hm₂, hpushed⟩ ((h.due m hm).unknown hstep hcalls hk)

/-- No node is updated twice. -/
theorem nodup (hacyclic : scene.tables.executable.Acyclic)
    (hproductive : Moment.Productive scene.tables.executable (ms.reverse ++ opening)) :
    (ms.reverse.filterMap Moment.updating?).Nodup := by
  have hsplit {moments : List Moment} (hmoments : ∃ later, ms.reverse = later ++ moments) :
      (moments.filterMap Moment.updating?).Nodup := by
    induction moments with
    | nil => exact .nil
    | cons m earlier ih =>
      obtain ⟨later, hlater⟩ := hmoments
      have hearlier := ih ⟨later ++ [m], by rw [hlater]; simp⟩
      rw [List.filterMap_cons]
      split
      · exact hearlier
      · rename_i node hnode
        refine List.nodup_cons.2 ⟨fun hmem => ?_, hearlier⟩
        obtain ⟨m', hm', hnode'⟩ := List.mem_filterMap.1 hmem
        exact h.not_updated_before hacyclic hproductive hlater hnode m' hm' hnode'
  exact hsplit ⟨[], rfl⟩

end Body.Unlinked

/-- A call of the host on an engine at rest. An update that a handler asks for is started for an output only if
that output is not known yet on its frame, and a known output is fetched without any evaluation. And without
linked scenes and without cycles, if every update that is finished has pushed all outputs of its node that feed
an input, whatever its outcome, no node is updated twice. -/
theorem producers_run_once (s : Session History) (tables : Tables) (st : EngineState)
    (hactive : s.engine.active = some (tables, st)) (hresting : st.Resting) (hidle : s.seen.calls = [])
    (call : HostCall) (hcall : call ≠ .terminate) :
    ∃ new, (call.perform .history s).2.seen.moments = new ++ s.seen.moments ∧
      (∀ m ∈ new, ∀ i a k, m.step = .started i a → m.calls ≠ [] → a.requested? = some k →
        m.state.stack.output? i ⟨a.node, k⟩ = none) ∧
      (∀ {ω : Type} (below : Calls ω) (lookup : Lookup ω) i l v (run : Run ω),
        run.state.stack.output? i l = some v →
          resolveProducer below lookup i l run = (.ok (some v), run)) ∧
      ((∀ c a, (s.engine.scene tables).Instance c a → c.Links (fun _ _ => False) a) →
        tables.executable.Acyclic → Moment.Productive tables.executable new →
          (new.filterMap Moment.updating?).Nodup) := by
  obtain ⟨r, hrun, herrand⟩ := HostCall.errand_perform call hactive hcall
  obtain ⟨before, body, after, hmoments, hchanges, hbody⟩ := herrand.adds
  obtain ⟨hbefore, hafter⟩ := List.forall_mem_append.1 hchanges
  have hnew : (call.perform .history s).2.seen.moments = (before ++ body ++ after).reverse ++ s.seen.moments :=
    (congrArg (fun s => s.seen.moments) hrun).trans hmoments
  -- both ways to tell of the call tell of the same moments
  have hwarranted {paired : Pairings → Prop}
      (hlinks : ∀ c a, (s.engine.scene tables).Instance c a → c.Links (fun _ => paired) a) :
      ∀ m ∈ before ++ body ++ after, m.Due (s.engine.scene tables) paired := by
    obtain ⟨ms, hms, hwarranted⟩ := HostCall.warranted_perform hlinks hactive hresting hidle call hcall
    obtain rfl : ms = before ++ body ++ after :=
      List.reverse_inj.1 (List.append_cancel_right (hms.symm.trans hnew))
    exact hwarranted.due
  refine ⟨_, hnew, fun m hm i a k hstep hcalls hk => ?_,
    fun below lookup i l v run h => resolveProducer_of_known below lookup h,
    fun hlinks hacyclic hproductive => ?_⟩
  · have hdue : ∀ m ∈ before ++ body ++ after, m.Due (s.engine.scene tables) fun _ => True :=
      hwarranted fun c a _ => .unconditional c a
    exact (hdue m (List.mem_reverse.1 hm)).unknown hstep hcalls hk
  · obtain ⟨hposted, hshown⟩ := Roster.posts.of_resting hactive hresting hidle call hnew
    have hparts : (before ++ body ++ after).reverse = after.reverse ++ (body.reverse ++ before.reverse) := by
      simp
    rw [hparts] at hposted hproductive
    have hunlinked : Body.Unlinked (s.engine.scene tables) st.stack.height before.reverse body := by
      refine ⟨hbody, fun m hm => ?_, fun m hm => ?_, hposted.of_append, fun m hm => ?_⟩
      · exact hwarranted hlinks m (by simp [hm])
      · exact hshown.shown m (by simp [hm])
      · exact hbefore m (List.mem_reverse.1 hm)
    have hquiet {ms : List Moment} (hms : ∀ m ∈ ms, m.step = .changed) :
        ms.reverse.filterMap Moment.updating? = [] :=
      List.filterMap_eq_nil_iff.2 fun m hm => by rw [Moment.updating?, hms m (List.mem_reverse.1 hm)]
    rw [hparts, List.filterMap_append, List.filterMap_append, hquiet hbefore, hquiet hafter,
      List.nil_append, List.append_nil]
    exact hunlinked.nodup hacyclic hproductive.of_append

/-- A producer, and a component that fetches two inputs. -/
def sharedComponents : List Component :=
  [⟨"source", [], some fun _ => .push "v" (.int 1) .succeed, none⟩,
    ⟨"sink", [], some fun _ => .fetch "a" fun _ => .fetch "b" fun _ => .succeed, none⟩]

/-- Both inputs are fed by one output. -/
def sharedTables : Tables :=
  let edges : Table (List Link) :=
    (Table.empty.insert (socketKey "out" "a") [⟨"in", "v"⟩]).insert (socketKey "out" "b") [⟨"in", "v"⟩]
  ⟨.empty, ⟨(Table.empty.insert "in" ⟨"source", .empty⟩).insert "out" ⟨"sink", .empty⟩, edges, .empty⟩⟩

def sharedSession : Session History :=
  ⟨⟨.ofComponents sharedComponents, ⟨20, 20⟩, none, some (sharedTables, .fresh)⟩, .empty, [], []⟩

theorem feedsFrom_sharedTables {l : Link} {consumer : NodeId}
    (h : sharedTables.executable.FeedsFrom l consumer) : l = ⟨"in", "v"⟩ ∧ consumer ≠ "in" := by
  obtain ⟨socket, hmem⟩ := h
  rw [Executable.producers, sharedTables, Table.get?_insert, Table.get?_insert] at hmem
  have hkey {k : String} : socketKey "in" socket ≠ socketKey "out" k := by
    intro hkey
    have hhead := congrArg (fun key => key.toList.head?) hkey
    simp [socketKey] at hhead
  split_ifs at hmem with hb ha
  · refine ⟨List.eq_of_mem_singleton hmem, ?_⟩
    rintro rfl
    exact hkey hb
  · refine ⟨List.eq_of_mem_singleton hmem, ?_⟩
    rintro rfl
    exact hkey ha
  · exact nomatch hmem

theorem acyclic_sharedTables : sharedTables.executable.Acyclic := by
  intro node hcycle
  obtain ⟨_, ⟨k, hfirst⟩, -⟩ := Relation.TransGen.head'_iff.1 hcycle
  obtain ⟨_, -, k', hlast⟩ := Relation.TransGen.tail'_iff.1 hcycle
  exact (feedsFrom_sharedTables hlast).2 (congrArg Link.node (feedsFrom_sharedTables hfirst).1)

theorem links_sharedComponents {c : Component} {a : Activation}
    (hc : (sharedSession.engine.scene sharedTables).Instance c a) : c.Links (fun _ _ => False) a := by
  obtain ⟨info, cause, -, hget, -⟩ := hc
  have hmem := Registry.mem_of_get?_ofComponents hget
  simp only [sharedComponents, List.mem_cons, List.not_mem_nil, or_false] at hmem
  rcases hmem with rfl | rfl
  · exact ⟨fun _ h => Option.some.inj h ▸ trivial, nofun⟩
  · exact ⟨fun _ h => Option.some.inj h ▸ fun _ _ => trivial, nofun⟩

/-- When the update of the source is finished, its output has been pushed. -/
def pushesShared : List Moment → Bool
  | [] => true
  | m :: earlier => (m.updated? != some "in" || earlier.any fun m' => m'.pushed? == some ⟨"in", "v"⟩) &&
      pushesShared earlier

theorem productive_of_pushesShared {ms : List Moment} (h : pushesShared ms = true) :
    Moment.Productive sharedTables.executable ms := by
  induction ms with
  | nil => trivial
  | cons m earlier ih =>
    rw [pushesShared, Bool.and_eq_true, Bool.or_eq_true] at h
    refine ⟨fun node k consumer hnode hfeeds => ?_, ih h.2⟩
    obtain ⟨rfl, rfl⟩ := Link.mk.inj (feedsFrom_sharedTables hfeeds).1
    obtain ⟨m', hm', hpushed⟩ := List.any_eq_true.1 (h.1.resolve_left (by simp [hnode]))
    exact ⟨m', hm', by simpa using hpushed⟩

/-- The sink fetches the output of the source twice, and the source is updated once. -/
theorem producers_run_once_shared :
    ∃ new, ((HostCall.updateNode "out" none).perform .history sharedSession).2.seen.moments = new ∧
      new.filterMap Moment.updating? = ["in", "out"] ∧ (new.filterMap Moment.updating?).Nodup := by
  have hpushes : pushesShared ((HostCall.updateNode "out" none).perform .history
      sharedSession).2.seen.moments = true := by decide +kernel
  have hupdates : ((HostCall.updateNode "out" none).perform .history
      sharedSession).2.seen.moments.filterMap Moment.updating? = ["in", "out"] := by decide +kernel
  obtain ⟨new, hmoments, -, -, hnodup⟩ := producers_run_once sharedSession sharedTables .fresh rfl
    ⟨.empty, rfl⟩ rfl (.updateNode "out" none) nofun
  generalize ((HostCall.updateNode "out" none).perform .history sharedSession).2.seen.moments = moments
    at hpushes hupdates hmoments ⊢
  obtain rfl : moments = new := hmoments.trans (List.append_nil new)
  exact ⟨moments, rfl, hupdates, hnodup (fun _ _ => links_sharedComponents) acyclic_sharedTables
    (productive_of_pushesShared hpushes)⟩

end SocketGraph
