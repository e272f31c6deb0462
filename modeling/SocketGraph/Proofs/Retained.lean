import SocketGraph.Proofs.Marking
import SocketGraph.Proofs.Unbroken
import SocketGraph.Proofs.Shadowing

/-! Values that are retained. What is found from a frame is what has been written last above its root since
that root was opened, and a node mark on a frame is never older than that root; so whoever is served
because of the mark gets what the last handler of the node has left. -/
namespace SocketGraph

/-- What the first operation of a script writes. -/
def Script.keeps? : Script → Option (Cache × String × Value)
  | .push socket v _ => some (.output, socket, v)
  | .expose socket v _ => some (.exposed, socket, v)
  | _ => none

/-- The contents of a frame that handlers write. -/
def Frame.written (f : Frame) : SocketValues × SocketValues := (f.outputs, f.exposed)

namespace FrameStack

variable {s t : FrameStack} {i j : Nat} {cache : Cache}

theorem kept?_of_view (h : s.view Frame.written = t.view Frame.written) (hcache : cache ≠ .input)
    (i : Nat) (l : Link) : s.kept? i cache l = t.kept? i cache l := by
  cases cache with
  | output => exact readThrough_of_view h (fun w => w.1.get? l.node l.socket) i
  | exposed => exact readThrough_of_view h (fun w => w.2.get? l.node l.socket) i
  | input => exact absurd rfl hcache

theorem kept?_push (f : Frame) (h : i < s.height) (cache : Cache) (l : Link) :
    (s.push f).kept? i cache l = s.kept? i cache l := readThrough_push f _ h

/-- A stack with a frame is the rest of it with that frame on top. -/
theorem exists_push_pop (h : 0 < s.height) : ∃ f, s = s.pop.push f := by
  obtain ⟨fs⟩ := s
  have hne : fs ≠ [] := List.ne_nil_of_length_pos h
  exact ⟨fs.getLast hne, congrArg mk (List.dropLast_concat_getLast hne).symm⟩

end FrameStack

theorem Script.effect_of_keeps? {script : Script} {cache : Cache} {socket : String} {v : Value}
    (h : script.keeps? = some (cache, socket, v)) (i : Nat) (a : Activation) (st : EngineState) :
    script.effect i a st = { st with stack := st.stack.keep i cache ⟨a.node, socket⟩ v } := by
  cases script <;> obtain ⟨⟩ := h <;> rfl

/-- An operation that writes nothing keeps what has been written. -/
theorem Script.view_effect {script : Script} (h : script.keeps? = none) (i : Nat) (a : Activation)
    (st : EngineState) :
    (script.effect i a st).stack.view Frame.written = st.stack.view Frame.written := by
  cases script with
  | push | expose => exact nomatch h
  | exposeSignal =>
    rw [effect]
    split_ifs
    · exact FrameStack.view_writeThrough (fun _ => rfl) fun _ => rfl
    · rfl
  | forward =>
    rw [effect]
    split_ifs
    · exact FrameStack.view_modify (fun _ => rfl) fun _ => rfl
    · rfl
  | mark target scope next =>
    cases scope with
    | frame | root => exact FrameStack.view_modify (fun _ => rfl) fun _ => rfl
    | forever => rfl
  | _ => rfl

/-- The value that a handler writes to a socket above a root in a moment. -/
def Moment.writes? (cache : Cache) (l : Link) (r : Nat) (m : Moment) : Option Value :=
  match m.step with
  | .performed i a script =>
    match script.keeps? with
    | some (c, socket, v) =>
      if cache = c ∧ l = ⟨a.node, socket⟩ ∧ r = m.state.stack.root i then some v else none
    | none => none
  | _ => none

/-- The moments since a frame was opened, the latest first. -/
def since (r : Nat) (h : List Moment) : List Moment :=
  h.takeWhile fun m => decide (r < m.state.stack.height)

/-- The value that has been written last to a socket above a root since the root was opened. -/
def lastWritten (cache : Cache) (l : Link) (r : Nat) (h : List Moment) : Option Value :=
  (since r h).findSome? (Moment.writes? cache l r)

section
variable {cache : Cache} {l : Link} {r : Nat} {m : Moment} {h : List Moment}

theorem lastWritten_cons : lastWritten cache l r (m :: h) =
    if r < m.state.stack.height then (m.writes? cache l r).or (lastWritten cache l r h) else none := by
  unfold lastWritten since
  rw [List.takeWhile_cons]
  split_ifs with hr <;> simp_all [List.findSome?_cons, Option.or]
  cases m.writes? cache l r <;> rfl

theorem lastWritten_change (calls : CallStack) (st : EngineState) (hr : r < st.stack.height) :
    lastWritten cache l r (.change calls st :: h) = lastWritten cache l r h := by
  rw [lastWritten_cons]
  exact if_pos hr

/-- Nothing has been written above a frame that was not open in the latest moment. -/
theorem lastWritten_of_closed (hclosed : ∀ m ∈ h.head?, m.state.stack.height ≤ r) :
    lastWritten cache l r h = none := by
  cases h with
  | nil => rfl
  | cons m earlier => rw [lastWritten_cons, if_neg (Nat.not_lt.2 (hclosed m rfl))]

end

/-- What is found from the frames of a state has been written last above their roots. -/
structure EngineState.Retains (cache : Cache) (h : List Moment) (st : EngineState) : Prop where
  height : ∀ m ∈ h.head?, m.state.stack.height = st.stack.height
  kept : ∀ i < st.stack.height, ∀ l, st.stack.kept? i cache l =
    lastWritten cache l (st.stack.root i) h

namespace EngineState.Retains

variable {cache : Cache} {h : List Moment} {st st' : EngineState}

theorem fresh : Retains cache [] .fresh :=
  ⟨nofun, fun i hi => absurd hi (Nat.not_lt_zero i)⟩

/-- A moment in which nothing is written, in a state with the same contents. -/
theorem cons (hst : st.Retains cache h) {m : Moment} (hcache : cache ≠ .input)
    (hm : ∀ l r, m.writes? cache l r = none) (hheight : m.state.stack.height = st'.stack.height)
    (hview : st'.stack.view Frame.written = st.stack.view Frame.written) :
    st'.Retains cache (m :: h) where
  height := by
    rintro _ ⟨⟩
    exact hheight
  kept i hi l := by
    have hi' : i < st.stack.height := FrameStack.height_of_view hview ▸ hi
    rw [FrameStack.kept?_of_view hview hcache, hst.kept i hi', lastWritten_cons, hm, hheight,
      FrameStack.root_of_outline (FrameStack.outline_of_view hview),
      if_pos (FrameStack.height_of_view hview ▸ FrameStack.root_lt_height hi')]
    rfl

/-- A new frame that shares the contents of the frame below finds the same, another one nothing. -/
theorem push (hst : st.Retains cache h) (calls : CallStack) (permeable : Bool)
    (provider : Option FrameProvider) :
    (st.push (.fresh permeable provider)).Retains cache
      (.change calls (st.push (.fresh permeable provider)) :: h) where
  height := by
    rintro _ ⟨⟩
    rfl
  kept i hi l := by
    rw [lastWritten_change _ _ (FrameStack.root_lt_height hi)]
    change (st.stack.push _).kept? i cache l = lastWritten cache l ((st.stack.push _).root i) h
    have hheight : i < st.stack.height + 1 := (FrameStack.height_push _ _) ▸ hi
    by_cases htop : i = st.stack.height
    · subst htop
      rw [FrameStack.kept?, FrameStack.readThrough_push_height, FrameStack.root_push_height,
        Frame.kept?_fresh, Option.none_or]
      change (if permeable = true then _ else _) =
        lastWritten cache l (if permeable = true ∧ 0 < st.stack.height then _ else _) h
      by_cases hp : permeable = true ∧ 0 < st.stack.height
      · rw [if_pos hp.1, if_pos hp]
        exact hst.kept _ (Nat.sub_lt hp.2 Nat.one_pos) l
      · rw [if_neg hp, lastWritten_of_closed fun m hm => Nat.le_of_eq (hst.height m hm)]
        split_ifs with hpermeable
        · have hempty : st.stack.height = 0 := Nat.eq_zero_of_not_pos fun hpos => hp ⟨hpermeable, hpos⟩
          rw [FrameStack.top, hempty, FrameStack.readThrough_zero,
            FrameStack.frame?_eq_none_iff.2 (by omega)]
          rfl
        · rfl
    · have hlt : i < st.stack.height := by omega
      rw [FrameStack.kept?_push _ hlt, FrameStack.root_push _ hlt]
      exact hst.kept i hlt l

/-- The frames below one that is closed stay as they are. -/
theorem pop (hst : st.Retains cache h) (calls : CallStack) :
    st.closeFrame.Retains cache (.change calls st.closeFrame :: h) where
  height := by
    rintro _ ⟨⟩
    rfl
  kept i hi l := by
    rw [lastWritten_change _ _ (FrameStack.root_lt_height hi)]
    change st.stack.pop.kept? i cache l = lastWritten cache l (st.stack.pop.root i) h
    have hheight : i < st.stack.height - 1 := (FrameStack.height_pop _) ▸ hi
    have hkept := hst.kept i (by omega) l
    obtain ⟨f, hf⟩ := FrameStack.exists_push_pop (s := st.stack) (by omega)
    have hlt : i < st.stack.pop.height := hi
    rwa [hf, FrameStack.kept?_push f hlt, FrameStack.root_push f hlt] at hkept

theorem moved (hst : st.Retains cache h) (hcache : cache ≠ .input) (calls : CallStack)
    (hmove : st.Moves st') : st'.Retains cache (.change calls st' :: h) := by
  rcases hmove.view (g := Frame.written) (fun _ _ => rfl) (fun _ => rfl) (fun _ _ _ => rfl) with
    ⟨hview, -⟩ | ⟨permeable, provider, rfl⟩ | rfl
  · exact hst.cons hcache (fun _ _ => rfl) rfl hview
  · exact hst.push calls permeable provider
  · exact hst.pop calls

/-- What a handler writes where no permeable frame stands above is found from all frames with that root. -/
theorem performed (hst : st.Retains cache h) (hcache : cache ≠ .input) (calls : CallStack) {i : Nat}
    (a : Activation) (script : Script) (hi : i < st.stack.height)
    (hapart : st.stack.isPermeable (i + 1) = false) :
    (script.effect i a st).Retains cache (⟨st, calls, .performed i a script⟩ :: h) := by
  cases hkeeps : script.keeps? with
  | none =>
    have hview := script.view_effect hkeeps i a st
    refine hst.cons hcache (fun l r => ?_) (FrameStack.height_of_view hview).symm hview
    simp [Moment.writes?, hkeeps]
  | some kept =>
    obtain ⟨c, socket, v⟩ := kept
    rw [Script.effect_of_keeps? hkeeps]
    have hshape := FrameStack.shape_keep st.stack i c ⟨a.node, socket⟩ v
    refine ⟨by rintro _ ⟨⟩; exact (FrameStack.height_congr hshape).symm, fun j hj l => ?_⟩
    have hj : j < st.stack.height := FrameStack.height_congr hshape ▸ hj
    have hwrites : (⟨st, calls, .performed i a script⟩ : Moment).writes? cache l (st.stack.root j) =
        if cache = c ∧ l = ⟨a.node, socket⟩ ∧ st.stack.root j = st.stack.root i then some v else none := by
      simp [Moment.writes?, hkeeps]
    rw [FrameStack.kept?_keep_of_apart hi hapart hj, FrameStack.root_congr hshape, lastWritten_cons, hwrites,
      if_pos (FrameStack.root_lt_height hj), hst.kept j hj]
    split_ifs <;> rfl

end EngineState.Retains

/-- What a history tells of the values that are found in a state. -/
def Chronicle.values (cache : Cache) (hcache : cache ≠ .input) : Chronicle where
  tells h st := (∀ m ∈ h, m.Apart) → st.Retains cache h
  noted calls s hs ht hapart := by
    refine (ht (List.forall_mem_cons.1 hapart).2).cons hcache (fun _ _ => ?_) rfl rfl
    cases s <;> first | rfl | exact hs.elim
  moved calls hmove ht hapart := (ht (List.forall_mem_cons.1 hapart).2).moved hcache calls hmove
  wrote calls calls' i a script ht hapart := by
    obtain ⟨hperformed, hh⟩ := List.forall_mem_cons.1 (List.forall_mem_cons.1 hapart).2
    obtain ⟨hi, hiapart⟩ := hperformed i a script rfl
    exact ((ht hh).performed hcache calls a script hi hiapart).cons hcache (fun _ _ => rfl) rfl rfl
  idle calls i a script heffect ht hapart := by
    obtain ⟨hperformed, hh⟩ := List.forall_mem_cons.1 hapart
    obtain ⟨hi, hiapart⟩ := hperformed i a script rfl
    have hretains := (ht hh).performed hcache calls a script hi hiapart
    rwa [heffect] at hretains

/-- As long as the root is open and nothing is written, what was written last stays the same. -/
theorem lastWritten_append {cache : Cache} {l : Link} {r : Nat} {between before : List Moment}
    (h : ∀ m ∈ between, r < m.state.stack.height ∧ m.writes? cache l r = none) :
    lastWritten cache l r (between ++ before) = lastWritten cache l r before := by
  induction between with
  | nil => rfl
  | cons m between ih =>
    obtain ⟨⟨hopen, hnone⟩, hbetween⟩ := List.forall_mem_cons.1 h
    rw [List.cons_append, lastWritten_cons, if_pos hopen, hnone, Option.none_or, ih hbetween]

/-- A node is marked on a frame by a handler of that node that has worked above a root, and the root has
been open ever since. -/
def MarkedAbove (r : Nat) (node : NodeId) (frame : Nat) (h : List Moment) : Prop :=
  ∃ between m before i a target scope next, h = between ++ m :: before ∧
    m.step = .performed i a (.mark target scope next) ∧ a.node = node ∧ target.coversNode = true ∧
    (scope = .frame ∧ frame = i ∨ scope = .root ∧ frame = m.state.stack.root i) ∧
    m.state.stack.root i = r ∧ ∀ m' ∈ between ++ [m], r < m'.state.stack.height

section
variable {s s' : Session History} {tables : Tables} {st' : EngineState} {paired : Pairings → Prop}
  {ms later earlier : List Moment} {m : Moment}

/-- After an activation what is found in every state is told of. -/
theorem Session.GoesOn.retains (h : s.GoesOn s' tables .fresh ms st')
    (hapart : ∀ m ∈ ms.reverse, m.Apart) {cache : Cache} (hcache : cache ≠ .input)
    (hsplit : ms.reverse = later ++ m :: earlier) (hstep : m.step ≠ .changed) :
    m.state.Retains cache earlier := by
  have hcarries := h.carries (.values cache hcache) (h := []) fun _ => .fresh
  have htells := hcarries.split hsplit hstep
  rw [List.append_nil] at htells
  refine htells fun m' hm' => hapart m' ?_
  rw [hsplit]
  exact List.mem_append_right _ (List.mem_cons_of_mem _ hm')

/-- After an activation the frames that stay open stay as they are. -/
theorem Session.GoesOn.joins (h : s.GoesOn s' tables .fresh ms st')
    (hsplit : ms.reverse = later ++ m :: earlier) : (m :: earlier).IsChain Moment.Joins := by
  have hjoined := (h.carries .joints (h := []) (.nil _)).tells
  rw [List.append_nil] at hjoined
  exact (hsplit ▸ hjoined.chain).right_of_append

/-- A node mark on a frame or on its root was made above the same root. -/
theorem Session.Warrants.markedAbove (h : s.Warrants paired s' tables .fresh ms st')
    (hsplit : ms.reverse = later ++ m :: earlier) (hstep : m.step ≠ .changed) {i j : Nat}
    {node : NodeId} (hinner : m.state.stack.Inner i) (hj : j = i ∨ j = m.state.stack.root i)
    (hcarries : m.state.stack.Carries j (.node node)) :
    MarkedAbove (m.state.stack.root i) node j earlier := by
  have hroot := FrameStack.root_lt_height hinner.lt_height
  have hjlt : j < m.state.stack.height := hj.elim (· ▸ hinner.lt_height) (· ▸ hroot)
  obtain ⟨k, hlive, hextent, htarget, hnode⟩ :=
    ((h.marked hsplit hstep).frames j hjlt (.node node)).1 hcarries
  obtain ⟨between, m₀, before, hearlier, hmade, hopen⟩ := hlive.exists
  obtain ⟨i₀, a₀, target, scope, next, hstep₀, rfl⟩ := Moment.exists_of_marking? hmade
  refine ⟨between, m₀, before, i₀, a₀, target, scope, next, hearlier, hstep₀, hnode.symm, htarget, ?_⟩
  rcases hj with rfl | rfl
  · -- the mark is one of the frame itself, below which nothing has changed since
    rw [hinner.carried] at hextent
    cases scope with
    | frame =>
      obtain rfl : i₀ = j := Extent.on.inj hextent
      have hopen : ∀ m' ∈ between ++ [m₀], i₀ < m'.state.stack.height := hopen
      have hchain := h.toGoesOn.joins hsplit
      rw [hearlier] at hchain
      have htake := Moment.outline_take (p := i₀ + 1) hchain
        (List.forall_mem_cons.2 ⟨hinner.lt_height, hopen⟩)
      have hroot₀ := FrameStack.root_of_take htake (Nat.lt_succ_self i₀) hinner.lt_height
        (hopen m₀ (by simp))
      refine ⟨.inl ⟨rfl, rfl⟩, hroot₀.symm, fun m' hm' => ?_⟩
      exact Nat.lt_of_le_of_lt (FrameStack.root_le hinner.lt_height) (hopen m' hm')
    | root | forever => exact nomatch hextent
  · rw [FrameStack.carried_root hinner.lt_height] at hextent
    cases scope with
    | root =>
      have hroot₀ : m₀.state.stack.root i₀ = m.state.stack.root i := Extent.above.inj hextent
      exact ⟨.inr ⟨rfl, hroot₀.symm⟩, hroot₀, fun m' hm' => hroot₀ ▸ hopen m' hm'⟩
    | frame | forever => exact nomatch hextent

end

section
variable {ω : Type} {scene : Scene} (watch : Watcher ω) (below : Calls ω) {i : Nat} {node : NodeId} {info : NodeInfo}

/-- A node that needs no update is left as it is, and what it exposes is given. -/
theorem evaluateAt_of_marked (hnode : scene.tables.executable.node? node = some info) {run : Run ω}
    (hneeds : run.state.needsUpdate i node info.component = false) (requested : Option String) :
    (evaluateAt scene watch below i node requested run).1 = .ok (run.state.stack.exposedBy i node) :=
  congrArg Prod.fst (evaluateAt_eq_skipped watch below hnode hneeds requested)

end

/-- After an activation, whatever the host calls for, whenever a node is left as it is and a frame carries a
mark of that node, be it the frame of the evaluation or its root: the mark was made by a handler of the node
above the same root, which has been open ever since; the evaluation gives what handlers of the node have
exposed last above that root, and its outputs are what they have pushed last. What was found in an earlier
moment above that root, such as the end of the evaluation that made the mark, is found now, unless a handler
of the node has written again. -/
theorem marks_retain_values (s : Session History) (tables : Tables)
    (hfresh : s.engine.active = some (tables, .fresh)) (hidle : s.seen.calls = [])
    (calls : List HostCall) (hcalls : ∀ call ∈ calls, call ≠ .terminate) :
    ∃ new, (HostCall.performAll .history calls s).2.seen.moments = new ++ s.seen.moments ∧
      ∀ later m earlier i j node, new = later ++ m :: earlier → m.step = .skipped i node →
        (j = i ∨ j = m.state.stack.root i) → m.state.stack.Carries j (.node node) →
        let r := m.state.stack.root i
        MarkedAbove r node j earlier ∧
        (∀ {ω : Type} (watch : Watcher ω) (below : Calls ω) requested (run : Run ω),
          run.state = m.state → ∃ exposed,
            (evaluateAt (s.engine.scene tables) watch below i node requested run).1 = .ok exposed ∧
            ∀ k, exposed.get? k = lastWritten .exposed ⟨node, k⟩ r earlier) ∧
        (∀ k v, lastWritten .output ⟨node, k⟩ r earlier = some v →
          ∀ {ω : Type} (below : Calls ω) (lookup : Lookup ω) (run : Run ω), run.state = m.state →
            resolveProducer below lookup i ⟨node, k⟩ run = (.ok (some v), run)) ∧
        ∀ cache k between m₁ before i₁, cache ≠ .input → earlier = between ++ m₁ :: before →
          m₁.step ≠ .changed → i₁ < m₁.state.stack.height → m₁.state.stack.root i₁ = r →
          (∀ m' ∈ between ++ [m₁],
            r < m'.state.stack.height ∧ m'.writes? cache ⟨node, k⟩ r = none) →
          m₁.state.stack.kept? i₁ cache ⟨node, k⟩ = m.state.stack.kept? i cache ⟨node, k⟩ := by
  obtain ⟨ms, st, h⟩ := HostCall.warrants_activated hfresh hidle calls hcalls
  have hnew := congrArg History.moments h.seen
  have hapart := (Law.apartness s.engine.registry).of_since rfl hfresh hidle calls hnew
  refine ⟨ms.reverse, hnew, fun later m earlier i j node hsplit hstep hj hcarries => ?_⟩
  have hchanged : m.step ≠ .changed := hstep ▸ nofun
  -- the evaluation takes place on an inner frame, and the node is marked for it
  obtain ⟨hinner, info, hnode, hneeds⟩ : m.state.stack.Inner i ∧ ∃ info,
      tables.executable.node? node = some info ∧
        m.state.needsUpdate i node info.component = false := by
    have hdue := h.due hsplit
    rwa [Moment.Due, hstep] at hdue
  have hkept (cache : Cache) (hcache : cache ≠ .input) (l : Link) : m.state.stack.kept? i cache l =
      lastWritten cache l (m.state.stack.root i) earlier :=
    (h.retains hapart hcache hsplit hchanged).kept i hinner.lt_height l
  refine ⟨h.markedAbove hsplit hchanged hinner hj hcarries, ?_, ?_, ?_⟩
  · rintro ω watch below requested run hrun
    refine ⟨_, evaluateAt_of_marked watch below hnode (hrun ▸ hneeds) requested, fun k => ?_⟩
    rw [hrun, FrameStack.get?_exposedBy_eq_kept?, hkept .exposed nofun]
  · intro k v hv ω below lookup run hrun
    refine resolveProducer_of_known below lookup ?_
    rw [hrun]
    exact (hkept .output nofun _).trans hv
  · rintro cache k between m₁ before i₁ hcache rfl hchanged₁ hi₁ hroot hsince
    have hsplit₁ : ms.reverse = (later ++ m :: between) ++ m₁ :: before := by rw [hsplit]; simp
    rw [hkept cache hcache, List.append_cons, lastWritten_append hsince, ← hroot]
    exact (h.retains hapart hcache hsplit₁ hchanged₁).kept i₁ hi₁ _

/-- A component that exposes a value, pushes another one and marks its nodes above the root. -/
def retainingComponent : Component :=
  ⟨"kept", [], some fun _ => .expose "e" (.int 1) (.push "v" (.int 2) (.mark .node .root .succeed)), none⟩

def retainingTables : Tables := ⟨.empty, ⟨Table.empty.insert "n" ⟨"kept", .empty⟩, .empty, .empty⟩⟩

def retainingSession : Session History :=
  ⟨⟨.ofComponents [retainingComponent], ⟨20, 20⟩, none, some (retainingTables, .fresh)⟩, .empty, [], []⟩

/-- A bracket in which a node is updated twice. -/
def retainingCalls : List HostCall := [.beginCycle, .updateNode "n" none, .updateNode "n" none]

/-- The second update is left out, and the output is the one that the first update has pushed. -/
theorem marks_retain_values_kept :
    ∃ later m earlier, (HostCall.performAll .history retainingCalls retainingSession).2.seen.moments =
        later ++ m :: earlier ∧ m.step = .skipped 2 "n" ∧ MarkedAbove 0 "n" 0 earlier ∧
      ∀ {ω : Type} (below : Calls ω) (lookup : Lookup ω) (run : Run ω), run.state = m.state →
        resolveProducer below lookup 2 ⟨"n", "v"⟩ run = (.ok (some (.int 2)), run) := by
  have hskipped : (HostCall.performAll .history retainingCalls retainingSession).2.seen.moments[2]?.any
      (fun m => match m.step with
        | .skipped i node => i == 2 && node == "n" && m.state.stack.root 2 == 0 &&
          (m.state.stack.frame? 0).any (·.marks.nodes.contains "n")
        | _ => false) = true := by decide +kernel
  have hpushed : lastWritten .output ⟨"n", "v"⟩ 0
      ((HostCall.performAll .history retainingCalls retainingSession).2.seen.moments.drop 3) =
        some (.int 2) := by decide +kernel
  obtain ⟨new, hmoments, hnew⟩ := marks_retain_values retainingSession retainingTables rfl rfl
    retainingCalls (by simp [retainingCalls])
  generalize (HostCall.performAll .history retainingCalls retainingSession).2.seen.moments = moments
    at hskipped hpushed hmoments ⊢
  obtain rfl : moments = new := hmoments.trans (List.append_nil new)
  obtain ⟨m, hm, hmarked⟩ := (Option.any_eq_true _ _).1 hskipped
  obtain ⟨hlt, rfl⟩ := List.getElem?_eq_some_iff.1 hm
  have hsplit : moments = moments.take 2 ++ moments[2] :: moments.drop 3 := by
    rw [← List.drop_eq_getElem_cons hlt, List.take_append_drop]
  split at hmarked
  · rename_i i node hstep
    simp only [Bool.and_eq_true, beq_iff_eq, Option.any_eq_true] at hmarked
    obtain ⟨⟨⟨rfl, rfl⟩, hroot⟩, f, hf, hnodes⟩ := hmarked
    have hcarries : moments[2].state.stack.Carries 0 (.node "n") := ⟨f, hf, List.contains_iff_mem.1 hnodes⟩
    obtain ⟨habove, -, hproducer, -⟩ :=
      hnew _ _ _ 2 0 "n" hsplit hstep (.inr hroot.symm) hcarries
    rw [hroot] at habove hproducer
    exact ⟨_, _, _, hsplit, hstep, habove, fun below lookup run hrun =>
      hproducer "v" (.int 2) hpushed below lookup run hrun⟩
  · exact nomatch hmarked

end SocketGraph
