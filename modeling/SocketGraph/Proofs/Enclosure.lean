import SocketGraph.Component.Gateway
import SocketGraph.Proofs.Alike
import SocketGraph.Proofs.Realms
import SocketGraph.Proofs.Supplies

/-! Enclosures: what a gateway sets off when it is pulled. Its scene is at work on frames that share nothing with the
frame of the gateway, and on that frame nothing is done but the work of the gateway. What is asked of the gateways
around is either answered from what they have, or worked out on frames that share nothing with the frame of the
gateway either. So two runs that differ there only in what is kept for hidden nodes go on alike. -/
namespace SocketGraph

/-- A frame without its contents, and without what its active nodes are told and forward. -/
def Frame.posts (f : Frame) : Option FrameProvider × List (NodeId × List Socket) :=
  (f.provider, f.active.map fun a => (a.node, a.sockets))

/-- A change of what is kept on a frame, whatever it is and for whomever. -/
structure Frame.Fills (change : Frame → Frame) : Prop where
  blind : Frame.Blind change
  permeable : ∀ f, (change f).permeable = f.permeable
  posts : ∀ f, (change f).posts = f.posts

namespace Frame.Fills

theorem putOutput (l : Link) (v : Value) : Fills (·.putOutput l v) := ⟨Blind.putOutput l v, fun _ => rfl, fun _ => rfl⟩

theorem putInput (l : Link) (v : Value) : Fills (·.putInput l v) := ⟨Blind.putInput l v, fun _ => rfl, fun _ => rfl⟩

theorem putExposed (l : Link) (v : Value) : Fills (·.putExposed l v) := ⟨Blind.putExposed l v, fun _ => rfl, fun _ => rfl⟩

theorem addSignal (l : Link) : Fills (·.addSignal l) := ⟨Blind.addSignal l, fun _ => rfl, fun _ => rfl⟩

theorem mark (target : MarkTarget) (node : NodeId) (component : String) : Fills (·.mark target node component) :=
  ⟨Blind.mark target node component, fun _ => rfl, fun _ => rfl⟩

theorem forward (socket : String) : Fills (·.updateActive (·.forward socket)) := by
  refine ⟨Blind.updateActive _, fun _ => rfl, fun f => ?_⟩
  have hsockets (a : Activation) : (a.forward socket).sockets = a.sockets := by
    obtain ⟨_, _, _, _, cause⟩ := a
    cases cause <;> rfl
  simp only [Frame.posts, Frame.updateActive]
  cases f.active <;> simp [hsockets]

end Frame.Fills

/-- Where gateways are pulled: their frame, the frames from `low` up to `high` that share contents with it or stand
above it, and the nodes that may be at work for them. Frames from `high` on are those of their scenes. If `asks`,
nodes may be evaluated for the gateways around, which is done below `low`; if not, the gateways `around` owe whatever
they are asked for. What is kept below `high` for hidden nodes is left out of account. -/
structure Enclosure where
  pulled : NodeId → Prop
  caller : Nat
  low : Nat
  high : Nat
  realm : Realm
  asks : Prop
  around : Nat → Prop
  owed : Nat → String → Option Value → Prop
  hidden : Nat → NodeId → Prop
  opened : Prop

namespace Enclosure

/-- The frames that nodes may be at work on. -/
def Open (e : Enclosure) (i : Nat) : Prop := e.high ≤ i ∨ e.asks ∧ i < e.low

/-- The frames that inputs may be fetched on. -/
def Reaches (e : Enclosure) (i : Nat) : Prop := i = e.caller ∨ e.Open i

/-- The frames that others cannot write on. -/
def Kept (e : Enclosure) (j : Nat) : Prop := j < e.high ∧ (e.asks → e.low ≤ j)

/-- What may be written there for whom: on the frame of the gateways for the gateways, and further below for those
around. -/
def Served (e : Enclosure) (j : Nat) (node : NodeId) : Prop := j < e.low ∨ e.pulled node

/-- The sockets that may be asked for from outside. -/
def Asked (e : Enclosure) (scene : Scene) (l : Link) : Prop :=
  e.realm.nodes l.node ∨ ∃ g socket, e.pulled g ∧ l ∈ scene.tables.executable.producers g socket

/-- The enclosure once a scene is opened. -/
def opening (e : Enclosure) : Enclosure := { e with opened := True }

/-- How the frame of the gateways stands, be one of them at work or not. -/
structure Stands (e : Enclosure) (scene : Scene) (s : FrameStack) : Prop where
  low_le : e.low ≤ e.caller
  caller_lt : e.caller < e.high
  high_le : e.high ≤ s.height
  rooted : ∀ j ∈ s.lineage e.caller, e.low ≤ j
  bound : e.asks → ∀ i f b, i < e.low → s.frame? i = some f → f.posts.1 = some (.gateway b) → b.caller < e.low
  outward : e.asks → ∀ b, s.provider? e.caller = some (.gateway b) → b.caller < e.low
  passed : ¬ e.asks → ∀ j b, j = e.caller ∨ e.around j → s.provider? j = some (.gateway b) → e.around b.caller ∧
    ∀ l, e.Asked scene l → ∀ own, b.pairings.socketFor? l = some own → ∃ v, e.owed b.caller own v
  lower : ∀ j, e.around j → j < e.low
  apart : ∀ j k, e.around j → e.around k → j ≠ k → ∀ m ∈ s.lineage j, m ∉ s.lineage k
  owing : ¬ e.asks → ∀ j own v, e.around j → e.owed j own v → scene.Owes s j own v

/-- The frames while a gateway is at work. -/
structure Holds (e : Enclosure) (scene : Scene) (s : FrameStack) : Prop extends e.Stands scene s where
  opened : e.opened → e.high < s.height
  closed : s.isPermeable e.high = false
  inner : ∀ i f b, e.high ≤ i → s.frame? i = some f → f.posts.1 = some (.gateway b) → e.Reaches b.caller
  working : ∀ i f, e.high ≤ i → s.frame? i = some f → ∀ post ∈ f.posts.2, e.realm.nodes post.1
  gateway : ∀ a, s.active? e.caller = some a → e.pulled a.node ∧ a.sockets = []

/-- What an enclosure leaves of a run. -/
structure Spares {ω : Type} (e : Enclosure) (scene : Scene) (r r' : Run ω) : Prop where
  view : r'.state.stack.view Frame.posts = r.state.stack.view Frame.posts
  nesting : r'.state.nesting = r.state.nesting
  kept : r.state.stack.AlikeOn e.Kept e.Served r'.state.stack
  owing : ¬ e.asks → ∀ j own v, e.around j → scene.Owes r.state.stack j own v → scene.Owes r'.state.stack j own v
  forever : ¬ e.realm.lasting → r'.state.forever = r.state.forever
  counters : ¬ e.realm.counts → r'.counters = r.counters

/-- Two runs that differ at most in what is kept for hidden nodes, and in counters that nobody asks. -/
structure Matches {ω : Type} (e : Enclosure) (r r' : Run ω) : Prop where
  state : r.state.Alike e.high e.hidden r'.state
  counters : e.realm.counts → r.counters = r'.counters

/-- An action goes on alike in two runs. -/
structure Agrees {ω α : Type} (e : Enclosure) (x : Action ω α) (r r' : Run ω) : Prop where
  answer : (x r).1 = (x r').1
  alike : e.Matches (x r).2 (x r').2

/-- An action that keeps to the enclosure, and goes on alike whenever the frames are as the enclosure needs them. -/
structure Keeps {ω α : Type} (e : Enclosure) (scene : Scene) (x : Action ω α) : Prop where
  spares : ∀ r : Run ω, e.Holds scene r.state.stack → e.Spares scene r (x r).2
  agrees : ∀ r r' : Run ω, e.Holds scene r.state.stack → e.Holds scene r'.state.stack → e.Matches r r' →
    e.Agrees x r r'

variable {e : Enclosure} {scene : Scene} {s t : FrameStack} {i : Nat} {ω α β : Type}

theorem Open.not_kept (hi : e.Open i) : ¬ e.Kept i := by
  rintro ⟨hlt, hlow⟩
  rcases hi with hi | ⟨hasks, hi⟩
  · omega
  · exact absurd (hlow hasks) (Nat.not_le.2 hi)

/-- Where nobody is asked, nodes are at work on the frames of the scene alone. -/
theorem Open.high_le (hi : e.Open i) (hasks : ¬ e.asks) : e.high ≤ i := hi.resolve_right fun h => hasks h.1

namespace Stands

theorem low_lt (h : e.Stands scene s) : e.low < e.high := Nat.lt_of_le_of_lt h.low_le h.caller_lt

theorem congr (hview : t.view Frame.posts = s.view Frame.posts)
    (howing : ¬ e.asks → ∀ j own v, e.around j → e.owed j own v → scene.Owes t j own v) (h : e.Stands scene s) :
    e.Stands scene t := by
  have houtline := FrameStack.outline_of_view hview
  have hprovider (j : Nat) : t.provider? j = s.provider? j := FrameStack.readThrough_of_view hview Prod.fst j
  refine ⟨h.low_le, h.caller_lt, FrameStack.height_of_view hview ▸ h.high_le, ?_, ?_, ?_, ?_, h.lower, ?_, howing⟩
  · rw [FrameStack.lineage_of_outline houtline]
    exact h.rooted
  · intro hasks i f b hi hf hb
    have hframe := FrameStack.frame?_of_view hview i
    rw [hf] at hframe
    obtain ⟨f', hf', hposts⟩ := Option.map_eq_some_iff.1 hframe.symm
    exact h.bound hasks i f' b hi hf' (hposts ▸ hb)
  · intro hasks b hb
    exact h.outward hasks b ((hprovider _).symm.trans hb)
  · intro hasks j b hj hb
    exact h.passed hasks j b hj ((hprovider j).symm.trans hb)
  · intro j k hj hk hne
    rw [FrameStack.lineage_of_outline houtline, FrameStack.lineage_of_outline houtline]
    exact h.apart j k hj hk hne

/-- The frames below some height are all that the frame of the gateways needs. -/
theorem of_frame?_eq (hheight : e.high ≤ t.height) (hframes : ∀ j < e.high, s.frame? j = t.frame? j)
    (h : e.Stands scene s) : e.Stands scene t := by
  have hbelow {j : Nat} (hj : j < e.high) : ∀ k ≤ j, s.frame? k = t.frame? k :=
    fun k hk => hframes k (Nat.lt_of_le_of_lt hk hj)
  have hlow {j : Nat} (hj : e.around j) : j < e.high := Nat.lt_trans (h.lower j hj) h.low_lt
  have hprovider {j : Nat} (hj : j < e.high) : t.provider? j = s.provider? j :=
    (FrameStack.readThrough_of_frame?_eq (hbelow hj)).symm
  have hlineage {j : Nat} (hj : j < e.high) : t.lineage j = s.lineage j :=
    (FrameStack.lineage_of_frame?_eq (hbelow hj)).symm
  refine ⟨h.low_le, h.caller_lt, hheight, ?_, ?_, ?_, ?_, h.lower, ?_, ?_⟩
  · rw [hlineage h.caller_lt]
    exact h.rooted
  · intro hasks i f b hi hf hb
    exact h.bound hasks i f b hi ((hframes i (Nat.lt_trans hi h.low_lt)).trans hf) hb
  · intro hasks b hb
    exact h.outward hasks b ((hprovider h.caller_lt).symm.trans hb)
  · rintro hasks j b (rfl | hj) hb
    · exact h.passed hasks _ b (.inl rfl) ((hprovider h.caller_lt).symm.trans hb)
    · exact h.passed hasks j b (.inr hj) ((hprovider (hlow hj)).symm.trans hb)
  · intro j k hj hk hne
    rw [hlineage (hlow hj), hlineage (hlow hk)]
    exact h.apart j k hj hk hne
  · intro hasks j own v hj howed
    exact (h.owing hasks j own v hj howed).congr (hbelow (hlow hj))

theorem opening (h : e.Stands scene s) : e.opening.Stands scene s :=
  ⟨h.low_le, h.caller_lt, h.high_le, h.rooted, h.bound, h.outward, h.passed, h.lower, h.apart, h.owing⟩

theorem spared {r r' : Run ω} (h : e.Stands scene r.state.stack) (hspares : e.Spares scene r r') :
    e.Stands scene r'.state.stack :=
  h.congr hspares.view fun hasks j own v hj howed => hspares.owing hasks j own v hj (h.owing hasks j own v hj howed)

/-- A node becomes active on a frame where none of the gateways around is at work. -/
theorem enter (h : e.Stands scene s) (hi : ¬ e.asks → e.low ≤ i) (a : Activation) :
    e.Stands scene (s.enter i a) := by
  refine ⟨h.low_le, h.caller_lt, by simpa using h.high_le, by simpa using h.rooted, ?_, ?_, ?_, h.lower, ?_, ?_⟩
  · intro hasks j f b hj hf hb
    rw [FrameStack.enter, FrameStack.frame?_modify] at hf
    split_ifs at hf
    · obtain ⟨f', hf', rfl⟩ := Option.map_eq_some_iff.1 hf
      exact h.bound hasks j f' b hj hf' hb
    · exact h.bound hasks j f b hj hf hb
  · simpa only [FrameStack.provider?_enter] using h.outward
  · simpa only [FrameStack.provider?_enter] using h.passed
  · simpa only [FrameStack.lineage_enter] using h.apart
  · intro hasks j own v hj howed
    refine (h.owing hasks j own v hj howed).congr fun k hk => ?_
    have hj := h.lower j hj
    have hi := hi hasks
    rw [FrameStack.enter, FrameStack.frame?_modify, if_neg (by omega)]

end Stands

namespace Holds

theorem congr (hview : t.view Frame.posts = s.view Frame.posts)
    (howing : ¬ e.asks → ∀ j own v, e.around j → e.owed j own v → scene.Owes t j own v) (h : e.Holds scene s) :
    e.Holds scene t := by
  have houtline := FrameStack.outline_of_view hview
  have hframe {i : Nat} {f : Frame} (hf : t.frame? i = some f) :
      ∃ f', s.frame? i = some f' ∧ f'.posts = f.posts := by
    have hi := FrameStack.frame?_of_view hview i
    rw [hf] at hi
    exact Option.map_eq_some_iff.1 hi.symm
  refine ⟨h.toStands.congr hview howing, fun ho => FrameStack.height_of_view hview ▸ h.opened ho, ?_, ?_, ?_, ?_⟩
  · rw [FrameStack.isPermeable_of_outline houtline]
    exact h.closed
  · intro i f b hi hf hb
    obtain ⟨f', hf', hposts⟩ := hframe hf
    exact h.inner i f' b hi hf' (hposts ▸ hb)
  · intro i f hi hf post hpost
    obtain ⟨f', hf', hposts⟩ := hframe hf
    exact h.working i f' hi hf' post (hposts ▸ hpost)
  · intro a ha
    obtain ⟨f, hf, hhead⟩ := Option.bind_eq_some_iff.1 ha
    obtain ⟨f', hf', hposts⟩ := hframe hf
    have hactive := congrArg (fun posts => (Prod.snd posts).head?) hposts
    simp only [Frame.posts, List.head?_map, hhead, Option.map_some] at hactive
    obtain ⟨a', ha', hsame⟩ := Option.map_eq_some_iff.1 hactive
    obtain ⟨hnode, hsockets⟩ := Prod.mk.inj hsame
    rw [← hnode, ← hsockets]
    exact h.gateway a' (by rw [FrameStack.active?, hf']; exact ha')

theorem spared {r r' : Run ω} (h : e.Holds scene r.state.stack) (hspares : e.Spares scene r r') :
    e.Holds scene r'.state.stack :=
  h.congr hspares.view (h.toStands.spared hspares).owing

/-- Nobody on a frame of the scene sees the frames below. -/
theorem high_le_of_mem_lineage (h : e.Holds scene s) (hi : e.high ≤ i) : ∀ j ∈ s.lineage i, e.high ≤ j := by
  intro j hj
  obtain ⟨-, -, hpermeable⟩ := FrameStack.mem_lineage.1 hj
  by_contra hlow
  exact absurd (hpermeable e.high (by omega) hi) (by rw [h.closed]; exact Bool.false_ne_true)

theorem open_of_mem_lineage (h : e.Holds scene s) (hi : e.Open i) : ∀ j ∈ s.lineage i, e.Open j := by
  intro j hj
  rcases hi with hi | ⟨hasks, hi⟩
  · exact .inl (h.high_le_of_mem_lineage hi j hj)
  · exact .inr ⟨hasks, Nat.lt_of_le_of_lt (FrameStack.le_of_mem_lineage hj) hi⟩

theorem open_root (h : e.Holds scene s) (hi : e.Open i) : e.Open (s.root i) := by
  by_cases hpresent : i < s.height
  · exact h.open_of_mem_lineage hi _ (FrameStack.root_mem_lineage hpresent)
  · rwa [FrameStack.root, FrameStack.lineage, if_neg hpresent]

/-- Whoever answers on a frame that inputs are fetched on leads to another such frame. -/
theorem reaches_of_provider? (h : e.Holds scene s) (hi : e.Open i) {b : Binding}
    (hb : s.provider? i = some (.gateway b)) : e.Reaches b.caller := by
  obtain ⟨j, hj, f, hf, hprovider⟩ := FrameStack.exists_of_readThrough hb
  rcases h.open_of_mem_lineage hi j hj with hj | ⟨hasks, hj⟩
  · exact h.inner j f b hj hf hprovider
  · exact .inr (.inr ⟨hasks, h.bound hasks j f b hj hf hprovider⟩)

theorem push (h : e.Holds scene s) {permeable : Bool} {provider : Option FrameProvider}
    (hclosed : permeable = false ∨ e.high < s.height)
    (hinner : ∀ b, provider = some (.gateway b) → e.Reaches b.caller) :
    e.opening.Holds scene (s.push (.fresh permeable provider)) := by
  have hheight := FrameStack.height_push s (.fresh permeable provider)
  have hlower {j : Nat} (hj : j < e.high) : s.frame? j = (s.push (.fresh permeable provider)).frame? j :=
    (FrameStack.frame?_push_of_lt _ (Nat.lt_of_lt_of_le hj h.high_le)).symm
  have hstands : e.opening.Stands scene (s.push (.fresh permeable provider)) :=
    (h.toStands.of_frame?_eq (by have := h.high_le; omega) fun j hj => hlower hj).opening
  refine ⟨hstands, fun _ => ?_, ?_, ?_, ?_, ?_⟩
  · exact Nat.lt_of_le_of_lt h.high_le (by omega)
  · change (s.push _).isPermeable e.high = false
    rw [FrameStack.isPermeable_push]
    split_ifs with hhigh
    · exact hclosed.resolve_right (by omega)
    · exact h.closed
  · intro i f b hi hf hb
    rw [FrameStack.frame?_push] at hf
    split_ifs at hf
    · obtain rfl := Option.some.inj hf
      exact hinner b hb
    · exact h.inner i f b hi hf hb
  · intro i f hi hf post hpost
    rw [FrameStack.frame?_push] at hf
    split_ifs at hf
    · obtain rfl := Option.some.inj hf
      exact nomatch hpost
    · exact h.working i f hi hf post hpost
  · intro a ha
    rw [FrameStack.active?] at ha
    exact h.gateway a (by rwa [FrameStack.active?, hlower h.caller_lt])

/-- A node that may be at work becomes active on a frame that it may be at work on. -/
theorem enter (h : e.Holds scene s) (hi : e.Open i) {a : Activation} (ha : e.realm.nodes a.node) :
    e.Holds scene (s.enter i a) := by
  have hframe {j : Nat} {f : Frame} (hf : (s.enter i a).frame? j = some f) : ∃ f', s.frame? j = some f' ∧
      f'.provider = f.provider ∧ (f.active = f'.active ∨ f.active = a :: f'.active) := by
    rw [FrameStack.enter, FrameStack.frame?_modify] at hf
    split_ifs at hf
    · obtain ⟨f', hf', rfl⟩ := Option.map_eq_some_iff.1 hf
      exact ⟨f', hf', rfl, .inr rfl⟩
    · exact ⟨f, hf, rfl, .inl rfl⟩
  have hne : i ≠ e.caller := by
    rintro rfl
    exact hi.not_kept ⟨h.caller_lt, fun _ => h.low_le⟩
  have hlow (hasks : ¬ e.asks) : e.low ≤ i := Nat.le_trans (Nat.le_of_lt h.low_lt) (hi.high_le hasks)
  refine ⟨h.toStands.enter hlow a, by simpa using h.opened, by simpa using h.closed, ?_, ?_, ?_⟩
  · intro j f b hj hf hb
    obtain ⟨f', hf', hprovider, -⟩ := hframe hf
    exact h.inner j f' b hj hf' (hprovider.trans hb)
  · intro j f hj hf post hpost
    obtain ⟨f', hf', -, hactive⟩ := hframe hf
    rcases hactive with hactive | hactive
    · exact h.working j f' hj hf' post (by rwa [Frame.posts, hactive] at hpost)
    · rw [Frame.posts, hactive] at hpost
      rcases List.mem_cons.1 hpost with rfl | hpost
      · exact ha
      · exact h.working j f' hj hf' post hpost
  · intro a' ha'
    rw [FrameStack.active?_enter_of_ne hne] at ha'
    exact h.gateway a' ha'

end Holds

namespace Spares

variable {r r' r'' : Run ω}

/-- What a run tells besides its state and its counters does not matter. -/
theorem of_state_eq (hstate : r'.state = r.state) (hcounters : r'.counters = r.counters) : e.Spares scene r r' := by
  refine ⟨?_, ?_, ?_, ?_, fun _ => ?_, fun _ => hcounters⟩ <;> rw [hstate]
  · exact .refl _
  · exact fun _ _ _ _ _ h => h

theorem refl (r : Run ω) : e.Spares scene r r := of_state_eq rfl rfl

theorem of_opening (h : e.opening.Spares scene r r') : e.Spares scene r r' :=
  ⟨h.view, h.nesting, h.kept, h.owing, h.forever, h.counters⟩

theorem trans (h : e.Spares scene r r') (h' : e.Spares scene r' r'') : e.Spares scene r r'' where
  view := h'.view.trans h.view
  nesting := h'.nesting.trans h.nesting
  kept := h.kept.trans h'.kept
  owing hasks j own v hj hs := h'.owing hasks j own v hj (h.owing hasks j own v hj hs)
  forever hl := (h'.forever hl).trans (h.forever hl)
  counters hc := (h'.counters hc).trans (h.counters hc)

/-- What is done in a scope is done between opening two frames and closing them again. -/
theorem scope {r₁ r₂ : Run ω} {f f' : Frame} (hhigh : e.high ≤ r.state.stack.height)
    (hlow : ∀ j, e.around j → j < e.high) (hopened : r₁.state = (r.state.push f).push f')
    (hbefore : r₁.counters = r.counters) (h : e.Spares scene r₁ r₂) (hclosed : r'.state = r₂.state.closeBoth)
    (hafter : r'.counters = r₂.counters) : e.Spares scene r r' := by
  have hstack : r₁.state.stack = (r.state.stack.push f).push f' := congrArg EngineState.stack hopened
  have hheight : r₂.state.stack.height = r.state.stack.height + 2 := by
    rw [FrameStack.height_of_view h.view, hstack, FrameStack.height_push, FrameStack.height_push]
  have hopen {j : Nat} (hj : j < e.high) : r.state.stack.frame? j = r₁.state.stack.frame? j := by
    rw [hstack, FrameStack.frame?_push_of_lt, FrameStack.frame?_push_of_lt]
    · omega
    · rw [FrameStack.height_push]
      omega
  have hclose {j : Nat} (hj : j < e.high) : r₂.state.stack.frame? j = r'.state.stack.frame? j := by
    rw [hclosed, EngineState.closeBoth, EngineState.closeFrame, EngineState.closeFrame, FrameStack.frame?_pop,
      FrameStack.frame?_pop, FrameStack.height_pop, if_pos (by omega), if_pos (by omega)]
  refine ⟨?_, ?_, ?_, ?_, ?_, ?_⟩
  · rw [hclosed]
    exact EngineState.view_closeBoth (h.view.trans (congrArg _ hstack))
  · rw [hclosed]
    exact h.nesting.trans (congrArg (fun st => st.nesting) hopened :)
  · exact (FrameStack.AlikeOn.of_frame?_eq fun j hj => hopen hj.1).trans
      (h.kept.trans (.of_frame?_eq fun j hj => hclose hj.1))
  · intro hasks j own v hj hs
    have hj' : j < e.high := hlow j hj
    have hs₁ := hs.congr fun k hk => hopen (Nat.lt_of_le_of_lt hk hj')
    exact (h.owing hasks j own v hj hs₁).congr fun k hk => hclose (Nat.lt_of_le_of_lt hk hj')
  · intro hl
    rw [hclosed]
    exact (h.forever hl).trans (congrArg (fun st => st.forever) hopened :)
  · intro hc
    exact hafter.trans ((h.counters hc).trans hbefore)

end Spares

namespace Matches

variable {r r' r₁ r₁' : Run ω}

theorem pushBoth (hm : e.Matches r r') (hhigh : e.high ≤ r.state.stack.height) {f f' : Frame}
    (hopened : r₁.state = (r.state.push f).push f') (hbefore : r₁.counters = r.counters)
    (hopened' : r₁'.state = (r'.state.push f).push f') (hbefore' : r₁'.counters = r'.counters) :
    e.opening.Matches r₁ r₁' := by
  have hpush : e.high ≤ (r.state.stack.push f).height := by
    rw [FrameStack.height_push]
    omega
  refine ⟨?_, fun hc => hbefore.trans ((hm.counters hc).trans hbefore'.symm)⟩
  rw [hopened, hopened']
  exact ⟨(hm.state.stack.push hhigh f).push hpush f', hm.state.forever, hm.state.nesting⟩

/-- Two runs close frames of their own. -/
theorem closeBoth (hm : e.opening.Matches r₁ r₁') (hheight : e.high + 1 < r₁.state.stack.height)
    (hclosed : r.state = r₁.state.closeBoth) (hafter : r.counters = r₁.counters)
    (hclosed' : r'.state = r₁'.state.closeBoth) (hafter' : r'.counters = r₁'.counters) : e.Matches r r' := by
  have hpop : e.high < r₁.state.stack.pop.height := by
    rw [FrameStack.height_pop]
    exact Nat.lt_sub_of_add_lt hheight
  refine ⟨?_, fun hc => hafter.trans ((hm.counters hc).trans hafter'.symm)⟩
  rw [hclosed, hclosed']
  exact ⟨(hm.state.stack.pop (Nat.lt_of_succ_lt hheight)).pop hpop, hm.state.forever, hm.state.nesting⟩

end Matches

variable {watch : Watcher ω}

namespace Agrees

variable {x : Action ω α} {r r' : Run ω}

theorem bind {f : α → Action ω β} (hx : e.Agrees x r r') (hf : e.Agrees (f (x r).1) (x r).2 (x r').2) :
    e.Agrees (x >>= f) r r' := by
  have hrun : (x >>= f) r' = f (x r).1 (x r').2 := congrArg (f · (x r').2) hx.answer.symm
  exact ⟨(congrArg Prod.fst hrun).symm ▸ hf.answer, (congrArg Prod.snd hrun).symm ▸ hf.alike⟩

/-- The state is read for nothing but what both runs have in common. -/
theorem state_bind {f : EngineState → Action ω α} (hsame : f r.state = f r'.state)
    (hf : e.Agrees (f r.state) r r') : e.Agrees (Action.state >>= f) r r' := by
  have hrun : (Action.state >>= f) r' = f r.state r' := congrArg (· r') hsame.symm
  exact ⟨(congrArg Prod.fst hrun).symm ▸ hf.answer, (congrArg Prod.snd hrun).symm ▸ hf.alike⟩

end Agrees

theorem keeps_pure (a : α) : e.Keeps scene (pure a : Action ω α) :=
  ⟨fun r _ => .refl r, fun _ _ _ _ h => ⟨rfl, h⟩⟩

/-- What is known of every answer may be used. -/
theorem Keeps.bind_of {x : Action ω α} {f : α → Action ω β} {P : α → Prop} (hx : e.Keeps scene x)
    (hanswers : ∀ r, P (x r).1) (hf : ∀ a, P a → e.Keeps scene (f a)) : e.Keeps scene (x >>= f) := by
  constructor
  · intro r h
    have hr := hx.spares r h
    exact hr.trans ((hf _ (hanswers r)).spares _ (h.spared hr))
  · intro r r' h h' hm
    have hr := hx.agrees r r' h h' hm
    exact hr.bind ((hf _ (hanswers r)).agrees _ _ (h.spared (hx.spares r h)) (h'.spared (hx.spares r' h')) hr.alike)

theorem Keeps.bind {x : Action ω α} {f : α → Action ω β} (hx : e.Keeps scene x) (hf : ∀ a, e.Keeps scene (f a)) :
    e.Keeps scene (x >>= f) :=
  hx.bind_of (P := fun _ => True) (fun _ => trivial) fun a _ => hf a

theorem keeps_readStack {read : FrameStack → α}
    (hread : ∀ s t, e.Holds scene s → s.Alike e.high e.hidden t → read s = read t) :
    e.Keeps scene (Action.readStack read : Action ω α) :=
  ⟨fun r _ => .refl r, fun _ _ h _ hm => ⟨hread _ _ h hm.state.stack, hm⟩⟩

/-- What is known of what is read may be used. -/
theorem Keeps.readStack_bind {read : FrameStack → α} {f : α → Action ω β} (P : α → Prop)
    (hread : ∀ s t, e.Holds scene s → s.Alike e.high e.hidden t → read s = read t)
    (hP : ∀ s, e.Holds scene s → P (read s)) (hf : ∀ a, P a → e.Keeps scene (f a)) :
    e.Keeps scene (Action.readStack read >>= f) := by
  constructor
  · exact fun r h => (hf _ (hP _ h)).spares r h
  · intro r r' h h' hm
    have hr : e.Agrees (Action.readStack read) r r' := ⟨hread _ _ h hm.state.stack, hm⟩
    exact hr.bind ((hf _ (hP _ h)).agrees r r' h h' hm)

theorem Keeps.state_bind {f : EngineState → Action ω β}
    (hsame : ∀ st st', st.Alike e.high e.hidden st' → f st = f st') (hf : ∀ st, e.Keeps scene (f st)) :
    e.Keeps scene (Action.state >>= f) :=
  ⟨fun r h => (hf r.state).spares r h,
    fun r r' h h' hm => .state_bind (hsame _ _ hm.state) ((hf r.state).agrees r r' h h' hm)⟩

/-- Events and steps make no difference to the run. -/
theorem keeps_emit (event : Event) : e.Keeps scene (Action.emit watch event) :=
  ⟨fun _ _ => .of_state_eq rfl rfl, fun _ _ _ _ hm => ⟨rfl, hm.state, hm.counters⟩⟩

theorem keeps_log (m : Message) : e.Keeps scene (Action.log watch m) := keeps_emit _

theorem keeps_note (step : Step) : e.Keeps scene (Action.note watch step) :=
  ⟨fun _ _ => .of_state_eq rfl rfl, fun _ _ _ _ hm => ⟨rfl, hm.state, hm.counters⟩⟩

theorem keeps_count (hcounts : e.realm.counts) (name : String) :
    e.Keeps scene (Action.count name : Action ω Nat) := by
  constructor
  · exact fun r _ => ⟨rfl, rfl, .refl _, fun _ _ _ _ _ h => h, fun _ => rfl, fun h => absurd hcounts h⟩
  · intro r r' _ _ hm
    have hsame := hm.counters hcounts
    refine ⟨?_, hm.state, fun _ => ?_⟩
    · simp only [Action.count, hsame]
    · simp only [Action.count, hsame]

/-! What is written. -/

theorem keeps_changeStack {change : FrameStack → FrameStack}
    (hview : ∀ s, (change s).view Frame.posts = s.view Frame.posts)
    (hkept : ∀ s, e.Holds scene s → s.AlikeOn e.Kept e.Served (change s))
    (hbelow : ¬ e.asks → ∀ s, e.Holds scene s → ∀ j < e.low, s.frame? j = (change s).frame? j)
    (halike : ∀ s t, e.Holds scene s → s.Alike e.high e.hidden t → (change s).Alike e.high e.hidden (change t)) :
    e.Keeps scene (Action.changeStack watch change) := by
  constructor
  · intro r h
    refine ⟨hview _, rfl, hkept _ h, fun hasks j own v hj hs => ?_, fun _ => rfl, fun _ => rfl⟩
    exact hs.congr fun k hk => hbelow hasks _ h k (Nat.lt_of_le_of_lt hk (h.lower j hj))
  · intro r r' h h' hm
    exact ⟨rfl, ⟨halike _ _ h hm.state.stack, hm.state.forever, hm.state.nesting⟩, hm.counters⟩

/-- What is written on a frame that the writer may be at work on. -/
theorem keeps_modify {change : Frame → Frame} (hfills : Frame.Fills change) (index : FrameStack → Nat)
    (hindex : ∀ s, e.Holds scene s → e.Open (index s))
    (hsame : ∀ s t, s.Alike e.high e.hidden t → index s = index t) :
    e.Keeps scene (Action.changeStack watch fun s => s.modify (index s) change) := by
  refine keeps_changeStack (fun s => FrameStack.view_modify hfills.permeable hfills.posts)
    (fun s h => .modify_apart (hindex s h).not_kept change) (fun hasks s h j hj => ?_) fun s t h hst => ?_
  · have hopen := (hindex s h).high_le hasks
    have hlow := h.low_lt
    rw [FrameStack.frame?_modify, if_neg (by omega)]
  · rw [← hsame s t hst]
    exact hst.modify hfills.blind _

theorem keeps_write {change : Frame → Frame} (hfills : Frame.Fills change) (hi : e.Open i) :
    e.Keeps scene (Action.changeStack watch (·.writeThrough i change)) := by
  refine keeps_changeStack (fun s => FrameStack.view_writeThrough hfills.permeable hfills.posts)
    (fun s h => .writeThrough_apart (fun j hj => (h.open_of_mem_lineage hi j hj).not_kept) change)
    (fun hasks s h j hj => ?_) fun s t _ hst => hst.writeThrough hfills.blind i
  rw [FrameStack.frame?_writeThrough, if_neg fun hmem => ?_]
  have hopen := (h.open_of_mem_lineage hi j hmem).high_le hasks
  have hlow := h.low_lt
  omega

/-- What is kept for a gateway on its frame. -/
theorem keeps_serve {change : Frame → Frame} (hfills : Frame.Fills change)
    (hgateway : ∀ f, Frame.Alike e.pulled f (change f)) :
    e.Keeps scene (Action.changeStack watch (·.writeThrough e.caller change)) := by
  refine keeps_changeStack (fun s => FrameStack.view_writeThrough hfills.permeable hfills.posts)
    (fun s _ => .writeThrough_hidden fun j _ _ f => (hgateway f).mono fun _ => .inr) (fun _ s h j hj => ?_)
    fun s t _ hst => hst.writeThrough hfills.blind _
  rw [FrameStack.frame?_writeThrough, if_neg fun hmem => Nat.not_lt.2 (h.rooted j hmem) hj]

theorem keeps_mark (hi : e.Open i) (node : NodeId) (component : String) (target : MarkTarget) {scope : MarkScope}
    (hlasting : scope = .forever → e.realm.lasting) :
    e.Keeps scene (Action.changeState watch (·.mark i node component target scope)) := by
  cases scope with
  | frame => exact keeps_modify (.mark target node component) (fun _ => i) (fun _ _ => hi) fun _ _ _ => rfl
  | root =>
    exact keeps_modify (.mark target node component) (·.root i) (fun s h => h.open_root hi) fun s t hst =>
      FrameStack.root_congr hst.shape i
  | forever =>
    constructor
    · exact fun r _ => ⟨rfl, rfl, .refl _, fun _ _ _ _ _ h => h, fun h => absurd (hlasting rfl) h, fun _ => rfl⟩
    · intro r r' _ _ hm
      exact ⟨rfl, ⟨hm.state.stack, congrArg (·.add target node component) hm.state.forever, hm.state.nesting⟩,
        hm.counters⟩

/-! Nesting, scopes and activations. -/

/-- An action one nesting deeper. -/
theorem Keeps.nested {x : Action ω α} (hx : e.Keeps scene x) : e.Keeps scene (Action.nested watch x) := by
  constructor
  · intro r h
    have hr := hx.spares (r.change watch .deeper) h
    exact ⟨hr.view, congrArg (· - 1) hr.nesting, hr.kept, hr.owing, hr.forever, hr.counters⟩
  · intro r r' h h' hm
    have hr := hx.agrees (r.change watch .deeper) (r'.change watch .deeper) h h'
      ⟨⟨hm.state.stack, hm.state.forever, congrArg (· + 1) hm.state.nesting⟩, hm.counters⟩
    exact ⟨hr.answer, ⟨hr.alike.state.stack, hr.alike.state.forever, congrArg (· - 1) hr.alike.state.nesting⟩,
      hr.alike.counters⟩

/-- What is done in a scope is done on the frames that are opened, and leaves none of them. -/
theorem between_apply (watch : Watcher ω) (outer inner : Frame) (body : Nat → Action ω α) (r : Run ω) :
    ∃ r₁ : Run ω, (r₁.state = (r.state.push outer).push inner ∧ r₁.counters = r.counters) ∧
      let answer := body (r.state.stack.height + 1) r₁
      (Action.between watch outer inner body r).1 = answer.1 ∧
        (Action.between watch outer inner body r).2.state = answer.2.state.closeBoth ∧
        (Action.between watch outer inner body r).2.counters = answer.2.counters := by
  have htop : ((r.state.stack.push outer).push inner).top = r.state.stack.height + 1 := by
    rw [FrameStack.top_push, FrameStack.height_push]
  rw [← htop]
  exact ⟨(r.change watch (·.push outer)).change watch (·.push inner), ⟨rfl, rfl⟩, rfl, rfl, rfl⟩

/-- A scope on frames of the scene. The first frame that is opened there lets nothing through. -/
theorem Keeps.between {permeable permeable' : Bool} {provider provider' : Option FrameProvider}
    {body : Nat → Action ω α} (hclosed : permeable = false ∨ e.opened)
    (hinner : ∀ b, provider = some (.gateway b) → e.Reaches b.caller)
    (hinner' : ∀ b, provider' ≠ some (.gateway b)) (hbody : ∀ j, e.high ≤ j → e.opening.Keeps scene (body j)) :
    e.Keeps scene (Action.between watch (.fresh permeable provider) (.fresh permeable' provider') body) := by
  have hlower {s : FrameStack} (h : e.Holds scene s) (f : Frame) : e.high < (s.push f).height := by
    have := h.high_le
    rw [FrameStack.height_push]
    omega
  have hholds {r r₁ : Run ω} (h : e.Holds scene r.state.stack)
      (hopened : r₁.state = (r.state.push (.fresh permeable provider)).push (.fresh permeable' provider')) :
      e.opening.Holds scene r₁.state.stack := by
    rw [hopened]
    exact (h.push (hclosed.imp_right h.opened) hinner).push (.inr (hlower h _)) fun b hb => absurd hb (hinner' b)
  have hlow {r : Run ω} (h : e.Holds scene r.state.stack) (j : Nat) (hj : e.around j) : j < e.high :=
    Nat.lt_trans (h.lower j hj) h.low_lt
  constructor
  · intro r h
    obtain ⟨r₁, ⟨hopened, hbefore⟩, -, hstate, hafter⟩ :=
      between_apply watch (.fresh permeable provider) (.fresh permeable' provider') body r
    have hspares := (hbody _ (Nat.le_succ_of_le h.high_le)).spares r₁ (hholds h hopened)
    exact hspares.of_opening.scope h.high_le (hlow h) hopened hbefore hstate hafter
  · intro r r' h h' hm
    obtain ⟨r₁, ⟨hopened, hbefore⟩, hanswer, hstate, hafter⟩ :=
      between_apply watch (.fresh permeable provider) (.fresh permeable' provider') body r
    obtain ⟨r₁', ⟨hopened', hbefore'⟩, hanswer', hstate', hafter'⟩ :=
      between_apply watch (.fresh permeable provider) (.fresh permeable' provider') body r'
    rw [← hm.state.stack.height] at hanswer' hstate' hafter'
    have hmatches := hm.pushBoth h.high_le hopened hbefore hopened' hbefore'
    have hbody := hbody _ (Nat.le_succ_of_le h.high_le)
    have hr := hbody.agrees r₁ r₁' (hholds h hopened) (hholds h' hopened') hmatches
    have hheight : e.high + 1 < (body (r.state.stack.height + 1) r₁).2.state.stack.height := by
      rw [FrameStack.height_of_view (hbody.spares r₁ (hholds h hopened)).view, hopened]
      change _ < ((r.state.stack.push _).push _).height
      have := h.high_le
      rw [FrameStack.height_push, FrameStack.height_push]
      omega
    exact ⟨hanswer.trans (hr.answer.trans hanswer'.symm), hr.alike.closeBoth hheight hstate hafter hstate' hafter'⟩

/-- A scene that is linked on a frame which inputs may be fetched on. -/
theorem Keeps.sceneScope {body : Nat → Action ω α} (hi : e.Reaches i) (p : Pairings)
    (hbody : ∀ j, e.high ≤ j → e.opening.Keeps scene (body j)) :
    e.Keeps scene (Action.sceneScope watch i p body) := by
  refine Keeps.between (.inl rfl) (fun b hb => ?_) (fun b hb => nomatch hb) hbody
  obtain rfl : b = ⟨i, p⟩ := by simpa [eq_comm] using hb
  exact hi

/-- A node is active while an action is done. -/
def active (watch : Watcher ω) (i : Nat) (a : Activation) (x : Action ω α) : Action ω α := do
  Action.changeStack watch (·.enter i a)
  let answer ← x
  Action.changeStack watch (·.leave i)
  pure answer

/-- What is left of a run in which a node was active. -/
theorem Spares.left {a : Activation} {r r' : Run ω} (hbelow : ¬ e.asks → ∀ j < e.low, j ≠ i)
    (hlower : ∀ j, e.around j → j < e.low) (h : e.Spares scene (r.change watch (·.enter i a)) r') :
    e.Spares scene r (r'.change watch (·.leave i)) := by
  have hclear : (r.state.stack.enter i a).leave i = r.state.stack := FrameStack.leave_enter r.state.stack i a
  have hentered (hasks : ¬ e.asks) {j : Nat} (hj : e.around j) : ∀ k ≤ j, r.state.stack.frame? k =
      (r.state.stack.enter i a).frame? k := by
    intro k hk
    have hne := hbelow hasks k (Nat.lt_of_le_of_lt hk (hlower j hj))
    rw [FrameStack.enter, FrameStack.frame?_modify, if_neg hne.symm]
  have hleft (hasks : ¬ e.asks) {j : Nat} (hj : e.around j) : ∀ k ≤ j, r'.state.stack.frame? k =
      (r'.state.stack.leave i).frame? k := by
    intro k hk
    have hne := hbelow hasks k (Nat.lt_of_le_of_lt hk (hlower j hj))
    rw [FrameStack.leave, FrameStack.frame?_modify, if_neg hne.symm]
  refine ⟨?_, h.nesting, ?_, fun hasks j own v hj hs => ?_, h.forever, h.counters⟩
  · have hleave (f : Frame) : f.leave.posts = Prod.map id List.tail f.posts := Prod.ext rfl List.map_tail
    have hview := FrameStack.view_modify_congr i Frame.leave _ (fun _ => rfl) hleave h.view
    exact hview.trans (congrArg (FrameStack.view Frame.posts) hclear)
  · exact hclear ▸ h.kept.modify Frame.Blind.leave i
  · exact (h.owing hasks j own v hj (hs.congr (hentered hasks hj))).congr (hleft hasks hj)

theorem Agrees.active {x : Action ω α} {a : Activation} {r r' : Run ω} (hm : e.Matches r r')
    (hx : e.Matches (r.change watch (·.enter i a)) (r'.change watch (·.enter i a)) →
      e.Agrees x (r.change watch (·.enter i a)) (r'.change watch (·.enter i a))) :
    e.Agrees (active watch i a x) r r' := by
  have hr := hx ⟨⟨hm.state.stack.modify (Frame.Blind.enter a) i, hm.state.forever, hm.state.nesting⟩, hm.counters⟩
  exact ⟨hr.answer, ⟨hr.alike.state.stack.modify Frame.Blind.leave i, hr.alike.state.forever, hr.alike.state.nesting⟩,
    hr.alike.counters⟩

/-- A node that may be at work is active on a frame that it may be at work on. -/
theorem Keeps.active {x : Action ω α} (hi : e.Open i) {a : Activation} (ha : e.realm.nodes a.node)
    (hx : e.Keeps scene x) : e.Keeps scene (Enclosure.active watch i a x) := by
  constructor
  · intro r h
    refine (hx.spares (r.change watch (·.enter i a)) (h.enter hi ha)).left (fun hasks j hj => ?_) h.lower
    have hopen := hi.high_le hasks
    have hlow := h.low_lt
    omega
  · exact fun r r' h h' hm => .active hm (hx.agrees _ _ (h.enter hi ha) (h'.enter hi ha))

/-- A node that does nothing while it is active, on whatever frame. -/
theorem keeps_active_of_idle {x : Action ω α} (hsame : ∀ r r' : Run ω, r.state.nesting = r'.state.nesting →
      (x r).1 = (x r').1) (hidle : ∀ r, (x r).2.state = r.state ∧ (x r).2.counters = r.counters) (i : Nat)
    (a : Activation) : e.Keeps scene (Enclosure.active watch i a (Action.nested watch x)) := by
  let started (r : Run ω) : Run ω := (r.change watch (·.enter i a)).change watch .deeper
  have hstate (r : Run ω) : (Enclosure.active watch i a (Action.nested watch x) r).2.state = r.state := by
    change (x (started r)).2.state.shallower.leave i = r.state
    rw [(hidle _).1]
    change { r.state with stack := (r.state.stack.enter i a).leave i } = r.state
    rw [FrameStack.leave_enter]
  have hcounters (r : Run ω) : (Enclosure.active watch i a (Action.nested watch x) r).2.counters = r.counters :=
    (hidle (started r)).2
  constructor
  · exact fun r _ => .of_state_eq (hstate r) (hcounters r)
  · intro r r' _ _ hm
    refine ⟨hsame (started r) (started r') (congrArg (· + 1) hm.state.nesting), ?_, fun hc => ?_⟩
    · rw [hstate, hstate]
      exact hm.state
    · rw [hcounters, hcounters]
      exact hm.counters hc

end Enclosure
end SocketGraph
