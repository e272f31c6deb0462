import SocketGraph.Proofs.Seclusion
import SocketGraph.Proofs.Surroundings

/-! Isolated gateways. Each gateway that is pulled has the scene to itself: what it gives does not depend on the
gateways to the same nodes that have been pulled on the frame before, and nothing of the scene is left there but the
outputs of the gateway. Gateways in one linked scene share what the scenes around have to offer: what one of them has
made the gateways around work out, the next one finds done. -/
namespace SocketGraph

/-- A gateway to some nodes. What is fed into its own sockets comes from entry nodes. -/
structure Scene.GatewayTo (scene : Scene) (nodes : NodeId → Prop) (node : NodeId) : Prop where
  made : ∃ info, scene.tables.executable.node? node = some info ∧
    scene.registry.get? info.component = some Gateway.component ∧
    ∀ p, Gateway.pairings info.attributes = .ok p → ∀ socket target, p.get? socket = some target →
      nodes target.node
  fed : ∀ socket, ∀ l ∈ scene.tables.executable.producers node socket, scene.IsEntry l.node

namespace Scene.GatewayTo

variable {scene : Scene} {nodes nodes' : NodeId → Prop} {node : NodeId}

theorem mono (hsub : ∀ n, nodes n → nodes' n) (h : scene.GatewayTo nodes node) : scene.GatewayTo nodes' node := by
  obtain ⟨⟨info, hinfo, hget, htargets⟩, hfed⟩ := h
  exact ⟨⟨info, hinfo, hget, fun p hp socket target ht => hsub _ (htargets p hp socket target ht)⟩, hfed⟩

/-- An entry node is no gateway: it has a socket. -/
theorem not_isEntry (h : scene.GatewayTo nodes node) : ¬ scene.IsEntry node := by
  rintro ⟨info, typeTag, hinfo, hget⟩
  obtain ⟨info', hinfo', hget', -⟩ := h.made
  obtain rfl := Option.some.inj (hinfo.symm.trans hinfo')
  exact absurd (congrArg Component.sockets (Option.some.inj (hget.symm.trans hget'))) (List.cons_ne_nil _ _)

end Scene.GatewayTo

namespace Calls

variable {ω : Type}

/-- Evaluate some nodes on a frame, one after another. -/
def evaluateEach (calls : Calls ω) (frame : Nat) :
    List (NodeId × Option String) → Action ω (List (Outcome (Table Value)))
  | [] => pure []
  | (node, requested) :: rest => do
    let outcome ← calls.evaluate frame node requested
    let outcomes ← calls.evaluateEach frame rest
    pure (outcome :: outcomes)

/-- The `k`th of some nodes that are pulled one after another gives what it gives in another run, where it is pulled
alone: the same answer, and in the end it has the same outputs. -/
def PullsAs (calls : Calls ω) (frame : Nat) (pulls : List (NodeId × Option String)) (r : Run ω) (k : Nat)
    (r' : Run ω) : Prop :=
  ∀ g requested, pulls[k]? = some (g, requested) →
    let run := calls.evaluateEach frame pulls r
    let alone := calls.evaluate frame g requested r'
    run.1[k]? = some alone.1 ∧ ∀ socket,
      run.2.state.stack.output? frame ⟨g, socket⟩ = alone.2.state.stack.output? frame ⟨g, socket⟩

/-- The run in which the `k`th of some nodes is pulled. -/
def foundAt (calls : Calls ω) (frame : Nat) (pulls : List (NodeId × Option String)) (r : Run ω) (k : Nat) : Run ω :=
  (calls.evaluateEach frame (pulls.take k) r).2

/-- The nodes after the `k`th one go on from what it leaves. -/
theorem evaluateEach_getElem? (calls : Calls ω) (frame : Nat) {pulls : List (NodeId × Option String)} {k : Nat}
    {g : NodeId} {requested : Option String} (hk : pulls[k]? = some (g, requested)) (r : Run ω) :
    let pulled := calls.evaluate frame g requested (calls.foundAt frame pulls r k)
    (calls.evaluateEach frame pulls r).1[k]? = some pulled.1 ∧
      (calls.evaluateEach frame pulls r).2 = (calls.evaluateEach frame (pulls.drop (k + 1)) pulled.2).2 := by
  induction pulls generalizing k r with
  | nil => exact nomatch hk
  | cons p rest ih =>
    cases k with
    | zero =>
      obtain rfl : p = (g, requested) := Option.some.inj hk
      exact ⟨rfl, rfl⟩
    | succ k => exact ih hk (calls.evaluate frame p.1 p.2 r).2

end Calls

namespace Enclosure

variable {e : Enclosure} {ω : Type} {scene : Scene} {watch : Watcher ω} {below : Calls ω}
  {pulled hidden : NodeId → Prop} {s : FrameStack} {r r' : Run ω} {i : Nat}

/-- The enclosure of some of the gateways. What is kept for some others is left out of account. -/
def pulling (e : Enclosure) (pulled hidden : NodeId → Prop) : Enclosure :=
  { e with
    pulled := pulled
    hidden := fun j node => if j < e.low then ¬ e.asks else hidden node }

theorem hidden_pulling_of_lt {j : Nat} (hj : j < e.low) (node : NodeId) :
    (e.pulling pulled hidden).hidden j node ↔ ¬ e.asks := iff_of_eq (if_pos hj)

theorem hidden_pulling_of_le {j : Nat} (hj : e.low ≤ j) (node : NodeId) :
    (e.pulling pulled hidden).hidden j node ↔ hidden node := iff_of_eq (if_neg (Nat.not_lt.2 hj))

theorem Stands.pulling (hpulled : ∀ g, pulled g → e.pulled g) (h : e.Stands scene s) :
    (e.pulling pulled hidden).Stands scene s := by
  refine ⟨h.low_le, h.caller_lt, h.high_le, h.rooted, h.bound, h.outward, fun hasks j b hj hb => ?_, h.lower, h.apart,
    h.owing⟩
  obtain ⟨haround, howes⟩ := h.passed hasks j b hj hb
  exact ⟨haround, fun l hl => howes l (hl.imp_right fun ⟨g, socket, hg, hl⟩ => ⟨g, socket, hpulled g hg, hl⟩)⟩

/-- Gateways to the nodes of an enclosure, on a frame above which no scene is open yet. -/
structure Hosts (e : Enclosure) (scene : Scene) : Prop where
  secluded : scene.Secluded e.realm
  gateways : ∀ g, e.pulled g → scene.GatewayTo e.realm.nodes g
  asking : e.asks → ∀ node, e.realm.nodes node
  closed : ¬ e.opened

theorem Hosts.fits (h : e.Hosts scene) (hpulled : ∀ g, pulled g → e.pulled g) (hhidden : ∀ g, hidden g → e.pulled g)
    (hshown : ∀ g, pulled g → ¬ hidden g) : (e.pulling pulled hidden).Fits scene where
  secluded := h.secluded
  fed g hg := (h.gateways g (hpulled g hg)).fed
  gateways _ hj g hg hnode := hshown g hg ((hidden_pulling_of_le hj g).1 hnode)
  entries _ hj node hentry hnode :=
    (h.gateways node (hhidden node ((hidden_pulling_of_le hj node).1 hnode))).not_isEntry hentry
  asking hasks := ⟨h.asking hasks, fun _ hj node hnode => (hidden_pulling_of_lt hj node).1 hnode hasks⟩
  bare hasks _ hj node := (hidden_pulling_of_lt hj node).2 hasks

/-- When a gateway becomes active, no scene is open yet. -/
theorem Stands.holds_enter (h : e.Stands scene s) (hheight : s.height = e.high) (hopened : ¬ e.opened)
    {a : Activation} (ha : e.pulled a.node) (hsockets : a.sockets = []) : e.Holds scene (s.enter e.caller a) := by
  have hnone {i : Nat} (hi : e.high ≤ i) : (s.enter e.caller a).frame? i = none :=
    FrameStack.frame?_eq_none_iff.2 (by rwa [FrameStack.height_enter, hheight])
  refine ⟨h.enter (fun _ => h.low_le) a, fun ho => absurd ho hopened, ?_, ?_, ?_, ?_⟩
  · rw [FrameStack.isPermeable, hnone (Nat.le_refl _)]
    rfl
  · intro i f b hi hf
    simp [hnone hi] at hf
  · intro i f hi hf
    simp [hnone hi] at hf
  · intro a' ha'
    rw [FrameStack.active?_enter_self (hheight ▸ h.caller_lt)] at ha'
    obtain rfl := Option.some.inj ha'
    exact ⟨ha, hsockets⟩

theorem Spares.pulling_mono {pulled' hidden' : NodeId → Prop} (hsub : ∀ g, pulled g → pulled' g)
    (h : (e.pulling pulled hidden).Spares scene r r') : (e.pulling pulled' hidden').Spares scene r r' := by
  refine ⟨h.view, h.nesting, h.kept.mono fun j hj => ⟨hj, fun node => ?_⟩, h.owing, h.forever, h.counters⟩
  exact Or.imp_right (hsub node)

/-! The handler of a gateway. -/

theorem keeps_pushPaired {a : Activation} (ha : e.pulled a.node) (p : Pairings) (values : List (Link × Value)) :
    e.Keeps scene (perform scene watch below e.caller a (Gateway.pushPaired p .succeed values)) := by
  induction values with
  | nil => exact keeps_pure _
  | cons entry more ih =>
    obtain ⟨source, v⟩ := entry
    rw [Gateway.pushPaired]
    induction p.socketsFor source with
    | nil => exact ih
    | cons socket sockets ih' =>
      refine (keeps_note _).bind fun _ => Keeps.bind ?_ fun _ => ih'
      exact keeps_serve (.putOutput ⟨a.node, socket⟩ v) fun f => .putOutput_hidden f ha v

theorem keeps_update (hscenes : e.opening.KeepsCalls scene below) {a : Activation} (ha : e.pulled a.node)
    (htargets : ∀ p, Gateway.pairings a.attributes = .ok p → ∀ socket target, p.get? socket = some target →
      e.realm.nodes target.node) :
    e.Keeps scene (perform scene watch below e.caller a (Gateway.update a)) := by
  unfold Gateway.update Gateway.enter
  cases hp : Gateway.pairings a.attributes with
  | error problem => exact keeps_pure _
  | ok p =>
    cases a.requested? with
    | none => exact keeps_pure _
    | some socket =>
      dsimp only
      cases htarget : p.get? socket with
      | none => exact keeps_pure _
      | some target =>
        have hnode := htargets p hp socket target htarget
        dsimp only
        rw [perform, perform]
        refine (keeps_note _).bind fun _ => (keeps_emit _).bind fun _ => (keeps_note _).bind fun _ => ?_
        refine Keeps.bind ?_ fun answer => ?_
        · exact Keeps.sceneScope (.inl rfl) p fun j hj => hscenes.evaluate (.inl ⟨.inl hj, hnode⟩) _
        · cases answer with
          | error failure => exact keeps_pure _
          | ok exposed => exact keeps_pushPaired ha p _

theorem keeps_nested_update (hscenes : e.opening.KeepsCalls scene below) {g : NodeId} (hpulled : e.pulled g)
    (hgateway : scene.GatewayTo e.realm.nodes g) (requested : Option String) {info : NodeInfo} {c : Component}
    (hinfo : scene.tables.executable.node? g = some info) (hget : scene.registry.get? info.component = some c) :
    let a := c.activation g info.attributes (.pull requested)
    a.sockets = [] ∧ e.Keeps scene (Action.nested watch (runUpdate scene watch below e.caller c a)) := by
  obtain ⟨info', hinfo', hget', htargets⟩ := hgateway.made
  obtain rfl : info = info' := Option.some.inj (hinfo.symm.trans hinfo')
  obtain rfl : c = Gateway.component := Option.some.inj (hget.symm.trans hget')
  refine ⟨rfl, (keeps_runUpdate fun handler hhandler => ?_).nested⟩
  obtain rfl := Option.some.inj hhandler
  exact keeps_update hscenes hpulled htargets

/-- A run that stands on the frames where the gateways are pulled. -/
structure Pulls (e : Enclosure) (scene : Scene) (r : Run ω) : Prop where
  stands : e.Stands scene r.state.stack
  height : r.state.stack.height = e.high

theorem Pulls.pulling (hpulled : ∀ g, pulled g → e.pulled g) (h : e.Pulls scene r) :
    (e.pulling pulled hidden).Pulls scene r := ⟨h.stands.pulling hpulled, h.height⟩

theorem Pulls.spared (h : e.Pulls scene r) (hspares : (e.pulling pulled hidden).Spares scene r r') :
    e.Pulls scene r' where
  stands := h.stands.congr hspares.view fun hasks j own v hj howed =>
    hspares.owing hasks j own v hj (h.stands.owing hasks j own v hj howed)
  height := (FrameStack.height_of_view hspares.view).trans h.height

section
variable (h : e.Hosts scene) (watch : Watcher ω) (levels : Nat) (hr : e.Pulls scene r)
include h hr

/-- A gateway that is pulled leaves nothing on its frame but what is kept for it. -/
theorem spares_evaluate {g : NodeId} (hg : e.pulled g) (requested : Option String) :
    (e.pulling (· = g) fun _ => False).Spares scene r
      ((scene.calls watch levels).evaluate e.caller g requested r).2 := by
  have hpulled (n : NodeId) (hn : n = g) : e.pulled n := hn ▸ hg
  cases levels with
  | zero => exact .refl r
  | succ levels =>
    have hfits : (e.pulling (· = g) fun _ => False).Fits scene := h.fits hpulled (fun _ => False.elim) fun _ _ => id
    have hscenes : KeepsCalls _ scene (scene.calls watch levels) :=
      keeps_calls levels hfits.opening
    refine Spares.evaluateAt fun info c hinfo hget => ?_
    obtain ⟨hsockets, hupdate⟩ := keeps_nested_update hscenes rfl (h.gateways g hg) requested hinfo hget
    have hstands : (e.pulling (· = g) fun _ => False).Stands scene r.state.stack := hr.stands.pulling hpulled
    have hholds := hstands.holds_enter hr.height h.closed (a := c.activation g info.attributes _) rfl hsockets
    refine (hupdate.spares _ hholds).left (fun _ j hj => ?_) hstands.lower
    exact Nat.ne_of_lt (Nat.lt_of_lt_of_le hj hstands.low_le)

/-- It goes on alike whatever is kept for other gateways. -/
theorem agrees_evaluate (hr' : e.Pulls scene r') {g : NodeId} (hg : e.pulled g) (requested : Option String)
    (hhidden : ∀ n, hidden n → e.pulled n) (hshown : ¬ hidden g) (hm : (e.pulling (· = g) hidden).Matches r r') :
    (e.pulling (· = g) hidden).Agrees ((scene.calls watch levels).evaluate e.caller g requested) r r' := by
  have hpulled (n : NodeId) (hn : n = g) : e.pulled n := hn ▸ hg
  cases levels with
  | zero => exact ⟨rfl, hm⟩
  | succ levels =>
    have hfits : (e.pulling (· = g) hidden).Fits scene := h.fits hpulled hhidden fun _ hn => hn ▸ hshown
    have hscenes : KeepsCalls _ scene (scene.calls watch levels) := keeps_calls levels hfits.opening
    refine Agrees.evaluateAt hm fun info c hinfo hget => .active hm ?_
    obtain ⟨hsockets, hupdate⟩ := keeps_nested_update hscenes rfl (h.gateways g hg) requested hinfo hget
    have hholds {r : Run ω} (hr : (e.pulling (· = g) hidden).Pulls scene r) := hr.stands.holds_enter hr.height h.closed
      (a := c.activation g info.attributes (.pull requested)) rfl hsockets
    exact hupdate.agrees _ _ (hholds (hr.pulling hpulled)) (hholds (hr'.pulling hpulled))

theorem spares_evaluateEach {pulls : List (NodeId × Option String)} (hpulls : ∀ p ∈ pulls, e.pulled p.1) :
    (e.pulling (· ∈ pulls.map Prod.fst) fun _ => False).Spares scene r
      ((scene.calls watch levels).evaluateEach e.caller pulls r).2 := by
  induction pulls generalizing r with
  | nil => exact .refl r
  | cons p rest ih =>
    obtain ⟨hp, hrest⟩ := List.forall_mem_cons.1 hpulls
    have hfirst := spares_evaluate h watch levels hr hp p.2
    have hothers := ih (hr.spared hfirst) hrest
    refine (hfirst.pulling_mono fun g hg => ?_).trans (hothers.pulling_mono fun g hg => ?_)
    · exact hg ▸ List.mem_cons_self
    · exact List.mem_cons_of_mem _ hg

end

/-! What is seen from the frame of the gateways. -/

section
variable {α : Type} {node : NodeId} (hr : e.Pulls scene r) (h : e.Spares scene r r')
include hr h

theorem Spares.readThrough_eq {read : Frame → Option α}
    (hread : ∀ {f f'}, Frame.Alike e.pulled f f' → read f = read f') :
    r'.state.stack.readThrough e.caller read = r.state.stack.readThrough e.caller read := by
  have hlineage := FrameStack.lineage_of_outline (FrameStack.outline_of_view h.view) e.caller
  refine (h.kept.readThrough hlineage.symm fun j hj => ⟨⟨?_, fun _ => hr.stands.rooted j hj⟩, fun hf => ?_⟩).symm
  · exact Nat.lt_of_le_of_lt (FrameStack.le_of_mem_lineage hj) hr.stands.caller_lt
  · exact hread (hf.mono fun n hn => hn.resolve_left (Nat.not_lt.2 (hr.stands.rooted j hj)))

theorem Spares.output?_eq (hnode : ¬ e.pulled node) (socket : String) :
    r'.state.stack.output? e.caller ⟨node, socket⟩ = r.state.stack.output? e.caller ⟨node, socket⟩ :=
  h.readThrough_eq hr fun hf => hf.outputs node hnode socket

theorem Spares.exposed?_eq (l : Link) : r'.state.stack.exposed? e.caller l = r.state.stack.exposed? e.caller l :=
  h.readThrough_eq hr fun hf => by rw [hf.exposed]

/-- Frames that are not asked for what is kept for gateways tell the same, at least those that nodes are not at work
on. -/
theorem Spares.frame?_map_eq {g : Frame → α} {j : Nat} (hj : e.asks → e.low ≤ j)
    (hg : ∀ {hidden f f'}, Frame.Alike hidden f f' → g f = g f') :
    (r'.state.stack.frame? j).map g = (r.state.stack.frame? j).map g := by
  by_cases hlt : j < e.high
  · exact (h.kept.frame?_map ⟨hlt, hj⟩ hg).symm
  · have hheight := FrameStack.height_of_view h.view
    have hnone := hr.height
    rw [FrameStack.frame?_eq_none_iff.2 (by omega), FrameStack.frame?_eq_none_iff.2 (by omega)]

/-- Which nodes need an update depends on what is marked forever then. -/
theorem Spares.needsUpdate_eq (hroot : e.low ≤ r.state.stack.root e.caller) {component : String}
    (hforever : r'.state.forever.covers node component = r.state.forever.covers node component) :
    r'.state.needsUpdate e.caller node component = r.state.needsUpdate e.caller node component := by
  have hmarked {j : Nat} (hj : e.low ≤ j) :
      r'.state.stack.isMarked j node component = r.state.stack.isMarked j node component := by
    have hmarks := h.frame?_map_eq hr (fun _ => hj) Frame.Alike.marks
    have hcovers := congrArg (Option.any (·.covers node component)) hmarks
    simpa [FrameStack.isMarked, Option.any_map, Function.comp_def] using hcovers
  have hsame := FrameStack.root_of_outline (FrameStack.outline_of_view h.view) e.caller
  rw [EngineState.needsUpdate, EngineState.needsUpdate, hforever, hmarked hr.stands.low_le, hsame, hmarked hroot]

end

/-- Every gateway gives what it gives in a run that knows nothing of the gateways pulled before. -/
theorem pullsAs_of_matches (h : e.Hosts scene) (watch : Watcher ω) (levels : Nat)
    {pulls : List (NodeId × Option String)} (hpulls : ∀ p ∈ pulls, e.pulled p.1)
    (hdistinct : (pulls.map Prod.fst).Nodup) (hr : e.Pulls scene r) (hr' : e.Pulls scene r') (k : Nat)
    (hm : (e.pulling e.pulled (· ∈ (pulls.take k).map Prod.fst)).Matches
      ((scene.calls watch levels).foundAt e.caller pulls r k) r') :
    (scene.calls watch levels).PullsAs e.caller pulls r k r' := by
  intro g requested hk run alone
  obtain ⟨hanswer, hend⟩ := (scene.calls watch levels).evaluateEach_getElem? e.caller hk r
  have hmem := List.mem_of_getElem? hk
  have hg : e.pulled g := hpulls _ hmem
  -- the gateway is none of those before it, and none of those after it
  have hsplit : pulls = pulls.take k ++ (g, requested) :: pulls.drop (k + 1) := by
    obtain ⟨hlt, hget⟩ := List.getElem?_eq_some_iff.1 hk
    rw [← hget, List.getElem_cons_drop, List.take_append_drop]
  rw [hsplit, List.map_append, List.map_cons] at hdistinct
  obtain ⟨-, hlater, hearlier⟩ := List.nodup_append.1 hdistinct
  have hshown : g ∉ (pulls.take k).map Prod.fst := fun hmem => hearlier g hmem g List.mem_cons_self rfl
  have hothers : g ∉ (pulls.drop (k + 1)).map Prod.fst := (List.nodup_cons.1 hlater).1
  have hbefore : ∀ p ∈ pulls.take k, e.pulled p.1 := fun p hp => hpulls p (List.mem_of_mem_take hp)
  have hfound := hr.spared (spares_evaluateEach h watch levels hr hbefore)
  have hpulled := hfound.spared (spares_evaluate h watch levels hfound hg requested)
  have hafter : ∀ p ∈ pulls.drop (k + 1), e.pulled p.1 := fun p hp => hpulls p (List.mem_of_mem_drop hp)
  have hrest := spares_evaluateEach h watch levels hpulled hafter
  have hagrees := agrees_evaluate h watch levels hfound hr' hg requested (List.forall_mem_map.2 hbefore) hshown
    ⟨hm.state, hm.counters⟩
  refine ⟨hanswer.trans (congrArg some hagrees.answer), fun socket => ?_⟩
  have hlater := hrest.output?_eq (hpulled.pulling (List.forall_mem_map.2 hafter)) hothers socket
  refine (congrArg (·.state.stack.output? e.caller ⟨g, socket⟩) hend).trans (hlater.trans ?_)
  refine hagrees.alike.state.stack.output? fun j hj _ hhidden => ?_
  exact hshown ((hidden_pulling_of_le (hpulled.stands.rooted j hj) g).1 hhidden)

/-! The two kinds of enclosures. -/

/-- Gateways that may make the gateways around evaluate nodes. -/
def asking (s : FrameStack) (frame : Nat) (pulled : NodeId → Prop) (lasting : Prop) : Enclosure :=
  ⟨pulled, frame, s.root frame, s.height, .whole lasting, True, fun _ => False, fun _ _ _ => False, fun _ _ => False,
    False⟩

theorem pulls_asking (hframe : i < r.state.stack.height) (hbound : r.state.stack.Bound) (pulled : NodeId → Prop)
    (lasting : Prop) : (asking r.state.stack i pulled lasting).Pulls scene r := by
  refine ⟨⟨FrameStack.root_le hframe, hframe, Nat.le_refl _, fun j hj => FrameStack.root_le_of_mem_lineage hj, ?_, ?_,
    fun h => absurd trivial h, nofun, nofun, fun h => absurd trivial h⟩, rfl⟩
  · exact fun _ j f b hj hf hb => (hbound j f b hf hb).1.trans hj
  · exact fun _ b hb => hbound.caller_lt_root (hbound.binding?_of_provider? hb)

theorem hosts_asking {lasting : Prop} (hscene : scene.Secluded (.whole lasting))
    (hpulled : ∀ g, pulled g → ∃ nodes, scene.GatewayTo nodes g) (s : FrameStack) (i : Nat) :
    (asking s i pulled lasting).Hosts scene := by
  refine ⟨hscene, fun g hg => ?_, fun _ _ => trivial, id⟩
  obtain ⟨nodes, hg⟩ := hpulled g hg
  exact hg.mono fun _ _ => trivial

/-- Gateways all of whose questions the gateways around answer with what they have. -/
def supplied (scene : Scene) (s : FrameStack) (frame : Nat) (pulled nodes : NodeId → Prop) (signals : Prop) :
    Enclosure :=
  ⟨pulled, frame, s.root frame, s.height, ⟨nodes, signals, False, False⟩, False, s.Around frame, scene.Owes s,
    fun _ _ => False, False⟩

end Enclosure

/-- Whatever some nodes, and what feeds some gateways to them, may ask the gateways around a frame for is at hand
there. -/
def Scene.Stocked (scene : Scene) (s : FrameStack) (frame : Nat) (nodes pulled : NodeId → Prop) : Prop :=
  ∀ x ∈ s.enclosing frame, ∀ l,
    (nodes l.node ∨ ∃ g socket, pulled g ∧ l ∈ scene.tables.executable.producers g socket) →
      ∀ own, x.2.pairings.socketFor? l = some own → scene.Supplied s x.2.caller own

namespace Enclosure

variable {ω : Type} {scene : Scene} {pulled nodes : NodeId → Prop} {signals : Prop} {r : Run ω} {i : Nat}

theorem pulls_supplied (hframe : i < r.state.stack.height) (hbound : r.state.stack.Bound)
    (hstocked : scene.Stocked r.state.stack i nodes pulled) :
    (supplied scene r.state.stack i pulled nodes signals).Pulls scene r := by
  refine ⟨⟨FrameStack.root_le hframe, hframe, Nat.le_refl _, fun j hj => FrameStack.root_le_of_mem_lineage hj,
    False.elim, False.elim, fun _ j b hj hb => ?_, fun j hj => hbound.lt_root_of_around hframe hj,
    fun j k hj hk hne => hbound.lineages_apart hframe hj hk hne, fun _ j own v _ h => h⟩, rfl⟩
  have hmem := hbound.mem_enclosing hframe hj (hbound.binding?_of_provider? hb)
  exact ⟨⟨(j, b), hmem, rfl⟩, fun l hl own hown => ⟨_, hstocked (j, b) hmem l hl own hown, rfl⟩⟩

end Enclosure

/-- The run as it is now, but with the frames from some height on as they were before. -/
def Run.renewed {ω : Type} (low : Nat) (before now : Run ω) : Run ω :=
  { now with
    state := { now.state with
      stack := ⟨now.state.stack.frames.take low ++ before.state.stack.frames.drop low⟩ } }

/-- What is seen from a frame when some nodes have been pulled there: nothing has changed but the outputs of these
nodes. Whether a node is marked depends on what is marked forever then. -/
structure EngineState.Untouched (frame : Nat) (pulled : NodeId → Prop) (st st' : EngineState) : Prop where
  outputs : ∀ node, ¬ pulled node → ∀ socket,
    st'.stack.output? frame ⟨node, socket⟩ = st.stack.output? frame ⟨node, socket⟩
  exposed : ∀ l, st'.stack.exposed? frame l = st.stack.exposed? frame l
  signals : ∀ j, st.stack.root frame ≤ j →
    (st'.stack.frame? j).map Frame.signals = (st.stack.frame? j).map Frame.signals
  marks : ∀ j, st.stack.root frame ≤ j → (st'.stack.frame? j).map Frame.marks = (st.stack.frame? j).map Frame.marks
  updates : ∀ node component, st'.forever.covers node component = st.forever.covers node component →
    st'.needsUpdate frame node component = st.needsUpdate frame node component

section
variable {ω : Type} {r found r' : Run ω} {low j : Nat}

theorem Run.frame?_renewed_of_lt (hj : j < low) (hlow : low ≤ found.state.stack.height) :
    (r.renewed low found).state.stack.frame? j = found.state.stack.frame? j := by
  rw [FrameStack.frame?, renewed, FrameStack.frame?]
  have hlength : j < (found.state.stack.frames.take low).length := by
    rw [List.length_take]
    exact Nat.lt_min.2 ⟨hj, Nat.lt_of_lt_of_le hj hlow⟩
  rw [List.getElem?_append_left hlength, List.getElem?_take, if_pos hj]

theorem Run.frame?_renewed_of_le (hj : low ≤ j) (hlow : low ≤ found.state.stack.height) :
    (r.renewed low found).state.stack.frame? j = r.state.stack.frame? j := by
  rw [FrameStack.frame?, renewed, FrameStack.frame?]
  have hlength : (found.state.stack.frames.take low).length = low :=
    (List.length_take ..).trans (Nat.min_eq_left hlow)
  rw [List.getElem?_append_right (hlength.symm ▸ hj), hlength, List.getElem?_drop, Nat.add_sub_cancel' hj]

theorem Run.view_renewed {β : Type} {g : Frame → β} (h : found.state.stack.view g = r.state.stack.view g) :
    (r.renewed low found).state.stack.view g = r.state.stack.view g := by
  change (_ ++ _ : List Frame).map _ = _
  rw [List.map_append, List.map_take, List.map_drop]
  exact (congrArg (·.take low ++ (r.state.stack.view g).drop low) h).trans (List.take_append_drop low _)

end

namespace Enclosure

section
variable {e : Enclosure} {ω : Type} {scene : Scene} {pulled : NodeId → Prop} {r found r' : Run ω}
  (hr : e.Pulls scene r)
include hr

theorem Spares.untouched (h : e.Spares scene r r') (hlow : e.low = r.state.stack.root e.caller) :
    r.state.Untouched e.caller e.pulled r'.state where
  outputs _ hnode socket := h.output?_eq hr hnode socket
  exposed l := h.exposed?_eq hr l
  signals _ hj := h.frame?_map_eq hr (fun _ => hlow ▸ hj) Frame.Alike.signals
  marks _ hj := h.frame?_map_eq hr (fun _ => hlow ▸ hj) Frame.Alike.marks
  updates _ _ hforever := h.needsUpdate_eq hr (Nat.le_of_eq hlow) hforever

variable (hfound : (e.pulling pulled fun _ => False).Spares scene r found)
include hfound

/-- A run that has the frames of the gateways as they were is alike to the run that gateways have been pulled in, if
the frames below are. -/
theorem Pulls.alike_of_spares (habove : ∀ j, e.low ≤ j → r'.state.stack.frame? j = r.state.stack.frame? j)
    (hbelow : found.state.stack.AlikeOn (· < e.low) (e.pulling e.pulled pulled).hidden r'.state.stack) :
    found.state.stack.Alike e.high (e.pulling e.pulled pulled).hidden r'.state.stack := by
  constructor
  · intro j hj
    rcases Nat.lt_or_ge j e.low with hlow | hlow
    · exact hbelow j hlow
    · rw [habove j hlow]
      refine (hfound.kept.symm.mono (Q := (· = j)) fun k hk => ?_) j rfl
      subst hk
      refine ⟨⟨hj, fun _ => hlow⟩, fun node hnode => ?_⟩
      exact (hidden_pulling_of_le hlow node).2 (hnode.resolve_left (Nat.not_lt.2 hlow))
  · intro j hj
    have hheight := FrameStack.height_of_view hfound.view
    have hlow := hr.stands.low_lt
    have hnone := hr.height
    rw [habove j (by omega), FrameStack.frame?_eq_none_iff.2 (by omega), FrameStack.frame?_eq_none_iff.2 (by omega)]

theorem Pulls.matches_renewed (hasks : e.asks) (hstate : r'.state = (r.renewed e.low found).state)
    (hcounters : r'.counters = found.counters) :
    (e.pulling e.pulled pulled).Matches found r' ∧ e.Pulls scene r' := by
  have hheight := FrameStack.height_of_view hfound.view
  have hlow : e.low ≤ found.state.stack.height := by
    have hlt := hr.stands.low_lt
    have hhigh := hr.height
    omega
  have hstack : r'.state.stack = (r.renewed e.low found).state.stack := congrArg EngineState.stack hstate
  have hview : r'.state.stack.view Frame.posts = r.state.stack.view Frame.posts :=
    hstack ▸ Run.view_renewed hfound.view
  have halike : found.state.stack.Alike e.high (e.pulling e.pulled pulled).hidden r'.state.stack := by
    rw [hstack]
    exact hr.alike_of_spares hfound (fun j hj => Run.frame?_renewed_of_le hj hlow)
      (.of_frame?_eq fun j hj => (Run.frame?_renewed_of_lt hj hlow).symm)
  refine ⟨⟨⟨halike, ?_, ?_⟩, fun _ => hcounters.symm⟩, ?_, ?_⟩
  · exact (congrArg EngineState.forever hstate).symm
  · exact (congrArg EngineState.nesting hstate).symm
  · exact hr.stands.congr hview fun hnot => absurd hasks hnot
  · exact (FrameStack.height_of_view hview).trans hr.height

theorem Pulls.matches_of_supplied (hasks : ¬ e.asks) (hlasting : ¬ e.realm.lasting) (hcounts : ¬ e.realm.counts)
    (hstate : r'.state = r.state) : (e.pulling e.pulled pulled).Matches found r' := by
  have hbelow : r.state.stack.AlikeOn (· < e.low) (e.pulling e.pulled pulled).hidden found.state.stack := by
    refine hfound.kept.mono fun j hj => ⟨⟨Nat.lt_trans hj hr.stands.low_lt, fun h => absurd h hasks⟩, ?_⟩
    exact fun node _ => (hidden_pulling_of_lt hj node).2 hasks
  have halike : found.state.stack.Alike e.high (e.pulling e.pulled pulled).hidden r'.state.stack := by
    rw [hstate]
    exact hr.alike_of_spares hfound (fun _ _ => rfl) hbelow.symm
  refine ⟨⟨halike, ?_, ?_⟩, fun h => absurd h hcounts⟩
  · rw [hstate, hfound.forever hlasting]
  · rw [hstate, hfound.nesting]

end

end Enclosure

/-- Gateways that are pulled one after another on a frame, each found there by the next one. The bindings of the frames
lead down, as they do in every state that a host can bring about. After each of the gateways nothing has changed that is
seen from the frame but the outputs of the gateways pulled, and nothing is marked forever unless handlers of the scenes
around do so. Each gives what it gives when it is pulled alone on the frames as they were before the first one, if the
frames of the scenes around are as they are found, with what is marked forever or counted by then. If whatever is asked
for is at hand there, as it is on the frames of a call of the host, where nothing is asked for, then each gives what it
gives when it is pulled alone from the same state. -/
theorem gateways_isolated {ω : Type} (scene : Scene) (watch : Watcher ω) (levels frame : Nat)
    (nodes : NodeId → Prop) (signals : Prop) (hscene : scene.Secluded ⟨nodes, signals, False, False⟩)
    (pulls : List (NodeId × Option String)) (hgateways : ∀ p ∈ pulls, scene.GatewayTo nodes p.1)
    (hdistinct : (pulls.map Prod.fst).Nodup) (r : Run ω) (hframe : frame < r.state.stack.height)
    (hbound : r.state.stack.Bound) (k : Nat) :
    let calls := scene.calls watch levels
    let found := calls.foundAt frame pulls r k
    r.state.Untouched frame (· ∈ (pulls.take k).map Prod.fst) found.state ∧
    (scene.Secluded (.whole False) → found.state.forever = r.state.forever) ∧
    (∀ r' : Run ω, r'.state = (r.renewed (r.state.stack.root frame) found).state → r'.counters = found.counters →
      calls.PullsAs frame pulls r k r') ∧
    (scene.Stocked r.state.stack frame nodes (· ∈ pulls.map Prod.fst) →
      found.state.forever = r.state.forever ∧ found.counters = r.counters ∧
        ∀ r' : Run ω, r'.state = r.state → calls.PullsAs frame pulls r k r') := by
  intro calls found
  have hpulled : ∀ p ∈ pulls, p.1 ∈ pulls.map Prod.fst := fun p hp => List.mem_map_of_mem hp
  have hbefore : ∀ p ∈ pulls.take k, p.1 ∈ pulls.map Prod.fst := fun p hp => hpulled p (List.mem_of_mem_take hp)
  have hto : ∀ g ∈ pulls.map Prod.fst, scene.GatewayTo nodes g := List.forall_mem_map.2 hgateways
  have hearlier : ∀ g ∈ (pulls.take k).map Prod.fst, g ∈ pulls.map Prod.fst := List.forall_mem_map.2 hbefore
  -- in any case the gateways around may be asked, and whatever nodes they make work
  let asking (lasting : Prop) := Enclosure.asking r.state.stack frame (· ∈ pulls.map Prod.fst) lasting
  have hhosts {lasting : Prop} (hwhole : scene.Secluded (.whole lasting)) : (asking lasting).Hosts scene :=
    Enclosure.hosts_asking hwhole (fun g hg => ⟨nodes, hto g hg⟩) r.state.stack frame
  have hr (lasting : Prop) : (asking lasting).Pulls scene r := Enclosure.pulls_asking hframe hbound _ lasting
  have hspares {lasting : Prop} (hwhole : scene.Secluded (.whole lasting)) :=
    Enclosure.spares_evaluateEach (hhosts hwhole) watch levels (hr lasting) hbefore
  refine ⟨?_, fun hwhole => (hspares hwhole).forever id, fun r' hstate hcounters => ?_, fun hstocked => ?_⟩
  · exact (hspares scene.secluded_whole).untouched ((hr True).pulling hearlier) rfl
  · have hfound := hspares scene.secluded_whole
    obtain ⟨hm, hr'⟩ := (hr True).matches_renewed hfound trivial hstate hcounters
    exact Enclosure.pullsAs_of_matches (hhosts scene.secluded_whole) watch levels hpulled hdistinct (hr True) hr' k hm
  · let supplied := Enclosure.supplied scene r.state.stack frame (· ∈ pulls.map Prod.fst) nodes signals
    have hr : supplied.Pulls scene r := Enclosure.pulls_supplied hframe hbound hstocked
    have hhosts : supplied.Hosts scene := ⟨hscene, hto, False.elim, id⟩
    have hspares := Enclosure.spares_evaluateEach hhosts watch levels hr hbefore
    refine ⟨hspares.forever id, hspares.counters id, fun r' hstate => ?_⟩
    have hr' : supplied.Pulls scene r' := ⟨hstate ▸ hr.stands, hstate ▸ hr.height⟩
    have hm := hr.matches_of_supplied hspares id id id hstate
    exact Enclosure.pullsAs_of_matches hhosts watch levels hpulled hdistinct hr hr' k hm

/-- Entry nodes, a component that exposes its input and then needs no further update, and one that gives the value
of its attribute and needs no further update at any of its nodes. -/
def isolatedComponents : List NodeComponent :=
  [entryComponent "Any",
    ⟨"exit", [{ Socket.input "input" "Any" with exposed := true }], none, none, some (.both, .root)⟩,
    ⟨"source", [], some fun a => (a.attributes.get? "v").elim .succeed (.push "o" · .succeed), none,
      some (.component, .root)⟩]

/-- The pairings of two gateways to one exit node, and those of the gateway around them, which answers each of them. -/
def isolatedPairings : Pairings := (Table.empty.insert "i" ⟨"entry", "output"⟩).insert "o" ⟨"exit", "input"⟩

def surroundingPairings : Pairings := (Table.empty.insert "i1" ⟨"n1", "output"⟩).insert "i2" ⟨"n2", "output"⟩

/-- Two gateways to one exit node, with an entry node of its own for each, in a scene that has a source for each. -/
def isolatedTables : Tables :=
  let gateway (p : Pairings) : NodeInfo :=
    ⟨Gateway.name, Table.empty.insert Gateway.pairingAttribute (.object (p.entries.map fun e => (e.1, e.2.toValue)))⟩
  let entry : NodeInfo := ⟨entryName "Any", .empty⟩
  let source (n : Int) : NodeInfo := ⟨"source", Table.empty.insert "v" (.int n)⟩
  let nodes : Table NodeInfo := .ofList [("exit", ⟨"exit", .empty⟩), ("entry", entry), ("n1", entry), ("n2", entry),
    ("g1", gateway isolatedPairings), ("g2", gateway isolatedPairings), ("around", gateway surroundingPairings),
    ("p1", source 23), ("p2", source 44)]
  let edges : Table (List Link) := ((((Table.empty.insert (socketKey "exit" "input") [⟨"entry", "output"⟩]).insert
    (socketKey "g1" "i") [⟨"n1", "output"⟩]).insert (socketKey "g2" "i") [⟨"n2", "output"⟩]).insert
    (socketKey "around" "i1") [⟨"p1", "o"⟩]).insert (socketKey "around" "i2") [⟨"p2", "o"⟩]
  ⟨.empty, ⟨nodes, edges, .empty⟩⟩

def isolatedScene : Scene :=
  ⟨isolatedTables, .ofComponents (Gateway.component :: isolatedComponents.map NodeComponent.component), ⟨20, 20⟩⟩

/-- A call of a host that answers each of the outer entry nodes. -/
def isolatedRun : Run Unit :=
  ⟨EngineState.fresh.openCall (some ⟨fun _ node => some (.int (if node = "n1" then 23 else 44)), false⟩), .empty, ()⟩

/-- A call in which the gateway around is at work, and has linked the scene of the other two. -/
def surroundedRun : Run Unit :=
  let a := Gateway.component.activation "around" .empty (.pull none)
  ⟨((EngineState.fresh.openCall none).enter 1 a).deeper.openScene 1 surroundingPairings, .empty, ()⟩

theorem socketKey_ne {node node' : NodeId} (h : (node ++ ":").toList.head? ≠ (node' ++ ":").toList.head?)
    (socket socket' : String) : socketKey node socket ≠ socketKey node' socket' := by
  intro hkey
  have hhead (node : NodeId) (socket : String) : (socketKey node socket).toList.head? = (node ++ ":").toList.head? := by
    rw [socketKey, String.toList_append, List.head?_append_of_ne_nil]
    simp
  exact h ((hhead node socket).symm.trans ((congrArg (fun s : String => s.toList.head?) hkey).trans (hhead _ _)))

theorem isEntry_isolatedScene {node : NodeId} (hnode : node = "entry" ∨ node = "n1" ∨ node = "n2") :
    isolatedScene.IsEntry node := by
  rcases hnode with rfl | rfl | rfl <;> exact ⟨⟨entryName "Any", .empty⟩, "Any", rfl, rfl⟩

/-- The two gateways are fed by entry nodes. -/
theorem isEntry_of_mem_producers {node : NodeId} {socket : String} {l : Link}
    (hnode : (node ++ ":").toList.head? = some 'g')
    (hl : l ∈ isolatedScene.tables.executable.producers node socket) : isolatedScene.IsEntry l.node := by
  have houter (own : String) : socketKey node socket ≠ socketKey "around" own :=
    socketKey_ne (by rw [hnode]; decide) socket own
  refine isEntry_isolatedScene ?_
  rw [Executable.producers, isolatedScene, isolatedTables, Table.get?_insert, if_neg (houter "i2"), Table.get?_insert,
    if_neg (houter "i1"), Table.get?_insert, Table.get?_insert, Table.get?_insert] at hl
  split_ifs at hl
  · exact .inr (.inr (congrArg Link.node (List.eq_of_mem_singleton hl)))
  · exact .inr (.inl (congrArg Link.node (List.eq_of_mem_singleton hl)))
  · exact .inl (congrArg Link.node (List.eq_of_mem_singleton hl))
  · exact nomatch hl

/-- The exit node and the entry node of the scene are fed by the entry node alone. -/
theorem eq_entry_of_mem_producers {node : NodeId} {socket : String} {l : Link}
    (hnode : (node ++ ":").toList.head? = some 'e')
    (hl : l ∈ isolatedScene.tables.executable.producers node socket) : l.node = "entry" := by
  have houter {other : NodeId} (hother : (other ++ ":").toList.head? ≠ some 'e') (own : String) :
      socketKey node socket ≠ socketKey other own := socketKey_ne (by rw [hnode]; exact hother.symm) socket own
  rw [Executable.producers, isolatedScene, isolatedTables, Table.get?_insert, if_neg (houter (by decide) "i2"),
    Table.get?_insert, if_neg (houter (by decide) "i1"), Table.get?_insert, if_neg (houter (by decide) "i"),
    Table.get?_insert, if_neg (houter (by decide) "i"), Table.get?_insert] at hl
  split_ifs at hl
  · exact congrArg Link.node (List.eq_of_mem_singleton hl)
  · exact nomatch hl

/-- The exit node and the entry node keep to themselves. -/
theorem secluded_isolatedScene :
    isolatedScene.Secluded ⟨fun node => node = "exit" ∨ node = "entry", False, False, False⟩ where
  producers := by
    rintro _ (rfl | rfl) _ _ hl
    · exact .inr (eq_entry_of_mem_producers (by decide) hl)
    · exact .inr (eq_entry_of_mem_producers (by decide) hl)
  consumers := False.elim
  signal := False.elim
  update := by
    rintro c a ⟨info, cause, hinfo, hget, -⟩ (hnode | hnode) handler hhandler
    · rw [hnode] at hinfo
      obtain rfl : _ = info := Option.some.inj hinfo
      obtain rfl : _ = c := Option.some.inj hget
      obtain rfl := Option.some.inj hhandler
      exact .updateScript _ (fun _ h => nomatch h) fun _ h => nomatch h
    · rw [hnode] at hinfo
      obtain rfl : _ = info := Option.some.inj hinfo
      obtain rfl : _ = c := Option.some.inj hget
      obtain rfl := Option.some.inj hhandler
      trivial

theorem gatewayTo_isolatedScene {node : NodeId} (hnode : node = "g1" ∨ node = "g2") :
    isolatedScene.GatewayTo (fun node => node = "exit" ∨ node = "entry") node where
  fed := by
    rcases hnode with rfl | rfl
    · exact fun _ _ hl => isEntry_of_mem_producers (by decide) hl
    · exact fun _ _ hl => isEntry_of_mem_producers (by decide) hl
  made := by
    let pairings : Value := .object (isolatedPairings.entries.map fun e => (e.1, e.2.toValue))
    refine ⟨⟨Gateway.name, Table.empty.insert Gateway.pairingAttribute pairings⟩, ?_, rfl, ?_⟩
    · rcases hnode with rfl | rfl <;> rfl
    · intro p hp socket target htarget
      have hpaired : Gateway.pairings (Table.empty.insert Gateway.pairingAttribute pairings) = .ok isolatedPairings :=
        rfl
      obtain rfl := Except.ok.inj (hp.symm.trans hpaired)
      rw [isolatedPairings, Table.get?_insert, Table.get?_insert] at htarget
      split_ifs at htarget
      · exact .inl (congrArg Link.node (Option.some.inj htarget).symm)
      · exact .inr (congrArg Link.node (Option.some.inj htarget).symm)
      · exact nomatch htarget

def isolatedPulls : List (NodeId × Option String) := [("g1", some "o"), ("g2", some "o")]

theorem gatewayTo_of_mem_isolatedPulls :
    ∀ p ∈ isolatedPulls, isolatedScene.GatewayTo (fun node => node = "exit" ∨ node = "entry") p.1 := by
  simp [isolatedPulls, gatewayTo_isolatedScene]

theorem bound_isolatedRun : isolatedRun.state.stack.Bound := by
  rintro (_ | _ | i) f b hf hb
  · obtain rfl := Option.some.inj hf
    exact nomatch hb
  · obtain rfl := Option.some.inj hf
    exact nomatch hb
  · exact nomatch hf

theorem bound_surroundedRun : surroundedRun.state.stack.Bound := by
  rintro (_ | _ | _ | _ | i) f b hf hb
  · obtain rfl := Option.some.inj hf
    exact nomatch hb
  · obtain rfl := Option.some.inj hf
    exact nomatch hb
  · obtain rfl := Option.some.inj hf
    obtain rfl := FrameProvider.gateway.inj (Option.some.inj hb)
    exact ⟨Nat.one_lt_two, rfl⟩
  · obtain rfl := Option.some.inj hf
    exact nomatch hb
  · exact nomatch hf

/-- No gateway is around the frame of a call of the host. -/
theorem stocked_isolatedRun (nodes pulled : NodeId → Prop) :
    isolatedScene.Stocked isolatedRun.state.stack 1 nodes pulled := by
  have hnone : isolatedRun.state.stack.binding? 1 = none := rfl
  intro x hx
  rw [FrameStack.enclosing, hnone] at hx
  exact absurd hx List.not_mem_nil

/-- Two gateways in a linked scene are fed by entry nodes that the gateway around answers for, with what it gets
from two nodes of one component. When the first one has been pulled, the component is marked, so the second one gets
nothing; alone, it gets the value of its own source. -/
theorem gateways_share_sources :
    let nodes := fun node => node = "exit" ∨ node = "entry"
    let calls := isolatedScene.calls .silent 20
    let r := surroundedRun
    (isolatedScene.Secluded ⟨nodes, False, False, False⟩ ∧ (∀ p ∈ isolatedPulls, isolatedScene.GatewayTo nodes p.1) ∧
      (isolatedPulls.map Prod.fst).Nodup ∧ 3 < r.state.stack.height ∧ r.state.stack.Bound) ∧
    (calls.evaluateEach 3 isolatedPulls r).2.state.stack.output? 3 ⟨"g2", "o"⟩ = none ∧
    (calls.evaluate 3 "g2" (some "o") r).2.state.stack.output? 3 ⟨"g2", "o"⟩ = some (.int 44) := by
  refine ⟨⟨secluded_isolatedScene, gatewayTo_of_mem_isolatedPulls, ?_, ?_, bound_surroundedRun⟩, ?_, ?_⟩
  · decide
  · decide
  · decide +kernel
  · decide +kernel

/-- In a call of the host, what the first gateway has left does not keep the exit node from its update for the second
one, and what the host answers for its own entry node comes through. In the linked scene the second gateway gives what
it gives alone once the sources are as the first one has left them. -/
theorem gateways_isolated_apart :
    let calls := isolatedScene.calls .silent 20
    let run := calls.evaluateEach 1 isolatedPulls isolatedRun
    (run.1[1]? = some (calls.evaluate 1 "g2" (some "o") isolatedRun).1 ∧
      run.2.state.stack.output? 1 ⟨"g2", "o"⟩ = some (.int 44) ∧
      run.2.state.stack.exposed? 1 ⟨"exit", "input"⟩ = none ∧ run.2.state.needsUpdate 1 "exit" "exit" = true) ∧
    calls.PullsAs 3 isolatedPulls surroundedRun 1
      (surroundedRun.renewed 2 (calls.foundAt 3 isolatedPulls surroundedRun 1)) := by
  have hdistinct : (isolatedPulls.map Prod.fst).Nodup := by decide
  have hroot : surroundedRun.state.stack.root 3 = 2 := by decide
  have hframe : 1 < isolatedRun.state.stack.height := by decide
  have hframe' : 3 < surroundedRun.state.stack.height := by decide
  have hfree : isolatedRun.state.stack.exposed? 1 ⟨"exit", "input"⟩ = none := rfl
  have hneeded : isolatedRun.state.needsUpdate 1 "exit" "exit" = true := by decide +kernel
  have halone : ((isolatedScene.calls .silent 20).evaluate 1 "g2" (some "o") isolatedRun).2.state.stack.output? 1
      ⟨"g2", "o"⟩ = some (.int 44) := by decide +kernel
  have h := gateways_isolated isolatedScene .silent 20 1 _ False secluded_isolatedScene isolatedPulls
    gatewayTo_of_mem_isolatedPulls hdistinct isolatedRun hframe bound_isolatedRun
  have h' := gateways_isolated isolatedScene .silent 20 3 _ False secluded_isolatedScene isolatedPulls
    gatewayTo_of_mem_isolatedPulls hdistinct surroundedRun hframe' bound_surroundedRun 1
  generalize isolatedScene.calls .silent 20 = calls at h h' halone ⊢
  obtain ⟨-, -, -, hstocked⟩ := h 1
  obtain ⟨-, -, hsame⟩ := hstocked (stocked_isolatedRun _ _)
  obtain ⟨hanswer, houtput⟩ := hsame isolatedRun rfl "g2" (some "o") rfl
  obtain ⟨huntouched, -, -, hstocked⟩ := h 2
  obtain ⟨hforever, -, -⟩ := hstocked (stocked_isolatedRun _ _)
  obtain ⟨-, -, hrenewed, -⟩ := h'
  rw [hroot] at hrenewed
  refine ⟨⟨hanswer, (houtput "o").trans halone, ?_, ?_⟩, hrenewed _ rfl rfl⟩
  · exact (huntouched.exposed ⟨"exit", "input"⟩).trans hfree
  · exact (huntouched.updates "exit" "exit" (congrArg (·.covers "exit" "exit") hforever)).trans hneeded

end SocketGraph
