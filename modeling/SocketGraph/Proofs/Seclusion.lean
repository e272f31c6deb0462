import SocketGraph.Proofs.Congruence
import SocketGraph.Proofs.Enclosure
import SocketGraph.Proofs.Evaluations

/-! Secluded scenes. Whatever the nodes of a linked scene do, as long as they keep to themselves, they do it on the
frames of the scene. The frame of the gateway is asked for nothing but the inputs of the gateway, and where these are
not to be had there, the gateways around are asked. -/
namespace SocketGraph
namespace Enclosure

/-- An enclosure for a scene. Its nodes keep to themselves, and the gateways have attributes and entry nodes as their
inputs, which are hidden nowhere from their own frame on. Of the frames below it nothing is hidden if nodes may be
evaluated there, and everything if not. -/
structure Fits (e : Enclosure) (scene : Scene) : Prop where
  secluded : scene.Secluded e.realm
  fed : ∀ g, e.pulled g → ∀ socket, ∀ l ∈ scene.tables.executable.producers g socket, scene.IsEntry l.node
  gateways : ∀ j, e.low ≤ j → ∀ g, e.pulled g → ¬ e.hidden j g
  entries : ∀ j, e.low ≤ j → ∀ node, scene.IsEntry node → ¬ e.hidden j node
  asking : e.asks → (∀ node, e.realm.nodes node) ∧ ∀ j < e.low, ∀ node, ¬ e.hidden j node
  bare : ¬ e.asks → ∀ j < e.low, ∀ node, e.hidden j node

/-- Which nodes are evaluated on a frame. -/
def Site (e : Enclosure) (scene : Scene) (i : Nat) (node : NodeId) : Prop :=
  e.Open i ∧ e.realm.nodes node ∨ i = e.caller ∧ scene.IsEntry node

/-- Calls that keep to the enclosure. -/
structure KeepsCalls {ω : Type} (e : Enclosure) (scene : Scene) (below : Calls ω) : Prop where
  evaluate : ∀ {i node}, e.Site scene i node → ∀ requested, e.Keeps scene (below.evaluate i node requested)
  propagate : e.opened → e.realm.signals → ∀ {node}, e.realm.nodes node → ∀ socket,
    e.Keeps scene (below.propagate socket [node] none)

variable {e : Enclosure} {ω α : Type} {scene : Scene} {watch : Watcher ω} {i : Nat} {s t : FrameStack}

theorem Fits.opening (h : e.Fits scene) : e.opening.Fits scene :=
  ⟨h.secluded, h.fed, h.gateways, h.entries, h.asking, h.bare⟩

/-- What a node of the scene looks for on its frame is hidden nowhere on the way. -/
theorem Fits.shown_of_open (hfits : e.Fits scene) (hs : e.Holds scene s) (hi : e.Open i) (node : NodeId) :
    ∀ j ∈ s.lineage i, j < e.high → ¬ e.hidden j node := by
  intro j hj hlt
  rcases hs.open_of_mem_lineage hi j hj with hj | ⟨hasks, hj⟩
  · exact absurd hlt (Nat.not_lt.2 hj)
  · exact (hfits.asking hasks).2 j hj node

theorem Fits.output?_eq (hfits : e.Fits scene) {l : Link} (hl : e.Site scene i l.node) (hs : e.Holds scene s)
    (h : s.Alike e.high e.hidden t) : s.output? i l = t.output? i l := by
  rcases hl with ⟨hi, -⟩ | ⟨rfl, hentry⟩
  · exact h.output? (hfits.shown_of_open hs hi l.node)
  · exact h.output? fun j hj _ => hfits.entries j (hs.rooted j hj) l.node hentry

/-- Actions that keep to an enclosure make up a congruence. -/
def keeping (e : Enclosure) (scene : Scene) (watch : Watcher ω) : Congruence watch watch where
  Relates x _ := e.Keeps scene x
  relates_pure := keeps_pure
  relates_bind_of hx hanswers _ hf := hx.bind_of hanswers hf
  relates_emit := keeps_emit

/-! Inputs. -/

/-- Where a look-up goes on from: a frame that inputs are fetched on, or that of a gateway around. -/
def Passes (e : Enclosure) (i : Nat) : Prop := e.Reaches i ∨ ¬ e.asks ∧ e.around i

/-- Where the question goes on, if a gateway answers on a frame: to a frame that inputs are fetched on, or to a
gateway around, which owes what it is asked for. -/
theorem Holds.passes (h : e.Holds scene s) (hi : e.Passes i) {b : Binding} (hb : s.provider? i = some (.gateway b)) :
    e.Reaches b.caller ∨ ¬ e.asks ∧ e.around b.caller ∧ ∀ l, e.Asked scene l → ∀ own,
      b.pairings.socketFor? l = some own → ∃ v, e.owed b.caller own v := by
  rcases hi with (rfl | hi) | ⟨hasks, hi⟩
  · by_cases hasks : e.asks
    · exact .inl (.inr (.inr ⟨hasks, h.outward hasks b hb⟩))
    · exact .inr ⟨hasks, h.passed hasks _ b (.inl rfl) hb⟩
  · exact .inl (h.reaches_of_provider? hi hb)
  · exact .inr ⟨hasks, h.passed hasks i b (.inr hi) hb⟩

/-- What a gateway around keeps for itself is hidden. -/
theorem Fits.alike_putInput (hfits : e.Fits scene) (hasks : ¬ e.asks) (hs : e.Holds scene s) {j : Nat}
    (hj : j < e.low) (l : Link) (v : Value) : s.Alike e.high e.hidden (s.putInput j l v) := by
  have hlow {k : Nat} (hk : k ∈ s.lineage j) : k < e.low :=
    Nat.lt_of_le_of_lt (FrameStack.le_of_mem_lineage hk) hj
  constructor
  · exact .writeThrough_hidden fun k hk _ f => .putInput_hidden f (hfits.bare hasks k (hlow hk) l.node) v
  · intro k hk
    have hnot : k ∉ s.lineage j := fun hmem => by
      have hk' := hlow hmem
      have hlt := hs.low_lt
      omega
    rw [FrameStack.putInput, FrameStack.frame?_writeThrough, if_neg hnot]

/-! A gateway around is asked for what it owes. -/

section
variable {j : Nat} {own : String} {v : Option Value} (hfits : e.Fits scene) (hasks : ¬ e.asks) (hj : e.around j)
  (howed : e.owed j own v) (below : Calls ω) (lookup : Lookup ω)
include hfits hasks hj howed

theorem matches_fetchOwed {r : Run ω} (h : e.Holds scene r.state.stack) :
    e.Matches r (fetchWith scene watch below lookup j own r).2 := by
  obtain ⟨a, -, heq | heq⟩ := fetchWith_of_owes watch below lookup (h.owing hasks j own v hj howed)
  · rw [heq]
    exact ⟨.refl _, fun _ => rfl⟩
  · rw [heq]
    cases v with
    | none => exact ⟨.refl _, fun _ => rfl⟩
    | some w => exact ⟨⟨hfits.alike_putInput hasks h (h.lower j hj) _ w, rfl, rfl⟩, fun _ => rfl⟩

omit hfits in
/-- What the gateway keeps of the answer does not matter to the other gateways around. -/
theorem spares_fetchOwed {r : Run ω} (h : e.Holds scene r.state.stack) :
    e.Spares scene r (fetchWith scene watch below lookup j own r).2 := by
  have howes := h.owing hasks j own v hj howed
  obtain ⟨a, ha, heq | heq⟩ := fetchWith_of_owes watch below lookup howes
  · rw [heq]
    exact .refl r
  · rw [heq]
    cases v with
    | none => exact .refl r
    | some w =>
      refine ⟨FrameStack.view_writeThrough (fun _ => rfl) fun _ => rfl, rfl, ?_, ?_, fun _ => rfl, fun _ => rfl⟩
      · refine .writeThrough_hidden fun k hk _ f => .putInput_hidden f (.inl ?_) w
        exact Nat.lt_of_le_of_lt (FrameStack.le_of_mem_lineage hk) (h.lower j hj)
      · exact fun _ k own' v' hk hs => hs.putInput ha howes.2 fun hne => h.apart k j hk hj hne

theorem keeps_fetchOwed : e.Keeps scene (fetchWith scene watch below lookup j own) := by
  have hanswer {r : Run ω} (h : e.Holds scene r.state.stack) :
      (fetchWith scene watch below lookup j own r).1 = .ok v := by
    obtain ⟨_, -, heq | heq⟩ := fetchWith_of_owes watch below lookup (h.owing hasks j own v hj howed) <;> rw [heq]
  have hsame {r : Run ω} (h : e.Holds scene r.state.stack) :
      e.Matches r (fetchWith scene watch below lookup j own r).2 :=
    matches_fetchOwed hfits hasks hj howed below lookup h
  constructor
  · exact fun r h => spares_fetchOwed hasks hj howed below lookup h
  intro r r' h h' hm
  refine ⟨(hanswer h).trans (hanswer h').symm, ⟨?_, ?_, ?_⟩, fun hc => ?_⟩
  · exact (hsame h).state.stack.symm.trans (hm.state.stack.trans (hsame h').state.stack)
  · exact (hsame h).state.forever.symm.trans (hm.state.forever.trans (hsame h').state.forever)
  · exact (hsame h).state.nesting.symm.trans (hm.state.nesting.trans (hsame h').state.nesting)
  · exact ((hsame h).counters hc).symm.trans ((hm.counters hc).trans ((hsame h').counters hc))

end

section
variable {below : Calls ω} {lookup : Lookup ω} (hfits : e.Fits scene) (hbelow : e.KeepsCalls scene below)
  (hlookup : ∀ l, e.Asked scene l → e.Keeps scene (lookup i l))
include hfits hbelow hlookup

theorem keeps_resolveInput (watch : Watcher ω) {a : Activation} {socket : String}
    (hsites : ∀ l ∈ scene.tables.executable.producers a.node socket, e.Site scene i l.node ∧ e.Asked scene l)
    (hexposed : (declared? a.sockets socket).any Socket.exposed = true → e.realm.nodes a.node) :
    (e.keeping scene watch).Relates (resolveInput scene below lookup i a socket)
      (resolveInput scene below lookup i a socket) := by
  refine (e.keeping scene watch).relates_resolveInput below below lookup lookup rfl (fun producer hproducer => ?_)
    (keeps_readStack fun s t _ h => ?_) fun hasked => hlookup _ (.inl (hexposed hasked))
  · obtain ⟨hsite, hasked⟩ := hsites producer hproducer
    exact (e.keeping scene watch).relates_resolveProducer below below lookup lookup
      (keeps_readStack fun s t hs h => hfits.output?_eq hsite hs h) (hbelow.evaluate hsite _) (hlookup producer hasked)
  · rw [FrameStack.provider?_congr h.shape]

/-- The sockets that are fetched on a frame are those of a node that is active there. -/
theorem keeps_fetchWith (hi : e.Reaches i) (socket : String) :
    e.Keeps scene (fetchWith scene watch below lookup i socket) := by
  refine Keeps.readStack_bind (fun active => ∀ a, active = some a →
    e.Open i ∧ e.realm.nodes a.node ∨ i = e.caller ∧ e.pulled a.node ∧ a.sockets = [])
    (fun s t _ h => FrameStack.active?_congr h.shape i) (fun s hs a ha => ?_) ?_
  · rcases hi with rfl | hi
    · exact .inr ⟨rfl, hs.gateway a ha⟩
    · refine .inl ⟨hi, ?_⟩
      rcases hi with hi | ⟨hasks, -⟩
      · obtain ⟨f, hf, hhead⟩ := Option.bind_eq_some_iff.1 ha
        exact hs.working i f hi hf (a.node, a.sockets) (List.mem_map.2 ⟨a, List.mem_of_mem_head? hhead, rfl⟩)
      · exact (hfits.asking hasks).1 a.node
  intro active hactive
  cases active with
  | none => exact keeps_pure _
  | some a =>
    have ha := hactive a rfl
    have hsites : ∀ l ∈ scene.tables.executable.producers a.node socket,
        e.Site scene i l.node ∧ e.Asked scene l := by
      intro l hl
      rcases ha with ⟨hi, hnode⟩ | ⟨hi, hnode, -⟩
      · have hl := hfits.secluded.producers hnode socket l hl
        exact ⟨.inl ⟨hi, hl⟩, .inl hl⟩
      · exact ⟨.inr ⟨hi, hfits.fed a.node hnode socket l hl⟩, .inr ⟨a.node, socket, hnode, hl⟩⟩
    have hexposed : (declared? a.sockets socket).any Socket.exposed = true → e.realm.nodes a.node := by
      intro hany
      rcases ha with ⟨-, hnode⟩ | ⟨-, -, hsockets⟩
      · exact hnode
      · rw [hsockets] at hany
        exact absurd hany Bool.false_ne_true
    refine (e.keeping scene watch).relates_inputOf below below lookup lookup (keeps_readStack fun s t hs h => ?_)
      (keeps_resolveInput hfits hbelow hlookup watch hsites hexposed) fun v => ?_
    · rcases ha with ⟨hi, -⟩ | ⟨rfl, hnode, -⟩
      · exact h.input? (hfits.shown_of_open hs hi a.node)
      · exact h.input? fun j hj _ => hfits.gateways j (hs.rooted j hj) a.node hnode
    · rcases ha with ⟨hi, -⟩ | ⟨rfl, hnode, -⟩
      · exact keeps_write (.putInput ⟨a.node, socket⟩ v) hi
      · exact keeps_serve (.putInput ⟨a.node, socket⟩ v) fun f => .putInput_hidden f hnode v

end

theorem keeps_askHost (provider : Provider) (socket : Link) : e.Keeps scene (askHost watch provider socket) :=
  (e.keeping scene watch).relates_askHost provider socket

section
variable {below : Calls ω} (hfits : e.Fits scene) (hbelow : e.KeepsCalls scene below)
include hfits hbelow

theorem keeps_lookupWithin (steps : Nat) (hi : e.Passes i) {socket : Link} (hasked : e.Asked scene socket) :
    e.Keeps scene (lookupWithin scene watch below steps i socket) := by
  induction steps generalizing i socket with
  | zero => exact keeps_pure _
  | succ steps ih =>
    rw [lookupWithin]
    refine Keeps.readStack_bind (fun provider => ∀ b, provider = some (.gateway b) → e.Reaches b.caller ∨
        ¬ e.asks ∧ e.around b.caller ∧ ∀ l, e.Asked scene l → ∀ own, b.pairings.socketFor? l = some own →
          ∃ v, e.owed b.caller own v)
      (fun s t _ h => FrameStack.provider?_congr h.shape i) (fun s hs b hb => Holds.passes hs hi hb) ?_
    intro provider hprovider
    rcases provider with _ | provider | b
    · exact keeps_pure _
    · exact (keeps_askHost provider socket).bind fun _ => keeps_pure _
    · have hcaller := hprovider b rfl
      dsimp only
      split
      · rename_i own hown
        refine (keeps_note _).bind fun _ => ?_
        rcases hcaller with hcaller | ⟨hasks, hcaller, howes⟩
        · exact keeps_fetchWith hfits hbelow (fun l hl => ih (.inl hcaller) hl) hcaller _
        · obtain ⟨v, howed⟩ := howes socket hasked own hown
          exact keeps_fetchOwed hfits hasks hcaller howed below _
      · refine ih ?_ hasked
        exact hcaller.imp_right (And.imp_right And.left)

theorem keeps_fetchInput (hi : e.Reaches i) (socket : String) :
    e.Keeps scene (fetchInput scene watch below i socket) := by
  refine keeps_fetchWith hfits hbelow (fun l hl => ?_) hi socket
  exact keeps_lookupWithin hfits hbelow (i + 1) (.inl hi) hl

/-! Handlers. -/

theorem keeps_perform (hscenes : e.opening.KeepsCalls scene below) (hi : e.Open i) (a : Activation)
    (script : Script) (hscript : script.KeepsTo e.realm) : e.Keeps scene (perform scene watch below i a script) := by
  induction script with
  | done outcome => exact keeps_pure _
  | fetch socket next ih =>
    rw [perform]
    exact (keeps_note _).bind fun _ => (keeps_fetchInput hfits hbelow (.inr hi) socket).bind fun answer =>
      ih answer (hscript answer)
  | push socket v next ih =>
    rw [perform]
    exact (keeps_note _).bind fun _ => (keeps_write (.putOutput ⟨a.node, socket⟩ v) hi).bind fun _ => ih hscript
  | expose socket v next ih =>
    rw [perform]
    exact (keeps_note _).bind fun _ => (keeps_write (.putExposed ⟨a.node, socket⟩ v) hi).bind fun _ => ih hscript
  | hasExposed socket next ih =>
    rw [perform]
    refine (keeps_note _).bind fun _ => Keeps.bind (keeps_readStack fun s t _ h => ?_) fun answer =>
      ih answer (hscript answer)
    rw [h.exposed?]
  | exposeSignal socket next ih =>
    rw [perform]
    refine (keeps_note _).bind fun _ => ?_
    split
    · exact (keeps_write (.addSignal ⟨a.node, socket⟩) hi).bind fun _ => ih hscript
    · exact (keeps_log _).bind fun _ => ih hscript
  | forward socket next ih =>
    rw [perform]
    refine (keeps_note _).bind fun _ => Keeps.bind (keeps_readStack fun s t _ h => ?_) fun signal => ?_
    · rw [FrameStack.active?_congr h.shape]
    split
    · exact (keeps_modify (.forward socket) (fun _ => i) (fun _ _ => hi) fun _ _ _ => rfl).bind fun _ => ih hscript
    · exact (keeps_log _).bind fun _ => ih hscript
  | mark target scope next ih =>
    rw [perform]
    exact (keeps_note _).bind fun _ => (keeps_mark hi a.node a.component target hscript.1).bind fun _ => ih hscript.2
  | emit event next ih =>
    rw [perform]
    exact (keeps_note _).bind fun _ => (keeps_emit _).bind fun _ => ih hscript
  | count name next ih =>
    rw [perform]
    exact (keeps_note _).bind fun _ => (keeps_count hscript.1 name).bind fun n => ih n (hscript.2 n)
  | pullScene p target next ih =>
    rw [perform]
    refine (keeps_note _).bind fun _ => Keeps.bind ?_ fun answer => ih answer (hscript.2 answer)
    exact Keeps.sceneScope (.inr hi) p fun j hj => hscenes.evaluate (.inl ⟨.inl hj, hscript.1⟩) _
  | pushScene p target next ih =>
    rw [perform]
    refine (keeps_note _).bind fun _ => Keeps.bind ?_ fun result => ih result (hscript.2.2 result)
    exact Keeps.sceneScope (.inr hi) p fun j _ => hscenes.propagate trivial hscript.1 hscript.2.1 _

end

/-! Nodes. -/

section
variable {below : Calls ω}

theorem keeps_refuse (node : NodeId) : e.Keeps scene (refuse scene watch node) :=
  (keeps_log _).bind fun _ => keeps_pure _

theorem keeps_runUpdate {c : Component} {a : Activation}
    (hwork : ∀ handler, c.update = some handler → e.Keeps scene (perform scene watch below i a (handler a))) :
    e.Keeps scene (runUpdate scene watch below i c a) := by
  refine Keeps.state_bind (fun st st' h => ?_) fun st => ?_
  · rw [h.nesting]
  split
  · exact (keeps_refuse _).bind fun _ => keeps_pure _
  · cases hupdate : c.update with
    | none => exact keeps_pure _
    | some handler =>
      refine (keeps_log _).bind fun _ => (keeps_note _).bind fun _ => ?_
      exact (hwork handler hupdate).bind fun outcome => (keeps_note _).bind fun _ => keeps_pure _

theorem Spares.evaluateAt {node : NodeId} {requested : Option String} {r : Run ω}
    (hupdate : ∀ info c, scene.tables.executable.node? node = some info →
      scene.registry.get? info.component = some c → e.Spares scene r
        (activeUpdate scene watch below i c (c.activation node info.attributes (.pull requested)) r).2) :
    e.Spares scene r (evaluateAt scene watch below i node requested r).2 := by
  rcases @evaluateAt_cases ω scene watch below i node requested r with
    ⟨failure, heq⟩ | ⟨info, -, -, heq⟩ | ⟨info, c, hinfo, hget, -, heq⟩
  · rw [heq]
    exact .refl r
  · rw [heq]
    exact .of_state_eq rfl rfl
  · rw [heq]
    exact hupdate info c hinfo hget

theorem Agrees.evaluateAt {node : NodeId} {requested : Option String} {r r' : Run ω} (hm : e.Matches r r')
    (hupdate : ∀ info c, scene.tables.executable.node? node = some info →
      scene.registry.get? info.component = some c → e.Agrees
        (activeUpdate scene watch below i c (c.activation node info.attributes (.pull requested))) r r') :
    e.Agrees (evaluateAt scene watch below i node requested) r r' := by
  have hexposed {r r' : Run ω} (hm : e.Matches r r') :
      r.state.stack.exposedBy i node = r'.state.stack.exposedBy i node := hm.state.stack.exposedBy i node
  cases hinfo : scene.tables.executable.node? node with
  | none =>
    constructor <;> rw [SocketGraph.evaluateAt, hinfo]
    · rfl
    · exact hm
  | some info =>
    have hsame := hm.state.needsUpdate i node info.component
    cases hneeds : r.state.needsUpdate i node info.component with
    | false =>
      have hneeds' := hsame.symm.trans hneeds
      constructor <;> rw [evaluateAt_eq_skipped watch below hinfo hneeds, evaluateAt_eq_skipped watch below hinfo hneeds']
      · exact congrArg Except.ok (hexposed hm)
      · exact ⟨hm.state, hm.counters⟩
    | true =>
      have hneeds' := hsame.symm.trans hneeds
      cases hget : scene.registry.get? info.component with
      | none =>
        constructor <;> rw [evaluateAt_eq_unknown watch below hinfo hget hneeds,
          evaluateAt_eq_unknown watch below hinfo hget hneeds']
        exact hm
      | some c =>
        have hr := hupdate info c hinfo hget
        constructor <;> rw [evaluateAt_eq_updated watch below hinfo hget hneeds,
          evaluateAt_eq_updated watch below hinfo hget hneeds']
        · simp only [hr.answer, hexposed hr.alike]
        · exact hr.alike

/-- An evaluation keeps to an enclosure if the update does. -/
theorem keeps_evaluateAt_of_update {node : NodeId} {requested : Option String}
    (hupdate : ∀ info c, scene.tables.executable.node? node = some info →
      scene.registry.get? info.component = some c → e.Keeps scene
        (activeUpdate scene watch below i c (c.activation node info.attributes (.pull requested)))) :
    e.Keeps scene (evaluateAt scene watch below i node requested) := by
  constructor
  · exact fun r h => .evaluateAt fun info c hinfo hget => (hupdate info c hinfo hget).spares r h
  · exact fun r r' h h' hm => .evaluateAt hm fun info c hinfo hget => (hupdate info c hinfo hget).agrees r r' h h' hm

/-- The update of an entry node is refused or done at once. -/
theorem keeps_evaluateAt_of_isEntry (i : Nat) {node : NodeId} (hentry : scene.IsEntry node)
    (requested : Option String) : e.Keeps scene (evaluateAt scene watch below i node requested) := by
  obtain ⟨info, typeTag, hinfo, hget⟩ := hentry
  refine keeps_evaluateAt_of_update fun info' c hinfo' hget' => ?_
  obtain rfl : info = info' := Option.some.inj (hinfo.symm.trans hinfo')
  obtain rfl := Option.some.inj (hget.symm.trans hget')
  refine keeps_active_of_idle (fun r r' h => ?_) (fun r => ?_) i _
  · rw [runUpdate_apply, runUpdate_apply, h]
    split_ifs <;> rfl
  · rw [runUpdate_apply]
    split_ifs <;> exact ⟨rfl, rfl⟩

end

section
variable {below : Calls ω} (hfits : e.Fits scene) (hbelow : e.KeepsCalls scene below)
  (hscenes : e.opening.KeepsCalls scene below)
include hfits hbelow hscenes

/-- A node of the scene is evaluated on a frame that it may be at work on. -/
theorem keeps_evaluateAt (hi : e.Open i) {node : NodeId} (hnode : e.realm.nodes node) (requested : Option String) :
    e.Keeps scene (evaluateAt scene watch below i node requested) := by
  refine keeps_evaluateAt_of_update fun info c hinfo hget => ?_
  have hscript := hfits.secluded.update (c := c)
    (a := c.activation node info.attributes (.pull requested)) ⟨info, _, hinfo, hget, rfl⟩ hnode
  have hupdate : e.Keeps scene (runUpdate scene watch below i c _) := keeps_runUpdate fun handler hhandler =>
    keeps_perform hfits hbelow hscenes hi _ _ (hscript handler hhandler)
  exact Keeps.active hi hnode hupdate.nested

/-! Signals. -/

/-- A signal is delivered to a node of the scene on a frame that it may be at work on. -/
theorem keeps_deliver (hsignals : e.realm.signals) (hi : e.Open i) {link : Link} (hlink : e.realm.nodes link.node) :
    e.Keeps scene (deliver scene watch below i link) := by
  rw [deliver_eq]
  refine (keeps_note _).bind fun _ => ?_
  split
  · exact keeps_pure _
  · rename_i a script hreceiver
    have hnode : e.realm.nodes a.node := Scene.node_of_receiver hreceiver ▸ hlink
    obtain ⟨c, handler, hmade, hhandler, rfl⟩ := Scene.instance_of_receiver hreceiver
    have hscript := hfits.secluded.signal hsignals hmade hnode handler hhandler
    have hreceive : e.Keeps scene (receive scene watch below i a (handler a link.socket)) := by
      refine (keeps_note _).bind fun _ => ?_
      refine (keeps_perform hfits hbelow hscenes hi a _ (hscript _)).bind fun outcome => ?_
      refine (keeps_note _).bind fun _ => Keeps.bind (keeps_readStack fun s t _ h => ?_) fun _ => keeps_pure _
      rw [FrameStack.active?_congr h.shape]
    exact (Keeps.active hi hnode hreceive).bind fun result =>
      keeps_pure (result.1, result.2.flatMap (scene.tables.executable.consumers link.node))

theorem keeps_walk (hsignals : e.realm.signals) (hi : e.Open i) (levels : Nat) (tally : Tally) {links : List Link}
    (hlinks : ∀ l ∈ links, e.realm.nodes l.node) : e.Keeps scene (walk scene watch below i levels tally links) :=
  (e.keeping scene watch).relates_walk below below e.realm.nodes rfl (fun _ _ => rfl)
    (hfits.secluded.consumers hsignals) levels tally hlinks
    fun _ _ hlink => keeps_deliver hfits hbelow hscenes hsignals hi hlink

end

/-- A signal is sent into the scene while the scene is open. -/
theorem keeps_propagateAt {below : Calls ω} (hfits : e.Fits scene) (hscenes : e.opening.KeepsCalls scene below)
    (hopened : e.opened) (hsignals : e.realm.signals) {node : NodeId} (hnode : e.realm.nodes node) (socket : String) :
    e.Keeps scene (propagateAt scene watch below socket [node] none) := by
  refine Keeps.state_bind (fun st st' h => ?_) fun st => ?_
  · rw [refused?, refused?, h.nesting]
  split
  · exact (keeps_refuse _).bind fun _ => keeps_pure _
  · refine Keeps.nested (Keeps.between (.inr hopened) (by simp) (by simp) fun j hj => ?_)
    have hlinks : ∀ l ∈ frontier scene socket [node], e.realm.nodes l.node := by
      intro l hl
      obtain ⟨source, hsource, hconsumer⟩ := List.mem_flatMap.1 hl
      obtain rfl := List.mem_singleton.1 hsource
      exact hfits.secluded.consumers hsignals hnode socket l hconsumer
    refine (keeps_walk hfits.opening hscenes hscenes hsignals (.inl hj) _ _ hlinks).bind fun tally => ?_
    exact (keeping _ scene watch).relates_conclude tally (keeps_readStack fun s t _ h => h.above j hj)

/-- The calls of a scene keep to every enclosure that fits. -/
theorem keeps_calls (levels : Nat) {e : Enclosure} (hfits : e.Fits scene) :
    e.KeepsCalls scene (scene.calls watch levels) := by
  induction levels generalizing e with
  | zero => exact ⟨fun _ _ => keeps_pure _, fun _ _ _ _ _ => keeps_pure _⟩
  | succ levels ih =>
    refine ⟨fun hsite requested => ?_, fun hopened hsignals node hnode socket => ?_⟩
    · rcases hsite with ⟨hi, hnode⟩ | ⟨-, hentry⟩
      · exact keeps_evaluateAt hfits (ih hfits) (ih hfits.opening) hi hnode requested
      · exact keeps_evaluateAt_of_isEntry _ hentry requested
    · exact keeps_propagateAt hfits (ih hfits.opening) hopened hsignals hnode socket

end Enclosure
end SocketGraph
