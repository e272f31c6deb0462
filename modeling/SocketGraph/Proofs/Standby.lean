import SocketGraph.Proofs.Cached
import SocketGraph.Proofs.Congruence
import SocketGraph.Proofs.Upkeep
import SocketGraph.Proofs.Views

/-! Nodes that stand by. While a node waits for an output it stays active, below the nodes that work for it and
one nesting further out. These do the same as without it, as long as nobody asks for the node itself and the
limit of the nesting is not reached. -/
namespace SocketGraph

/-- Something that a watcher sees and does not forget: a node is nested too deep. -/
structure Watcher.Alarm {ω : Type} (watch : Watcher ω) where
  raised : ω → Prop
  limit : ∀ node limit seen, raised (watch.event (.logged (.recursionLimit node limit)) seen)
  event : ∀ {seen} e, raised seen → raised (watch.event e seen)
  step : ∀ {seen} st s, raised seen → raised (watch.step st s seen)

/-- Whether an event tells of a node that was nested too deep. -/
def Event.refuses : Event → Bool
  | .logged (.recursionLimit _ _) => true
  | _ => false

/-- The log tells of every node that was nested too deep. -/
def Watcher.alarm : Watcher.log.Alarm where
  raised log := log.any Event.refuses = true
  limit node limit log := by simp [Watcher.log, Event.refuses]
  event e h := by simp [Watcher.log, h]
  step _ _ h := h

namespace Watcher.Alarm

variable {ω α β : Type} {watch : Watcher ω} (alarm : watch.Alarm)

/-- An action takes no alarm back. -/
def Lasts (x : Action ω α) : Prop := ∀ r, alarm.raised r.seen → alarm.raised (x r).2.seen

variable {alarm}

theorem lasts_pure (a : α) : alarm.Lasts (pure a) := fun _ h => h

theorem Lasts.bind {x : Action ω α} {f : α → Action ω β} (hx : alarm.Lasts x) (hf : ∀ a, alarm.Lasts (f a)) :
    alarm.Lasts (x >>= f) := fun r h => hf _ _ (hx r h)

theorem lasts_emit (e : Event) : alarm.Lasts (Action.emit watch e) := fun _ h => alarm.event e h

theorem lasts_note (s : Step) : alarm.Lasts (Action.note watch s) := fun r h => alarm.step r.state s h

theorem lasts_changeState (change : EngineState → EngineState) : alarm.Lasts (Action.changeState watch change) :=
  fun r h => alarm.step (change r.state) .changed h

theorem lasts_changeStack (change : FrameStack → FrameStack) : alarm.Lasts (Action.changeStack watch change) :=
  lasts_changeState _

theorem Lasts.readStack_bind {read : FrameStack → α} {f : α → Action ω β} (hf : ∀ a, alarm.Lasts (f a)) :
    alarm.Lasts (Action.readStack read >>= f) := fun _ h => hf _ _ h

theorem Lasts.state_bind {f : EngineState → Action ω β} (hf : ∀ st, alarm.Lasts (f st)) :
    alarm.Lasts (Action.state >>= f) := fun _ h => hf _ _ h

theorem Lasts.between {outer inner : Frame} {body : Nat → Action ω α} (hbody : ∀ i, alarm.Lasts (body i)) :
    alarm.Lasts (Action.between watch outer inner body) :=
  (lasts_changeStack _).bind fun _ => (lasts_changeStack _).bind fun _ => .readStack_bind fun i =>
    (hbody i).bind fun _ => (lasts_changeStack _).bind fun _ => (lasts_changeStack _).bind fun _ => lasts_pure _

theorem Lasts.nested {x : Action ω α} (hx : alarm.Lasts x) : alarm.Lasts (Action.nested watch x) :=
  (lasts_changeState _).bind fun _ => hx.bind fun _ => (lasts_changeState _).bind fun _ => lasts_pure _

theorem Lasts.entered {x : Action ω α} (hx : alarm.Lasts x) (i : Nat) (a : Activation) :
    alarm.Lasts (Action.changeStack watch (·.enter i a) >>= fun _ => x >>= fun answer =>
      Action.changeStack watch (·.leave i) >>= fun _ => pure answer) :=
  (lasts_changeStack _).bind fun _ => hx.bind fun _ => (lasts_changeStack _).bind fun _ => lasts_pure _

end Watcher.Alarm

/-- A node that stands by: it is active on a frame and waits for an output that feeds one of its sockets. Above it
its peers may become active. -/
structure Standby where
  frame : Nat
  waiter : Activation
  socket : String
  output : Link
  peers : NodeId → Prop

/-- A frame with one more active node, below the others. -/
def Frame.under (f : Frame) (a : Activation) : Frame := { f with active := f.active ++ [a] }

namespace FrameStack

/-- A stack with a node that stands by. -/
def under (s : FrameStack) (w : Standby) : FrameStack := s.modify w.frame (·.under w.waiter)

variable {α β : Type} {w : Standby} (s : FrameStack)

theorem frame?_under (j : Nat) :
    (s.under w).frame? j = if w.frame = j then (s.frame? j).map (·.under w.waiter) else s.frame? j :=
  frame?_modify ..

theorem view_under {g : Frame → β} (hg : ∀ f a, g (Frame.under f a) = g f) : (s.under w).view g = s.view g :=
  view_modify (fun _ => rfl) fun f => hg f w.waiter

@[simp] theorem height_under : (s.under w).height = s.height := height_modify ..

theorem lineage_under (i : Nat) : (s.under w).lineage i = s.lineage i :=
  lineage_of_outline (outline_of_view (s.view_under (g := fun _ => ()) fun _ _ => rfl)) i

theorem readThrough_under {read : Frame → Option α} (hread : ∀ f a, read (Frame.under f a) = read f) (i : Nat) :
    (s.under w).readThrough i read = s.readThrough i read :=
  readThrough_of_view (s.view_under hread) id i

theorem exposedBy_under (i : Nat) (node : NodeId) : (s.under w).exposedBy i node = s.exposedBy i node :=
  Table.ext_get? fun socket => by
    rw [get?_exposedBy, get?_exposedBy, exposed?, exposed?, s.readThrough_under fun _ _ => rfl]

/-- The nodes on its frame are those above it and the one that stands by. -/
theorem activeOn_under {i : Nat} (hi : i < s.height) :
    (s.under w).activeOn i = if w.frame = i then s.activeOn i ++ [w.waiter] else s.activeOn i := by
  obtain ⟨f, hf⟩ := exists_frame? hi
  unfold activeOn
  rw [frame?_under]
  split_ifs
  · rw [hf]
    rfl
  · rfl

/-- A change of a frame does not matter to the node that stands by if it leaves what is below. -/
theorem modify_under {i : Nat} {change : Frame → Frame} (h : w.frame = i → ∀ f, s.frame? i = some f →
    change (f.under w.waiter) = (change f).under w.waiter) :
    (s.under w).modify i change = (s.modify i change).under w := by
  refine FrameStack.ext_frame? fun j => ?_
  simp only [frame?_modify, frame?_under]
  by_cases hi : i = j
  · subst hi
    by_cases hw : w.frame = i
    · cases hf : s.frame? i with
      | none => simp
      | some f => simp [hw, h hw f hf]
    · simp [hw]
  · simp [hi]

theorem writeThrough_under {change : Frame → Frame} (h : ∀ f a, change (Frame.under f a) = (change f).under a)
    (i : Nat) : (s.under w).writeThrough i change = (s.writeThrough i change).under w := by
  refine FrameStack.ext_frame? fun j => ?_
  simp only [frame?_writeThrough, lineage_under, frame?_under]
  split_ifs
  · cases s.frame? j <;> simp [h]
  all_goals rfl

theorem push_under (f : Frame) (h : w.frame < s.height) : (s.under w).push f = (s.push f).under w := by
  refine FrameStack.ext_frame? fun j => ?_
  simp only [frame?_push, height_under, frame?_under]
  split_ifs
  · omega
  all_goals rfl

theorem pop_under : (s.under w).pop = s.pop.under w := by
  refine FrameStack.ext_frame? fun j => ?_
  simp only [frame?_pop, height_under, frame?_under]
  split_ifs <;> rfl

end FrameStack

/-- A state in which a node stands by. -/
def EngineState.under (st : EngineState) (w : Standby) : EngineState :=
  ⟨st.stack.under w, st.forever, st.nesting + 1⟩

namespace EngineState

variable {w : Standby} (st : EngineState)

theorem needsUpdate_under (i : Nat) (node : NodeId) (component : String) :
    (st.under w).needsUpdate i node component = st.needsUpdate i node component := by
  have hview : (st.under w).stack.view Frame.marks = st.stack.view Frame.marks := st.stack.view_under fun _ _ => rfl
  exact needsUpdate_of_view hview rfl i node component

theorem mark_under (i : Nat) (node : NodeId) (component : String) (target : MarkTarget) (scope : MarkScope) :
    (st.under w).mark i node component target scope = (st.mark i node component target scope).under w := by
  have hmodify (j : Nat) : (st.stack.under w).mark j target node component =
      (st.stack.mark j target node component).under w := st.stack.modify_under fun _ _ _ => rfl
  have hroot : (st.stack.under w).root i = st.stack.root i := by
    rw [FrameStack.root, FrameStack.root, FrameStack.lineage_under]
  cases scope with
  | frame => exact congrArg (EngineState.mk · st.forever (st.nesting + 1)) (hmodify i)
  | root =>
    refine congrArg (EngineState.mk · st.forever (st.nesting + 1)) ?_
    change (st.stack.under w).mark ((st.stack.under w).root i) target node component = _
    rw [hroot]
    exact hmodify _
  | forever => rfl

theorem push_under (f : Frame) (h : w.frame < st.stack.height) : (st.under w).push f = (st.push f).under w :=
  congrArg (EngineState.mk · st.forever (st.nesting + 1)) (st.stack.push_under f h)

theorem closeFrame_under : (st.under w).closeFrame = st.closeFrame.under w :=
  congrArg (EngineState.mk · st.forever (st.nesting + 1)) st.stack.pop_under

theorem enter_under (i : Nat) (a : Activation) : (st.under w).enter i a = (st.enter i a).under w :=
  congrArg (EngineState.mk · st.forever (st.nesting + 1)) (st.stack.modify_under fun _ _ _ => rfl)

theorem shallower_under (h : 0 < st.nesting) : (st.under w).shallower = st.shallower.under w :=
  congrArg (EngineState.mk (st.stack.under w) st.forever) (Nat.sub_add_cancel h).symm

end EngineState

namespace Standby

/-- The socket of the node that stands by. -/
def input (w : Standby) : Link := ⟨w.waiter.node, w.socket⟩

/-- What is told of a frame: its active nodes, and whatever would be taken for an answer of the node that stands
by or for an exposed value of the output. -/
def told (w : Standby) (f : Frame) : List NodeId × Option Value × Option Value × Option Value :=
  (f.active.map Activation.node, f.kept? .exposed w.output, f.kept? .exposed w.input, f.kept? .output w.input)

theorem told_keep {w : Standby} {cache : Cache} {l : Link} (hinput : cache ≠ .input → l ≠ w.input)
    (houtput : cache = .exposed → l ≠ w.output) (f : Frame) (v : Value) : w.told (f.keep cache l v) = w.told f := by
  have hactive : (f.keep cache l v).active = f.active := congrArg Frame.Shape.active (f.shape_keep cache l v)
  rw [told, told, hactive, Frame.kept?_keep, Frame.kept?_keep, Frame.kept?_keep, if_neg, if_neg, if_neg]
  · exact fun h => hinput (h.1 ▸ Cache.noConfusion) h.2.symm
  · exact fun h => hinput (h.1 ▸ Cache.noConfusion) h.2.symm
  · exact fun h => houtput h.1.symm h.2.symm

/-- A stack of nodes that work for one that stands by: some node is active above it, and only its peers are. -/
structure Holds (w : Standby) (s : FrameStack) : Prop where
  present : w.frame < s.height
  busy : s.activeOn w.frame ≠ []
  peers : ∀ i, ∀ a ∈ s.activeOn i, w.peers a.node

/-- What is told of the frames is left as it was. -/
structure Spares (w : Standby) (st st' : EngineState) : Prop where
  view : st'.stack.view w.told = st.stack.view w.told
  nesting : st'.nesting = st.nesting

variable {w : Standby} {s t : FrameStack} {i : Nat}

theorem Spares.refl (st : EngineState) : w.Spares st st := ⟨rfl, rfl⟩

theorem Spares.trans {st st' st'' : EngineState} (h : w.Spares st st') (h' : w.Spares st' st'') :
    w.Spares st st'' := ⟨h'.view.trans h.view, h'.nesting.trans h.nesting⟩

namespace Holds

theorem congr (h : w.Holds s) (hview : t.view w.told = s.view w.told) : w.Holds t := by
  have hnodes (i : Nat) : (t.activeOn i).map Activation.node = (s.activeOn i).map Activation.node := by
    have hi := congrArg (Option.map Prod.fst) (FrameStack.frame?_of_view hview i)
    unfold FrameStack.activeOn
    cases hs : s.frame? i <;> cases ht : t.frame? i <;> simp_all [told]
  refine ⟨(FrameStack.height_of_view hview).symm ▸ h.present, fun hidle => h.busy ?_, fun i a ha => ?_⟩
  · simpa [hidle] using (hnodes w.frame).symm
  · obtain ⟨b, hb, hnode⟩ := List.mem_map.1 (hnodes i ▸ List.mem_map_of_mem ha)
    exact hnode ▸ h.peers i b hb

theorem push (h : w.Holds s) (permeable : Bool) (provider : Option FrameProvider) :
    w.Holds (s.push (.fresh permeable provider)) := by
  have hframe : (s.push (.fresh permeable provider)).activeOn w.frame = s.activeOn w.frame := by
    unfold FrameStack.activeOn
    rw [FrameStack.frame?_push_of_lt _ h.present]
  refine ⟨(FrameStack.height_push s _).symm ▸ Nat.lt_succ_of_lt h.present, hframe ▸ h.busy, fun i a ha => ?_⟩
  unfold FrameStack.activeOn at ha
  rw [FrameStack.frame?_push] at ha
  split_ifs at ha
  · exact nomatch ha
  · exact h.peers i a ha

theorem enter (h : w.Holds s) (i : Nat) {a : Activation} (ha : w.peers a.node) : w.Holds (s.enter i a) := by
  have hactive (j : Nat) : (s.enter i a).activeOn j = s.activeOn j ∨ (s.enter i a).activeOn j = a :: s.activeOn j := by
    by_cases hi : i < s.height
    · rw [FrameStack.activeOn_enter s hi]
      split_ifs
      · exact .inr rfl
      · exact .inl rfl
    · left
      unfold FrameStack.activeOn FrameStack.enter
      rw [FrameStack.frame?_modify]
      split_ifs with hj
      · rw [FrameStack.frame?_eq_none_iff.2 (by omega)]
        rfl
      · rfl
  refine ⟨(FrameStack.height_enter s i a).symm ▸ h.present, ?_, fun j b hb => ?_⟩
  · rcases hactive w.frame with hframe | hframe
    · exact hframe ▸ h.busy
    · exact hframe ▸ List.cons_ne_nil _ _
  · rcases hactive j with hj | hj
    · exact h.peers j b (hj ▸ hb)
    · rcases List.mem_cons.1 (hj ▸ hb) with rfl | hb
      · exact ha
      · exact h.peers j b hb

/-- The first node that becomes active above one that stands by. -/
theorem of_idle (hidle : ∀ j, s.activeOn j = [])
    (hpresent : w.frame < s.height) {a : Activation} (ha : w.peers a.node) : w.Holds (s.enter w.frame a) := by
  have hactive (j : Nat) : (s.enter w.frame a).activeOn j = if w.frame = j then [a] else [] := by
    rw [FrameStack.activeOn_enter s hpresent, hidle]
  refine ⟨(FrameStack.height_enter ..).symm ▸ hpresent, ?_, fun j b hb => ?_⟩
  · rw [hactive, if_pos rfl]
    exact List.cons_ne_nil a []
  · rw [hactive] at hb
    split_ifs at hb
    · exact List.mem_singleton.1 hb ▸ ha
    · exact nomatch hb

/-- The innermost nodes are those that would be active without the one that stands by. -/
theorem active?_under (h : w.Holds s) (i : Nat) : (s.under w).active? i = s.active? i := by
  by_cases hi : i < s.height
  · rw [FrameStack.active?_eq_head?, FrameStack.active?_eq_head?, s.activeOn_under hi]
    split_ifs with hframe
    · subst hframe
      obtain ⟨a, rest, hactive⟩ := List.exists_cons_of_ne_nil h.busy
      rw [hactive]
      rfl
    · rfl
  · unfold FrameStack.active?
    rw [FrameStack.frame?_eq_none_iff.2 (by simpa using hi), FrameStack.frame?_eq_none_iff.2 (by simpa using hi)]

theorem peer_of_active? (h : w.Holds s) {a : Activation} (ha : s.active? i = some a) : w.peers a.node :=
  h.peers i a (List.mem_of_mem_head? (s.active?_eq_head? i ▸ ha))

theorem exists_cons (h : w.Holds s) {f : Frame} (hf : s.frame? w.frame = some f) :
    ∃ a rest, f.active = a :: rest := by
  have hbusy := h.busy
  rw [FrameStack.activeOn, hf] at hbusy
  exact List.exists_cons_of_ne_nil hbusy

theorem leave_under (h : w.Holds s) (i : Nat) : (s.under w).leave i = (s.leave i).under w := by
  refine s.modify_under fun hframe f hf => ?_
  obtain ⟨a, rest, hactive⟩ := h.exists_cons (hframe ▸ hf)
  simp [Frame.leave, Frame.under, hactive]

theorem forward_under (h : w.Holds s) (i : Nat) (socket : String) :
    (s.under w).forward i socket = (s.forward i socket).under w := by
  refine s.modify_under fun hframe f hf => ?_
  obtain ⟨a, rest, hactive⟩ := h.exists_cons (hframe ▸ hf)
  simp [Frame.updateActive, Frame.under, hactive]

end Holds

/-- The second run is the first one with a node that stands by. -/
structure Joins {ω ω' : Type} (w : Standby) (r : Run ω) (r' : Run ω') : Prop where
  state : r'.state = r.state.under w
  counters : r'.counters = r.counters

/-- A change that does not matter to the node that stands by. -/
theorem Joins.change {ω ω' : Type} {r : Run ω} {r' : Run ω'} (h : w.Joins r r') (watch : Watcher ω)
    (watch' : Watcher ω') {change : EngineState → EngineState}
    (hunder : change (r.state.under w) = (change r.state).under w) :
    w.Joins (r.change watch change) (r'.change watch' change) :=
  ⟨(congrArg change h.state).trans hunder, h.counters⟩

/-- An action and its counterpart answer the same and change the two runs alike. -/
structure Agrees {ω ω' α : Type} (w : Standby) (x : Action ω α) (x' : Action ω' α) (r : Run ω) (r' : Run ω') :
    Prop where
  answer : (x' r').1 = (x r).1
  joins : w.Joins (x r).2 (x' r').2
  spares : w.Spares r.state (x r).2.state

/-- An action and its counterpart agree, or the counterpart has come to the limit of the nesting. -/
def Follows {ω ω' α : Type} (w : Standby) {watch' : Watcher ω'} (alarm : watch'.Alarm) (x : Action ω α)
    (x' : Action ω' α) (r : Run ω) (r' : Run ω') : Prop :=
  alarm.raised (x' r').2.seen ∨ w.Agrees x x' r r'

/-- An action that a node which stands by does not disturb: its counterpart takes no alarm back, and follows it
whenever the node does stand by. -/
structure Undisturbed {ω ω' α : Type} (w : Standby) {watch' : Watcher ω'} (alarm : watch'.Alarm) (x : Action ω α)
    (x' : Action ω' α) : Prop where
  lasts : alarm.Lasts x'
  follows : ∀ r r', w.Holds r.state.stack → w.Joins r r' → w.Follows alarm x x' r r'

section
variable {ω ω' α β : Type} {watch : Watcher ω} {watch' : Watcher ω'} {alarm : watch'.Alarm} {r : Run ω} {r' : Run ω'}

theorem Follows.bind {x : Action ω α} {x' : Action ω' α} {f : α → Action ω β} {f' : α → Action ω' β}
    (hx : w.Follows alarm x x' r r') (hlasts : alarm.Lasts (f' (x' r').1))
    (hf : w.Agrees x x' r r' → w.Follows alarm (f (x r).1) (f' (x r).1) (x r).2 (x' r').2) :
    w.Follows alarm (x >>= f) (x' >>= f') r r' := by
  rcases hx with hraised | hx
  · exact .inl (hlasts _ hraised)
  · have hrun : (x' >>= f') r' = f' (x r).1 (x' r').2 := congrArg (f' · (x' r').2) hx.answer
    rcases hf hx with hraised | hf
    · exact .inl (hrun ▸ hraised)
    · exact .inr ⟨hrun ▸ hf.answer, hrun ▸ hf.joins, hx.spares.trans hf.spares⟩

theorem Follows.congr {x y : Action ω α} {x' y' : Action ω' α} (h : w.Follows alarm x x' r r') (hx : y r = x r)
    (hx' : y' r' = x' r') : w.Follows alarm y y' r r' := by
  rcases h with hraised | h
  · exact .inl (hx' ▸ hraised)
  · refine .inr ⟨?_, ?_, ?_⟩
    · rw [hx, hx', h.answer]
    · rw [hx, hx']
      exact h.joins
    · rw [hx]
      exact h.spares

/-- The same is done next if the states are asked for something that is the same for both. -/
theorem Follows.state_ite {c : EngineState → Bool} {x y : Action ω α} {x' y' : Action ω' α}
    (hc : c r'.state = c r.state) (hx : w.Follows alarm x x' r r') (hy : w.Follows alarm y y' r r') :
    w.Follows alarm (Action.state >>= fun st => if c st then x else y)
      (Action.state >>= fun st => if c st then x' else y') r r' := by
  have hrun {ω : Type} {x y : Action ω α} {r : Run ω} {b : Bool} (hb : c r.state = b) :
      (Action.state >>= fun st => if c st then x else y) r = if b then x r else y r := by
    subst hb
    exact apply_ite (fun z : Action ω α => z r) (c r.state = true) x y
  cases hb : c r.state with
  | true => exact hx.congr (hrun hb) (hrun (hc.trans hb))
  | false => exact hy.congr (hrun hb) (hrun (hc.trans hb))

namespace Undisturbed

theorem pure (a : α) : w.Undisturbed alarm (Pure.pure a : Action ω α) (Pure.pure a) :=
  ⟨Watcher.Alarm.lasts_pure a, fun r _ _ h => .inr ⟨rfl, h, .refl r.state⟩⟩

/-- What is known of every answer of the counterpart may be used. -/
theorem bind_of {x : Action ω α} {x' : Action ω' α} {f : α → Action ω β} {f' : α → Action ω' β} {P : α → Prop}
    (hx : w.Undisturbed alarm x x') (hanswers : ∀ r', P (x' r').1)
    (hf : ∀ a, P a → w.Undisturbed alarm (f a) (f' a)) : w.Undisturbed alarm (x >>= f) (x' >>= f') where
  lasts r' h := (hf _ (hanswers r')).lasts _ (hx.lasts r' h)
  follows r r' hholds hjoins :=
    (hx.follows r r' hholds hjoins).bind (hf _ (hanswers r')).lasts fun hagrees =>
      (hf _ (hagrees.answer ▸ hanswers r')).follows _ _ (hholds.congr hagrees.spares.view) hagrees.joins

theorem bind {x : Action ω α} {x' : Action ω' α} {f : α → Action ω β} {f' : α → Action ω' β}
    (hx : w.Undisturbed alarm x x') (hf : ∀ a, w.Undisturbed alarm (f a) (f' a)) :
    w.Undisturbed alarm (x >>= f) (x' >>= f') :=
  hx.bind_of (P := fun _ => True) (fun _ => trivial) fun a _ => hf a

theorem readStack {read : FrameStack → α} (hread : ∀ s, w.Holds s → read (s.under w) = read s) :
    w.Undisturbed alarm (Action.readStack read : Action ω α) (Action.readStack read) where
  lasts _ h := h
  follows r r' hholds hjoins := by
    refine .inr ⟨?_, hjoins, .refl r.state⟩
    exact (congrArg (read ·.stack) hjoins.state).trans (hread _ hholds)

theorem emit (e e' : Event) : w.Undisturbed alarm (Action.emit watch e) (Action.emit watch' e') :=
  ⟨Watcher.Alarm.lasts_emit e', fun r _ _ h => .inr ⟨rfl, ⟨h.state, h.counters⟩, .refl r.state⟩⟩

theorem log (m m' : Message) : w.Undisturbed alarm (Action.log watch m) (Action.log watch' m') := emit _ _

theorem note (s s' : Step) : w.Undisturbed alarm (Action.note watch s) (Action.note watch' s') :=
  ⟨Watcher.Alarm.lasts_note s', fun r _ _ h => .inr ⟨rfl, ⟨h.state, h.counters⟩, .refl r.state⟩⟩

theorem count (name : String) : w.Undisturbed alarm (Action.count name : Action ω Nat) (Action.count name) := by
  refine ⟨fun _ h => h, fun r r' _ h => .inr ⟨?_, ⟨h.state, ?_⟩, .refl r.state⟩⟩
  · exact congrArg (fun counters : Table Nat => (counters.get? name).getD 0 + 1) h.counters
  · exact congrArg (fun counters : Table Nat => counters.insert name ((counters.get? name).getD 0 + 1)) h.counters

/-- A change that spares what is told of the frames and does not matter to the node that stands by. -/
theorem changeState {change : EngineState → EngineState}
    (hspares : ∀ st, w.Holds st.stack → w.Spares st (change st))
    (hunder : ∀ st, w.Holds st.stack → change (st.under w) = (change st).under w) :
    w.Undisturbed alarm (Action.changeState watch change) (Action.changeState watch' change) :=
  ⟨Watcher.Alarm.lasts_changeState change, fun _ _ hholds h =>
    .inr ⟨rfl, h.change watch watch' (hunder _ hholds), hspares _ hholds⟩⟩

/-- What is known of what is read may be used. -/
theorem readStack_bind_of {read : FrameStack → α} {f : α → Action ω β} {f' : α → Action ω' β} {P : α → Prop}
    (hread : ∀ s, w.Holds s → read (s.under w) = read s ∧ P (read s)) (hlasts : ∀ a, alarm.Lasts (f' a))
    (hf : ∀ a, P a → w.Undisturbed alarm (f a) (f' a)) :
    w.Undisturbed alarm (Action.readStack read >>= f) (Action.readStack read >>= f') where
  lasts := .readStack_bind hlasts
  follows r r' hholds hjoins :=
    ((readStack fun s hs => (hread s hs).1).follows r r' hholds hjoins).bind (hlasts _) fun _ =>
      (hf _ (hread _ hholds).2).follows r r' hholds hjoins

/-- Something written along a lineage. -/
theorem writeThrough {change : Frame → Frame} (i : Nat) (htold : ∀ f, w.told (change f) = w.told f)
    (hpermeable : ∀ f, (change f).permeable = f.permeable)
    (hunder : ∀ f a, change (Frame.under f a) = (change f).under a) :
    w.Undisturbed alarm (Action.changeStack watch (·.writeThrough i change))
      (Action.changeStack watch' (·.writeThrough i change)) :=
  changeState (fun _ _ => ⟨FrameStack.view_writeThrough hpermeable htold, rfl⟩) fun st _ =>
    congrArg (EngineState.mk · st.forever (st.nesting + 1)) (st.stack.writeThrough_under hunder i)

/-- A value that is kept, and not as what is told of the frames. -/
theorem keep (i : Nat) {cache : Cache} {l : Link} (hinput : cache ≠ .input → l ≠ w.input)
    (houtput : cache = .exposed → l ≠ w.output) (v : Value) :
    w.Undisturbed alarm (Action.changeStack watch (·.keep i cache l v))
      (Action.changeStack watch' (·.keep i cache l v)) :=
  writeThrough i (told_keep hinput houtput · v) (fun f => congrArg Frame.Shape.permeable (f.shape_keep cache l v))
    fun f a => by cases cache <;> rfl

theorem addSignal (i : Nat) (signal : Link) : w.Undisturbed alarm (Action.changeStack watch (·.addSignal i signal))
    (Action.changeStack watch' (·.addSignal i signal)) :=
  writeThrough i (fun _ => rfl) (fun _ => rfl) fun _ _ => rfl

theorem forward (i : Nat) (socket : String) : w.Undisturbed alarm (Action.changeStack watch (·.forward i socket))
    (Action.changeStack watch' (·.forward i socket)) := by
  refine changeState (fun st _ => ⟨?_, rfl⟩) fun st hst =>
    congrArg (EngineState.mk · st.forever (st.nesting + 1)) (hst.forward_under i socket)
  refine FrameStack.view_modify (fun _ => rfl) fun f => Prod.ext ?_ rfl
  cases hactive : f.active with
  | nil => simp [told, Frame.updateActive, hactive]
  | cons a rest => simp [told, Frame.updateActive, hactive]

theorem mark (i : Nat) (node : NodeId) (component : String) (target : MarkTarget) (scope : MarkScope) :
    w.Undisturbed alarm (Action.changeState watch (·.mark i node component target scope))
      (Action.changeState watch' (·.mark i node component target scope)) := by
  refine changeState (fun st _ => ?_) fun st _ => st.mark_under i node component target scope
  cases scope with
  | frame | root => exact ⟨FrameStack.view_modify (fun _ => rfl) fun _ => rfl, rfl⟩
  | forever => exact ⟨rfl, rfl⟩

/-- Something done one nesting deeper. -/
theorem nested {x : Action ω α} {x' : Action ω' α} (hx : w.Undisturbed alarm x x') :
    w.Undisturbed alarm (Action.nested watch x) (Action.nested watch' x') := by
  refine ⟨hx.lasts.nested, fun r r' hholds hjoins => ?_⟩
  have hdeeper : w.Joins (r.change watch .deeper) (r'.change watch' .deeper) := hjoins.change watch watch' rfl
  rcases hx.follows (r.change watch .deeper) _ hholds hdeeper with hraised | hx
  · exact .inl (alarm.step _ _ hraised)
  · have hnesting : 0 < (x (r.change watch .deeper)).2.state.nesting :=
      hx.spares.nesting.symm ▸ Nat.zero_lt_succ r.state.nesting
    exact .inr ⟨hx.answer, hx.joins.change watch watch' (EngineState.shallower_under _ hnesting), hx.spares.view,
      congrArg (· - 1) hx.spares.nesting⟩

/-- Something done between the opening and the closing of two frames. -/
theorem between {permeable permeable' : Bool} {provider provider' : Option FrameProvider}
    {body : Nat → Action ω α} {body' : Nat → Action ω' α} (hbody : ∀ i, w.Undisturbed alarm (body i) (body' i)) :
    w.Undisturbed alarm (Action.between watch (.fresh permeable provider) (.fresh permeable' provider') body)
      (Action.between watch' (.fresh permeable provider) (.fresh permeable' provider') body') := by
  refine ⟨.between fun i => (hbody i).lasts, fun r r' hholds hjoins => ?_⟩
  let outer := r.change watch (·.push (.fresh permeable provider))
  let outer' := r'.change watch' (·.push (.fresh permeable provider))
  let inner := outer.change watch (·.push (.fresh permeable' provider'))
  let inner' := outer'.change watch' (·.push (.fresh permeable' provider'))
  have houter : w.Holds outer.state.stack := hholds.push permeable provider
  have hinner : w.Joins inner inner' :=
    (hjoins.change watch watch' (EngineState.push_under _ _ hholds.present)).change watch watch'
      (EngineState.push_under _ _ houter.present)
  have htop : inner'.state.stack.top = inner.state.stack.top := by
    rw [hinner.state]
    exact congrArg (· - 1) inner.state.stack.height_under
  have hfollows : w.Follows alarm (body inner.state.stack.top) (body' inner'.state.stack.top) inner inner' := by
    rw [htop]
    exact (hbody _).follows inner inner' (houter.push permeable' provider') hinner
  rcases hfollows with hraised | hx
  · exact .inl (alarm.step _ _ (alarm.step _ _ hraised))
  · exact .inr ⟨hx.answer, (hx.joins.change watch watch' (EngineState.closeFrame_under _)).change watch watch'
      (EngineState.closeFrame_under _), EngineState.view_closeBoth hx.spares.view, hx.spares.nesting⟩

/-- Something done while a node is active. -/
theorem follows_entered {x : Action ω α} {x' : Action ω' α} (hx : w.Undisturbed alarm x x') {a : Activation}
    (hholds : w.Holds (r.state.stack.enter i a)) (hjoins : w.Joins r r') :
    w.Follows alarm
      (Action.changeStack watch (·.enter i a) >>= fun _ => x >>= fun answer =>
        Action.changeStack watch (·.leave i) >>= fun _ => Pure.pure answer)
      (Action.changeStack watch' (·.enter i a) >>= fun _ => x' >>= fun answer =>
        Action.changeStack watch' (·.leave i) >>= fun _ => Pure.pure answer) r r' := by
  let entered := r.change watch (·.enter i a)
  let entered' := r'.change watch' (·.enter i a)
  have hentered : w.Joins entered entered' := hjoins.change watch watch' (EngineState.enter_under _ i a)
  rcases hx.follows entered entered' hholds hentered with hraised | hx
  · exact .inl (alarm.step _ _ hraised)
  · have hleave : ((x entered).2.state.under w).leave i = ((x entered).2.state.leave i).under w :=
      congrArg (EngineState.mk · _ _) ((hholds.congr hx.spares.view).leave_under i)
    have hleft : w.Joins ((x entered).2.change watch (·.leave i)) ((x' entered').2.change watch' (·.leave i)) :=
      hx.joins.change watch watch' hleave
    have htold (f : Frame) : w.told f.leave = Prod.map List.tail id (w.told f) := Prod.ext List.map_tail rfl
    have hview := FrameStack.view_modify_congr i Frame.leave _ (fun _ => rfl) htold hx.spares.view
    exact .inr ⟨hx.answer, hleft,
      hview.trans (congrArg (FrameStack.view w.told) (FrameStack.leave_enter _ i a)), hx.spares.nesting⟩

theorem entered {x : Action ω α} {x' : Action ω' α} (hx : w.Undisturbed alarm x x') (i : Nat) {a : Activation}
    (ha : w.peers a.node) :
    w.Undisturbed alarm
      (Action.changeStack watch (·.enter i a) >>= fun _ => x >>= fun answer =>
        Action.changeStack watch (·.leave i) >>= fun _ => Pure.pure answer)
      (Action.changeStack watch' (·.enter i a) >>= fun _ => x' >>= fun answer =>
        Action.changeStack watch' (·.leave i) >>= fun _ => Pure.pure answer) where
  lasts := hx.lasts.entered i a
  follows _ _ hholds hjoins := hx.follows_entered (hholds.enter i ha) hjoins

end Undisturbed

end

end Standby
end SocketGraph
