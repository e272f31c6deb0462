import SocketGraph.Proofs.Propagations

/-! What a propagation reports. The result is read off the frame that its signals are delivered on, and
nothing is written there but what the handlers on that very frame expose: no frame above shares its
contents. -/
namespace SocketGraph

/-- The value that the first operation of a script exposes, with its socket. -/
def Script.exposure? : Script → Option (String × Value)
  | .expose socket v _ => some (socket, v)
  | _ => none

/-- The value that a handler on a frame exposes, with its socket. -/
def Moment.exposure? (i : Nat) : Moment → Option (Link × Value) :=
  told fun j a script =>
    if j = i then script.exposure?.map fun e => (⟨a.node, e.1⟩, e.2) else none

namespace SocketValues

/-- Set the values of some sockets one after the other. -/
def putAll (t : SocketValues) (values : List (Link × Value)) : SocketValues :=
  values.foldl (fun t e => t.put e.1.node e.1.socket e.2) t

/-- A socket has the value that was set last. -/
theorem get?_putAll (t : SocketValues) (values : List (Link × Value)) (node : NodeId)
    (socket : String) : (t.putAll values).get? node socket =
      (values.filterMap fun e => if e.1 = ⟨node, socket⟩ then some e.2 else none).getLast?.or
        (t.get? node socket) := by
  induction values generalizing t with
  | nil => rfl
  | cons e rest ih =>
    obtain ⟨⟨node', socket'⟩, v⟩ := e
    rw [putAll, List.foldl_cons, ← putAll, ih, get?_put, List.filterMap_cons]
    by_cases h : node = node' ∧ socket = socket'
    · obtain ⟨rfl, rfl⟩ := h
      rw [if_pos ⟨rfl, rfl⟩, if_pos rfl, List.getLast?_cons]
      cases List.getLast? _ <;> rfl
    · have hne : (⟨node', socket'⟩ : Link) ≠ ⟨node, socket⟩ := by
        rintro ⟨⟩
        exact h ⟨rfl, rfl⟩
      rw [if_neg h, if_neg hne]

end SocketValues

namespace FrameStack

variable {s : FrameStack} {i j : Nat}

/-- What a propagation would report from a frame: the signals and the values that are exposed there. -/
def report (s : FrameStack) (i : Nat) : Option (List Link × SocketValues) :=
  (s.frame? i).map fun f => (f.signals, f.exposed)

/-- A frame below one that lets nothing through is written only by those who work on it. -/
theorem mem_lineage_iff_eq (hi : i < s.height) (hapart : s.isPermeable (i + 1) = false) :
    i ∈ s.lineage j ↔ j = i := by
  constructor
  · intro h
    obtain ⟨-, hle, hpermeable⟩ := mem_lineage.1 h
    by_contra hne
    have hopen := hpermeable (i + 1) (Nat.lt_succ_self i) (by omega)
    exact Bool.noConfusion (hopen.symm.trans hapart)
  · rintro rfl
    exact self_mem_lineage hi

theorem report_modify {change : Frame → Frame} (h : ∀ f, (change f).signals = f.signals)
    (h' : ∀ f, (change f).exposed = f.exposed) : (s.modify j change).report i = s.report i := by
  unfold report
  rw [frame?_modify]
  split_ifs
  · cases s.frame? i <;> simp [h, h']
  · rfl

theorem report_writeThrough {change : Frame → Frame} (h : ∀ f, (change f).signals = f.signals)
    (h' : ∀ f, (change f).exposed = f.exposed) : (s.writeThrough j change).report i = s.report i := by
  unfold report
  rw [frame?_writeThrough]
  split_ifs
  · cases s.frame? i <;> simp [h, h']
  · rfl

theorem report_push (f : Frame) (hi : i < s.height) : (s.push f).report i = s.report i := by
  rw [report, frame?_push_of_lt f hi, report]

theorem report_pop (hi : i + 1 < s.height) : s.pop.report i = s.report i := by
  rw [report, frame?_pop, if_pos hi, report]

theorem report_enter (s : FrameStack) (i j : Nat) (a : Activation) :
    (s.enter j a).report i = s.report i := report_modify (fun _ => rfl) fun _ => rfl

theorem report_leave (s : FrameStack) (i j : Nat) : (s.leave j).report i = s.report i :=
  report_modify (fun _ => rfl) fun _ => rfl

section
variable (hi : i < s.height) (hapart : s.isPermeable (i + 1) = false)
include hi hapart

theorem report_putExposed (socket : Link) (v : Value) : (s.putExposed j socket v).report i =
    if j = i then (s.report i).map fun c => (c.1, c.2.put socket.node socket.socket v)
    else s.report i := by
  simp only [report, putExposed, frame?_writeThrough, mem_lineage_iff_eq hi hapart]
  split_ifs
  · cases s.frame? i <;> rfl
  · rfl

theorem report_addSignal (signal : Link) : (s.addSignal j signal).report i =
    if j = i then (s.report i).map fun c => (c.1 ++ [signal], c.2) else s.report i := by
  simp only [report, addSignal, frame?_writeThrough, mem_lineage_iff_eq hi hapart]
  split_ifs
  · cases s.frame? i <;> rfl
  · rfl

end

end FrameStack

/-- A report with what some moments add to it. -/
def Moment.addTo (i : Nat) (ms : List Moment) (c : List Link × SocketValues) :
    List Link × SocketValues :=
  (c.1 ++ ms.filterMap (signal? i), c.2.putAll (ms.filterMap (exposure? i)))

namespace Moment

variable {i : Nat} {ms ms' : List Moment}

theorem addTo_of_silent (hsignals : ms.filterMap (signal? i) = [])
    (hvalues : ms.filterMap (exposure? i) = []) : addTo i ms = id := by
  funext c
  simp [addTo, hsignals, hvalues, SocketValues.putAll]

theorem addTo_congr (hsignals : ms'.filterMap (signal? i) = ms.filterMap (signal? i))
    (hvalues : ms'.filterMap (exposure? i) = ms.filterMap (exposure? i)) :
    addTo i ms' = addTo i ms := by
  funext c
  rw [addTo, addTo, hsignals, hvalues]

theorem addTo_append : addTo i (ms ++ ms') = addTo i ms' ∘ addTo i ms := by
  funext c
  simp [addTo, SocketValues.putAll]

end Moment

namespace Script

variable {i j : Nat} {a : Activation} {st : EngineState}

/-- What an operation writes is what its moment tells of it. -/
theorem report_effect (hi : i < st.stack.height) (hapart : st.stack.isPermeable (i + 1) = false)
    (calls : CallStack) (script : Script) :
    (script.effect j a st).stack.report i =
      (st.stack.report i).map (Moment.addTo i [⟨st, calls, .performed j a script⟩]) := by
  have hsilent (h : script.signalled? = none) (h' : script.exposure? = none) :
      Moment.addTo i [⟨st, calls, .performed j a script⟩] = id :=
    Moment.addTo_of_silent (by simp [Moment.signal?, Moment.told, h])
      (by simp [Moment.exposure?, Moment.told, h'])
  cases script with
  | push socket v next =>
    rw [hsilent rfl rfl, Option.map_id_fun, effect]
    exact FrameStack.report_writeThrough (fun _ => rfl) fun _ => rfl
  | expose socket v next =>
    rw [effect, FrameStack.report_putExposed hi hapart]
    by_cases hj : j = i <;> cases st.stack.report i <;>
      simp [hj, Moment.addTo, Moment.signal?, Moment.exposure?, Moment.told, signalled?, exposure?,
        SocketValues.putAll]
  | exposeSignal socket next =>
    rw [effect]
    split_ifs with hsignal
    · rw [FrameStack.report_addSignal hi hapart]
      by_cases hj : j = i <;> cases st.stack.report i <;>
        simp [hj, hsignal, Moment.addTo, Moment.signal?, Moment.exposure?, Moment.told, signalled?,
          exposure?, SocketValues.putAll]
    · rw [Moment.addTo_of_silent (by simp [Moment.signal?, Moment.told, hsignal])
        (by simp [Moment.exposure?, Moment.told, exposure?]), Option.map_id_fun]
      rfl
  | forward socket next =>
    rw [hsilent rfl rfl, Option.map_id_fun, effect]
    split_ifs
    · exact FrameStack.report_modify (fun _ => rfl) fun _ => rfl
    · rfl
  | mark target scope next =>
    rw [hsilent rfl rfl, Option.map_id_fun]
    cases scope with
    | frame | root => exact FrameStack.report_modify (fun _ => rfl) fun _ => rfl
    | forever => rfl
  | _ =>
    rw [hsilent rfl rfl, Option.map_id_fun]
    rfl

end Script

namespace EngineState

variable {st : EngineState} {i : Nat}

theorem report_pushBoth (f f' : Frame) (hi : i < st.stack.height) :
    ((st.push f).push f').stack.report i = st.stack.report i :=
  (FrameStack.report_push f' (by simp [push]; omega)).trans (FrameStack.report_push f hi)

theorem report_closeBoth (hi : i + 2 < st.stack.height) :
    st.closeBoth.stack.report i = st.stack.report i := by
  have hpop : i + 1 < st.stack.pop.height := by
    rw [FrameStack.height_pop]
    omega
  exact (FrameStack.report_pop hpop).trans (FrameStack.report_pop (by omega))

/-- The frame of a linked scene lets nothing through. -/
theorem apart_openScene (caller : Nat) (pairings : Pairings) (hi : i < st.stack.height)
    (hapart : st.stack.isPermeable (i + 1) = false) :
    (st.openScene caller pairings).stack.isPermeable (i + 1) = false := by
  rw [openScene, push, FrameStack.isPermeable_push, if_neg (by simp [push]; omega), push,
    FrameStack.isPermeable_push, hapart]
  exact ite_self false

theorem apart_openCall (provider : Option Provider) (hi : i + 1 < st.stack.height)
    (hapart : st.stack.isPermeable (i + 1) = false) :
    (st.openCall provider).stack.isPermeable (i + 1) = false := by
  rw [openCall, push, FrameStack.isPermeable_push, if_neg (by simp [push]; omega), push,
    FrameStack.isPermeable_push, if_neg (Nat.ne_of_lt hi), hapart]

/-- The inner frame of a call is the innermost one, and nothing is exposed there yet. -/
theorem report_openCall (st : EngineState) (provider : Option Provider) :
    (st.openCall provider).stack.report (st.stack.height + 1) = some ([], .empty) := by
  have hheight : st.stack.height + 1 = (st.push (.fresh true none)).stack.height := by simp [push]
  rw [hheight, openCall, FrameStack.report, push, FrameStack.frame?_push_height]
  rfl

theorem isPermeable_openCall (st : EngineState) (provider : Option Provider) :
    (st.openCall provider).stack.isPermeable (st.stack.height + 2) = false := by
  rw [FrameStack.isPermeable, FrameStack.frame?_eq_none_iff.2 (by simp)]
  rfl

end EngineState

namespace Course

variable {scene : Scene} {calls : CallStack} {role role' : Role} {st st' : EngineState}
  {ms : List Moment} {i : Nat}

/-- A frame below one that lets nothing through holds what it has held before, and what the handlers on
this very frame have exposed since. -/
theorem report (h : Course scene calls role st ms role' st') (hi : i < st.stack.height)
    (hapart : st.stack.isPermeable (i + 1) = false) :
    st'.stack.report i = (st.stack.report i).map (Moment.addTo i ms) := by
  induction h with
  | rest => rw [Moment.addTo_of_silent rfl rfl, Option.map_id_fun]; rfl
  | seq first _ ih ih' =>
    have hlater := ih' (first.height ▸ hi)
      ((FrameStack.isPermeable_of_outline first.outline _).trans hapart)
    rw [hlater, ih hi hapart, Moment.addTo_append, Option.map_map]
  | kept =>
    rw [Moment.addTo_of_silent rfl rfl, Option.map_id_fun]
    exact FrameStack.report_writeThrough (fun _ => rfl) fun _ => rfl
  | skipped | paired | declined | delivered =>
    rw [Moment.addTo_of_silent rfl rfl, Option.map_id_fun]
    rfl
  | @updated _ _ _ _ _ _ _ _ _ _ _ ih =>
    have hwork := ih (by simpa using hi) ((FrameStack.isPermeable_enter _ _ _ _).trans hapart)
    refine (FrameStack.report_leave _ _ _).trans (hwork.trans ?_)
    rw [EngineState.stack_deeper, EngineState.enter, FrameStack.report_enter]
    refine congrArg (Option.map · _) (Moment.addTo_congr ?_ ?_).symm
    · simp [Moment.signal?, List.filterMap_cons]
    · simp [Moment.exposure?, List.filterMap_cons]
  | triggered _ _ _ _ ih =>
    have hwork := ih (by simpa using hi) ((FrameStack.isPermeable_enter _ _ _ _).trans hapart)
    refine (FrameStack.report_leave _ _ _).trans (hwork.trans ?_)
    rw [EngineState.enter, FrameStack.report_enter]
    refine congrArg (Option.map · _) (Moment.addTo_congr ?_ ?_).symm
    · simp [Moment.signal?, List.filterMap_cons]
    · simp [Moment.exposure?, List.filterMap_cons]
  | idle calls g st script effect =>
    have hwrote := script.report_effect (a := g.activation) (j := g.frame) hi hapart (g :: calls)
    rwa [effect] at hwrote
  | wrote calls g st script => exact script.report_effect hi hapart (g :: calls)
  | inner _ ih => exact ih hi hapart
  | linked pairings course ih =>
    -- the frame that the scene is opened with lets nothing through, even right above this one
    have hscene := ih (by simp; omega) (EngineState.apart_openScene _ _ hi hapart)
    have hheight := course.height
    rw [EngineState.height_openScene] at hheight
    refine (EngineState.report_closeBoth (by omega)).trans (hscene.trans ?_)
    rw [EngineState.openScene, EngineState.report_pushBoth _ _ hi]
    refine congrArg (Option.map · _) (Moment.addTo_congr ?_ ?_).symm
    · simp [Moment.signal?, Moment.openingScene]
    · simp [Moment.exposure?, Moment.openingScene]
  | @signalled _ g st st' _ pairings provider _ course ih =>
    have hscene := EngineState.apart_openScene g.frame pairings hi hapart
    have hcall := ih (by simp; omega) (EngineState.apart_openCall _ (by simp; omega) hscene)
    have hheight := course.height
    simp only [EngineState.height_openCall, EngineState.stack_deeper, EngineState.height_openScene]
      at hheight
    have hclosed : st'.closeBoth.shallower.stack.height = st.stack.height + 2 := by
      simp [EngineState.closeBoth, EngineState.closeFrame, hheight]
    refine (EngineState.report_closeBoth (by omega)).trans
      ((EngineState.report_closeBoth (by omega)).trans (hcall.trans ?_))
    rw [EngineState.openCall, EngineState.report_pushBoth _ _ (by simp; omega), EngineState.stack_deeper,
      EngineState.openScene, EngineState.report_pushBoth _ _ hi]
    refine congrArg (Option.map · _) (Moment.addTo_congr ?_ ?_).symm
    · simp [Moment.signal?, Moment.openingScene]
    · simp [Moment.exposure?, Moment.openingScene]

end Course

/-- The operations of the handlers that some deliveries run are performed on a frame. -/
def Moment.PerformedOn (i depth : Nat) (m : Moment) : Prop :=
  ∀ j a script, m.step = .performed j a script → m.calls.length = depth + 1 → j = i

theorem Moment.Inside.performedOn {depth : Nat} {m : Moment} (h : m.Inside (depth + 1)) (i : Nat) :
    m.PerformedOn i depth := by
  intro j a script hstep hdepth
  rw [Inside, hstep] at h
  exact absurd hdepth (Nat.ne_of_gt h)

theorem Course.performedOn {scene : Scene} {calls : CallStack} {role role' : Role}
    {st st' : EngineState} {ms : List Moment} {i : Nat} (h : Course scene calls role st ms role' st')
    (hrole : role.SignalsOn i) : ∀ m ∈ ms, m.PerformedOn i calls.length := by
  induction h with
  | rest => exact nofun
  | seq first _ ih ih' =>
    exact List.forall_mem_append.2 ⟨ih hrole, ih' (first.same.signalsOn i ▸ hrole)⟩
  | skipped | paired | kept | declined | updated => exact hrole.elim
  | delivered => exact List.forall_mem_singleton.2 nofun
  | triggered _ signal _ _ ih =>
    refine List.forall_mem_append.2 ⟨List.forall_mem_cons.2 ⟨nofun, List.forall_mem_append.2
      ⟨List.forall_mem_cons.2 ⟨nofun, ih ⟨hrole, signal⟩⟩, ?_⟩⟩, List.forall_mem_singleton.2 nofun⟩
    exact List.forall_mem_singleton.2 nofun
  | idle =>
    refine List.forall_mem_singleton.2 ?_
    rintro j a script ⟨⟩ -
    exact hrole.1
  | wrote =>
    refine List.forall_mem_cons.2 ⟨?_, List.forall_mem_singleton.2 nofun⟩
    rintro j a script ⟨⟩ -
    exact hrole.1
  | inner course => exact fun m hm => (course.inside m hm).performedOn i
  | linked _ course =>
    exact fun m hm => (Moment.inside_scope course.inside _ _ _ _ m hm).performedOn i
  | signalled _ _ _ course =>
    refine fun m hm => Moment.Inside.performedOn ?_ i
    exact Moment.inside_scope (Moment.inside_propagating course.inside _ _ _) _ _ _ _ m hm

/-- The value that a handler on a frame exposes at a socket. -/
def Moment.exposedAt? (i : Nat) (socket : Link) (m : Moment) : Option Value :=
  (m.exposure? i).bind fun e => if e.1 = socket then some e.2 else none

/-- A result that tells of some moments and of nothing else: the signals that the handlers of their
deliveries have exposed, in order, and at each socket the value that has been exposed last on the frame
that these handlers work on. -/
structure TriggerResult.Reports (result : TriggerResult) (frame depth : Nat) (ms : List Moment) : Prop
    where
  signals : result.signals = (deliveries depth ms).flatMap Delivery.signals
  values : ∀ node socket, SocketValues.get? result.values node socket =
    (ms.filterMap (Moment.exposedAt? frame ⟨node, socket⟩)).getLast?
  own : ∀ m ∈ ms, m.PerformedOn frame depth

/-- The result of a propagation tells of what has happened since it was begun. Its frame is the inner one
of the two that it opens. -/
def Run.Reported (r : Run History) (run : TriggerResult × Run History) : Prop :=
  ∃ new, run.2.seen.moments = new ++ r.seen.moments ∧
    run.1.Reports (r.state.stack.height + 1) r.seen.calls.length new.reverse

theorem Moment.filterMap_exposedAt? (i : Nat) (socket : Link) (ms : List Moment) :
    ms.filterMap (exposedAt? i socket) =
      (ms.filterMap (exposure? i)).filterMap fun e => if e.1 = socket then some e.2 else none :=
  List.filterMap_filterMap.symm

section
variable {scene : Scene} {socket : String} {sources : List NodeId} {provider : Option Provider}
  {r : Run History} {run : TriggerResult × Run History} {ms : List Moment} {st : EngineState}
  {layers : List (List Delivery)} {left : List Link}

theorem Propagated.reported (h : Propagated scene socket sources provider r run ms st layers left) :
    r.Reported run := by
  obtain ⟨f, hframe, hsignals, hvalues⟩ := h.result
  have hreport := h.course.report (i := r.state.stack.height + 1) (by simp)
    (EngineState.isPermeable_openCall r.state.deeper provider)
  rw [show (r.state.deeper.openCall provider).stack.report (r.state.stack.height + 1) = _ from
    EngineState.report_openCall r.state.deeper provider, FrameStack.report, hframe] at hreport
  obtain ⟨hown, hexposed⟩ := Prod.mk.inj (Option.some.inj hreport)
  refine ⟨_, congrArg History.moments h.seen, ?_, fun node socket => ?_, ?_⟩
  · rw [List.reverse_reverse, deliveries_of_propagated h, ← h.signals, hsignals, hown]
    rfl
  · rw [hvalues, hexposed, SocketValues.get?_putAll, List.reverse_reverse, Moment.filterMap_exposedAt?]
    simp [Moment.exposure?]
  · rw [List.reverse_reverse]
    have hbody := h.course.performedOn (i := r.state.stack.height + 1) rfl
    have hchange (st : EngineState) : (Moment.change r.seen.calls st).PerformedOn
        (r.state.stack.height + 1) r.seen.calls.length := nofun
    refine List.forall_mem_cons.2 ⟨hchange _, List.forall_mem_append.2 ⟨List.forall_mem_append.2
      ⟨List.forall_mem_append.2 ⟨?_, hbody⟩, ?_⟩, List.forall_mem_singleton.2 (hchange _)⟩⟩
    · exact List.forall_mem_cons.2 ⟨hchange _, List.forall_mem_singleton.2 (hchange _)⟩
    · exact List.forall_mem_cons.2 ⟨hchange _, List.forall_mem_singleton.2 (hchange _)⟩

end

/-- A propagation that is refused has nothing to report. -/
theorem Run.reported_of_nothing (r : Run History) (failures : List Failure) :
    r.Reported (⟨[], .empty, failures⟩, r) :=
  ⟨[], rfl, rfl, fun _ _ => rfl, nofun⟩

/-- The result of a trigger, be it one of the host or nested in a handler, tells of that trigger alone,
in whatever state it is sent. -/
theorem Scene.triggers_reported (scene : Scene) (socket : String) (provider : Option Provider)
    (r : Run History) :
    (∀ levels sources, r.Reported
      ((scene.calls .history (levels + 1)).propagate socket sources provider r)) ∧
    ∀ source, r.Reported (scene.triggerSignal .history socket source provider r) := by
  have hnested (levels : Nat) (sources : List NodeId) : r.Reported
      ((scene.calls .history (levels + 1)).propagate socket sources provider r) := by
    cases hrefused : refused? scene r.state sources with
    | some source =>
      change r.Reported (propagateAt scene .history _ socket sources provider r)
      rw [propagateAt_of_refused socket sources provider r hrefused]
      exact r.reported_of_nothing _
    | none =>
      obtain ⟨ms, st, layers, left, h⟩ := propagated_propagateAt (scene.tracked_calls levels) socket
        sources provider r hrefused
      exact h.reported
  refine ⟨hnested, fun source => ?_⟩
  cases source with
  | none => exact r.reported_of_nothing []
  | some source => exact hnested scene.limits.allowance (scene.sources socket source)

end SocketGraph
