import SocketGraph.Engine
import SocketGraph.Proofs.Discipline

/-! Every activation that an evaluation or a delivery begins is ended again, whatever its handler does
and however it fails; so all calls of a scene are safe, at every nesting. -/
namespace SocketGraph
namespace Invariant

variable {ω α β : Type} {scene : Scene} {watch : Watcher ω} {I : Invariant scene watch}
  {below : Calls ω} {calls : CallStack} {s : FrameStack} {n i : Nat}

theorem leads_enter {a : Activation} {c : Component} (hready : s.Ready I.pairs calls i)
    (hmade : scene.Instance c a) :
    I.Leads ⟨calls, s, n⟩ (Action.changeStack watch (·.enter i a)) ⟨calls, s.enter i a, n⟩ :=
  leads_changeStack fun _ hst =>
    ⟨.enter (hready.congr hst.symm) hmade, FrameStack.shape_enter_congr hst i a⟩

/-- Whatever an activation has become, its end leaves the frame as it was before. -/
theorem leads_leave (a : Activation) (hready : s.Ready I.pairs calls i) :
    I.Leads ⟨calls, s.enter i a, n⟩ (Action.changeStack watch (·.leave i)) ⟨calls, s, n⟩ := by
  refine leads_changeStack fun st hst => ⟨.leave ?_, ?_⟩
  · exact (hready.enter a (Nat.le_refl _)).congr hst.symm
  · have hleave := FrameStack.shape_leave_congr hst i
    rwa [FrameStack.leave_enter] at hleave

section
variable {a : Activation} {c : Component} (hready : s.Ready I.pairs calls i) (hshows : s.Shows calls)
  (hmade : scene.Instance c a)
include hready hshows hmade

/-- A handler is started for the activation on top of its frame, works, and is finished. -/
theorem handler_works (hn : 0 < n ∧ n < scene.limits.recursionDepth) {x : Action ω (Outcome Unit)}
    (hx : I.Works calls s n i a x) (r : Run ω) (h : I.Holds ⟨calls, s.enter i a, n⟩ r) :
    ∃ forwarded, I.Holds ⟨calls, s.enter i (a.sent forwarded), n⟩
      ((Action.note watch (.started i a) >>= fun _ => x >>= fun y =>
        Action.note watch (.finished i a y) >>= fun _ => pure y) r).2 := by
  have hready' (forwarded : List String) : (s.enter i (a.sent forwarded)).Ready I.pairs calls i :=
    hready.enter _ (Nat.le_refl _)
  have hshows' (forwarded : List String) (linked : Option Nat) :=
    hshows.enter ⟨i, a, forwarded, linked⟩ hready.present
  have hstarted := leads_note (I := I) (g := ⟨calls, s.enter i a, n⟩)
    (.started hn (hready' []) (hshows' [] none) hmade) r h
  obtain ⟨forwarded, linked, hworked⟩ := hx [] none _ hstarted
  have hfinished := leads_note (I := I) (g := working calls s n ⟨i, a, forwarded, linked⟩)
    (.finished (g := ⟨i, a, forwarded, linked⟩) (x (Action.note watch (.started i a) r).2).1
      (hready' forwarded) (hshows' forwarded linked)) _ hworked
  exact ⟨forwarded, hfinished⟩

end

/-- An activation is ended after whatever was done in it. -/
theorem leads_within {a : Activation} {c : Component} (hready : s.Ready I.pairs calls i)
    (hmade : scene.Instance c a) {x : Action ω α} {f : α → Action ω β}
    (hx : ∀ r, I.Holds ⟨calls, s.enter i a, n⟩ r →
      ∃ forwarded, I.Holds ⟨calls, s.enter i (a.sent forwarded), n⟩ (x r).2)
    (hf : ∀ y, I.Leads ⟨calls, s, n⟩ (f y) ⟨calls, s, n⟩) :
    I.Leads ⟨calls, s, n⟩ (Action.changeStack watch (·.enter i a) >>= fun _ => x >>= fun y =>
      Action.changeStack watch (·.leave i) >>= fun _ => f y) ⟨calls, s, n⟩ := by
  intro r h
  obtain ⟨forwarded, hran⟩ := hx _ (leads_enter hready hmade r h)
  exact hf _ _ (leads_leave _ hready _ hran)

theorem leads_refuse (g : Stage) (node : NodeId) : I.Leads g (refuse scene watch node) g :=
  (leads_log _ _).bind fun _ => leads_pure _ _

section
variable (hbelow : I.Safe below)
include hbelow

/-- An update handler runs only when it is not nested too deep. -/
theorem holds_runUpdate (hready : s.Ready I.pairs calls i) (hshows : s.Shows calls) {c : Component}
    {a : Activation} (hmade : scene.Instance c a) (hn : 0 < n) (r : Run ω)
    (h : I.Holds ⟨calls, s.enter i a, n⟩ r) :
    ∃ forwarded, I.Holds ⟨calls, s.enter i (a.sent forwarded), n⟩
      (runUpdate scene watch below i c a r).2 := by
  rw [runUpdate_apply, h.nesting]
  split
  · exact ⟨[], leads_refuse _ _ r h⟩
  · rename_i hdepth
    unfold attempt
    cases hhandler : c.update with
    | none => exact ⟨[], h⟩
    | some handler =>
      have hlog := leads_log (I := I) ⟨calls, s.enter i a, n⟩
        (.evaluating a.node a.component a.requested? n) r h
      have hworks := works_perform hready hshows hmade hbelow (n := n) (handler a)
        ((I.links hmade).update handler hhandler)
      exact handler_works hready hshows hmade ⟨hn, Nat.lt_of_not_le hdepth⟩ hworks _ hlog

/-- A node is evaluated one nesting deeper, and nothing of that is left afterwards. -/
theorem leads_evaluateAt (hready : s.Ready I.pairs calls i) (hshows : s.Shows calls) (node : NodeId)
    (requested : Option String) :
    I.Leads ⟨calls, s, n⟩ (evaluateAt scene watch below i node requested) ⟨calls, s, n⟩ := by
  intro r h
  rcases evaluateAt_cases watch below i node requested r with
    ⟨failure, heq⟩ | ⟨info, -, -, heq⟩ | ⟨info, c, hinfo, hget, -, heq⟩
  · rwa [heq]
  · rw [heq]
    exact leads_note (.skipped node hready hshows) r h
  · rw [heq]
    let a := c.activation node info.attributes (.pull requested)
    have hmade : scene.Instance c a := ⟨info, .pull requested, hinfo, hget, rfl⟩
    have hactive : I.Leads ⟨calls, s, n⟩ (activeUpdate scene watch below i c a) ⟨calls, s, n⟩ := by
      refine leads_within hready hmade (fun r h => ?_) fun _ => leads_pure _ _
      obtain ⟨forwarded, hran⟩ :=
        holds_runUpdate hbelow hready hshows hmade (Nat.succ_pos n) _ (leads_deeper _ r h)
      exact ⟨forwarded, leads_shallower _ _ hran⟩
    exact hactive r h

theorem leads_deliver (hready : s.Ready I.pairs calls i) (hshows : s.Shows calls)
    (hn : 0 < n ∧ n < scene.limits.recursionDepth) (link : Link) :
    I.Leads ⟨calls, s, n⟩ (deliver scene watch below i link) ⟨calls, s, n⟩ := by
  rw [deliver_eq]
  refine (leads_note (.delivered link hready hshows)).bind fun _ => ?_
  split
  · exact leads_pure _ _
  · rename_i a script hreceiver
    obtain ⟨c, handler, hmade, hhandler, rfl⟩ := Scene.instance_of_receiver hreceiver
    refine leads_within hready hmade (fun r h => ?_) fun _ => leads_pure _ _
    exact handler_works hready hshows hmade hn (works_perform hready hshows hmade hbelow (n := n) _
      ((I.links hmade).signal handler hhandler link.socket)) r h

/-- Signals are delivered only when their handlers are not nested too deep. -/
theorem leads_walk (hready : s.Ready I.pairs calls i) (hshows : s.Shows calls) (levels : Nat)
    (tally : Tally) (links : List Link)
    (hn : links ≠ [] → 0 < n ∧ n < scene.limits.recursionDepth) :
    I.Leads ⟨calls, s, n⟩ (walk scene watch below i levels tally links) ⟨calls, s, n⟩ :=
  (I.leaving ⟨calls, s, n⟩).relates_walk_of_any below below levels tally fun hlinks link =>
    leads_deliver hbelow hready hshows (hn hlinks) link

end

theorem leads_conclude (g : Stage) (tally : Tally) : I.Leads g (conclude watch i tally) g :=
  (I.leaving g).relates_conclude tally (leads_readStack _ _)

/-- A call has frames of its own, from which the gateways below can be reached. -/
theorem leads_callScope (provider : Option Provider) (hserved : s.Served I.pairs calls s.top)
    (hshows : s.Shows calls) {body : Nat → Action ω α}
    (hbody : ∀ t : FrameStack, t.Ready I.pairs calls t.top → t.Shows calls →
      I.Leads ⟨calls, t, n⟩ (body t.top) ⟨calls, t, n⟩) :
    I.Leads ⟨calls, s, n⟩ (Action.callScope watch provider body) ⟨calls, s, n⟩ := by
  have hready := FrameStack.Ready.callScope provider hserved
  have hshows' := (hshows.push true none).push true (provider.map .host)
  refine leads_between true true none (provider.map .host) rfl rfl (by simp) ?_ ?_
  · intro b
    cases provider <;> simp
  · simpa using hbody _ (by simpa using hready) hshows'

theorem leads_propagateAt (hbelow : I.Safe below) (hserved : s.Served I.pairs calls s.top)
    (hshows : s.Shows calls) (socket : String) (sources : List NodeId) (provider : Option Provider) :
    I.Leads ⟨calls, s, n⟩ (propagateAt scene watch below socket sources provider)
      ⟨calls, s, n⟩ := by
  refine Leads.state_bind fun st _ (hst : st.nesting = n) => ?_
  split
  · exact (leads_refuse _ _).bind fun _ => leads_pure _ _
  · rename_i hrefused
    refine leads_nested (leads_callScope provider hserved hshows fun t ht hshows' => ?_)
    refine (leads_walk hbelow ht hshows' _ _ _ fun hlinks => ?_).bind fun _ => leads_conclude _ _
    -- a propagation that reaches an input has a source, so it was not refused for its nesting
    refine ⟨Nat.succ_pos n, Nat.lt_of_not_le fun hdeep => ?_⟩
    have hdeep : scene.limits.recursionDepth ≤ st.nesting + 1 := hst ▸ hdeep
    rw [refused?, if_pos hdeep, List.head?_eq_none_iff] at hrefused
    rw [hrefused] at hlinks
    exact hlinks rfl

/-- All calls of a scene are safe, by induction on the levels of nesting that are left to them. -/
theorem safe_calls (I : Invariant scene watch) (levels : Nat) :
    I.Safe (scene.calls watch levels) := by
  induction levels with
  | zero => exact ⟨fun _ _ _ _ => leads_pure _ _, fun _ _ _ _ _ => leads_pure _ _⟩
  | succ levels ih =>
    exact ⟨fun node requested hready hshows => leads_evaluateAt ih hready hshows node requested,
      fun socket sources provider hserved hshows =>
        leads_propagateAt ih hserved hshows socket sources provider⟩

theorem safe_hostCalls (I : Invariant scene watch) : I.Safe (scene.hostCalls watch) :=
  I.safe_calls _

end Invariant
end SocketGraph
