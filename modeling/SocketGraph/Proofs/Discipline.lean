import SocketGraph.Proofs.Congruence
import SocketGraph.Proofs.Stage

/-! The discipline of calls. Evaluations and propagations leave the shape of the stack as they found
it, and keep every invariant of the transitions, through any nesting of pulls, signals and linked
scenes and whatever fails on the way. -/
namespace SocketGraph
namespace Invariant

variable {ω α β : Type} {scene : Scene} {watch : Watcher ω}

/-- Calls that keep an invariant wherever they may be made. -/
structure Safe (I : Invariant scene watch) (below : Calls ω) : Prop where
  evaluate : ∀ {calls : CallStack} {s : FrameStack} {n i : Nat} (node : NodeId)
    (requested : Option String), s.Ready I.pairs calls i → s.Shows calls →
    I.Leads ⟨calls, s, n⟩ (below.evaluate i node requested) ⟨calls, s, n⟩
  propagate : ∀ {calls : CallStack} {s : FrameStack} {n : Nat} (socket : String)
    (sources : List NodeId) (provider : Option Provider), s.Served I.pairs calls s.top → s.Shows calls →
    I.Leads ⟨calls, s, n⟩ (below.propagate socket sources provider) ⟨calls, s, n⟩

variable {I : Invariant scene watch} {below : Calls ω} {calls : CallStack} {s : FrameStack}
  {n i : Nat}

/-- Actions that leave a stage as it was make up a congruence. -/
def leaving (I : Invariant scene watch) (g : Stage) : Congruence watch watch where
  Relates x _ := I.Leads g x g
  relates_pure a := leads_pure g a
  relates_bind_of hx hanswers _ hf r h := hf _ (hanswers r) _ (hx r h)
  relates_emit e := leads_emit g e

/-! Inputs. -/

section
variable {lookup : Lookup ω} (hbelow : I.Safe below) (hready : s.Ready I.pairs calls i)
  (hshows : s.Shows calls)
  (hlookup : ∀ socket, I.Leads ⟨calls, s, n⟩ (lookup i socket) ⟨calls, s, n⟩)
include hbelow hready hshows hlookup

/-- Only the input of the node that is active innermost is written. -/
theorem leads_inputOf {a : Activation} (hactive : s.active? i = some a) (socket : String) :
    I.Leads ⟨calls, s, n⟩ (inputOf scene watch below lookup i a socket) ⟨calls, s, n⟩ := by
  let R : Congruence watch watch := I.leaving ⟨calls, s, n⟩
  have hproducer (l : Link) : R.Relates (resolveProducer below lookup i l) (resolveProducer below lookup i l) :=
    R.relates_resolveProducer below below lookup lookup (leads_readStack _ _)
      (hbelow.evaluate _ _ hready hshows) (hlookup l)
  have hresolve : R.Relates (resolveInput scene below lookup i a socket) (resolveInput scene below lookup i a socket) :=
    R.relates_resolveInput below below lookup lookup rfl (fun l _ => hproducer l) (leads_readStack _ _)
      fun _ => hlookup _
  refine R.relates_inputOf below below lookup lookup (leads_readStack _ _) hresolve fun v =>
    leads_changeStack fun st hst => ⟨.putInput socket v ?_ ?_, ?_⟩
  · exact hready.congr hst.symm
  · rwa [FrameStack.active?_congr hst]
  · rwa [FrameStack.shape_putInput]

theorem leads_fetchWith (socket : String) :
    I.Leads ⟨calls, s, n⟩ (fetchWith scene watch below lookup i socket) ⟨calls, s, n⟩ := by
  refine Leads.readStack_bind (s.active? i) (fun t ht => FrameStack.active?_congr ht i) ?_
  cases hactive : s.active? i with
  | none => exact leads_pure _ _
  | some a => exact leads_inputOf hbelow hready hshows hlookup hactive socket

end

theorem leads_askHost (g : Stage) (provider : Provider) (socket : Link) :
    I.Leads g (askHost watch provider socket) g :=
  (I.leaving g).relates_askHost provider socket

/-- A look-up goes from gateway to gateway; at each of them the frames are ready for the input that
answers. -/
theorem leads_lookupWithin (hbelow : I.Safe below) (hshows : s.Shows calls) (steps : Nat)
    (hserved : s.Served I.pairs calls i) (socket : Link) :
    I.Leads ⟨calls, s, n⟩ (lookupWithin scene watch below steps i socket) ⟨calls, s, n⟩ := by
  induction steps generalizing i socket with
  | zero => exact leads_pure _ _
  | succ steps ih =>
    refine Leads.readStack_bind (s.provider? i) (fun t ht => FrameStack.provider?_congr ht i) ?_
    match hprovider : s.provider? i with
    | none => exact leads_pure _ _
    | some (.host provider) =>
      exact (leads_askHost _ provider socket).bind fun _ => leads_pure _ _
    | some (.gateway b) =>
      have hcaller : s.Ready I.pairs calls b.caller := hserved.caller b hprovider
      dsimp only
      split
      · rename_i own hown
        refine (leads_note (.paired hserved hprovider hown hshows)).bind fun _ => ?_
        exact leads_fetchWith hbelow hcaller hshows (fun socket => ih hcaller.served socket) own
      · exact ih hcaller.served socket

theorem leads_provide (hbelow : I.Safe below) (hshows : s.Shows calls)
    (hserved : s.Served I.pairs calls i) (socket : Link) :
    I.Leads ⟨calls, s, n⟩ (provide scene watch below i socket) ⟨calls, s, n⟩ :=
  leads_lookupWithin hbelow hshows (i + 1) hserved socket

theorem leads_fetchInput (hbelow : I.Safe below) (hready : s.Ready I.pairs calls i)
    (hshows : s.Shows calls) (socket : String) :
    I.Leads ⟨calls, s, n⟩ (fetchInput scene watch below i socket) ⟨calls, s, n⟩ :=
  leads_fetchWith hbelow hready hshows (fun socket => leads_provide hbelow hshows hready.served socket)
    socket

/-! Handlers. -/

/-- The stage at which a handler works that was started on some stage. -/
def working (calls : CallStack) (s : FrameStack) (n : Nat) (g : Invocation) : Stage :=
  ⟨g :: calls, s.enter g.frame g.current, n⟩

/-- An action of a handler at work: all that it changes about the stage are the signals forwarded and
the linked scene that the handler runs. -/
def Works (I : Invariant scene watch) (calls : CallStack) (s : FrameStack) (n i : Nat)
    (a : Activation) (x : Action ω α) : Prop :=
  ∀ forwarded linked r, I.Holds (working calls s n ⟨i, a, forwarded, linked⟩) r →
    ∃ forwarded' linked', I.Holds (working calls s n ⟨i, a, forwarded', linked'⟩) (x r).2

/-- What an update handler forwards is not kept. -/
theorem sent_of_not_signal {a : Activation} (h : a.isSignal = false) (sockets : List String) :
    a.sent sockets = a := by
  rw [Activation.sent_eq]
  obtain ⟨_, _, _, _, cause⟩ := a
  cases cause with
  | pull requested => rfl
  | push triggered forwarded => exact absurd h (by simp [Activation.isSignal])

section
variable (hready : s.Ready I.pairs calls i)
include hready

/-- The frame of a handler at work is ready for what the handler calls. -/
theorem ready_working {g : Invocation} (hg : g.frame = i) :
    (s.enter g.frame g.current).Ready I.pairs (g :: calls) i :=
  hg ▸ (hready.enter _ (Nat.le_refl _)).cons g

/-- A change of contents on behalf of the node that is at work. -/
theorem leads_write {change : EngineState → EngineState} {a : Activation}
    (hchange : ∀ (st : EngineState) (g : Invocation), st.stack.Ready I.pairs (g :: calls) i →
      g.activation = a → st.stack.active? i = some g.current →
      Transition scene I.pairs (g :: calls) st (change st))
    (hshape : ∀ st : EngineState, (change st).stack.shape = st.stack.shape)
    (hnesting : ∀ st : EngineState, (change st).nesting = st.nesting) (forwarded : List String)
    (linked : Option Nat) :
    I.Leads (working calls s n ⟨i, a, forwarded, linked⟩) (Action.changeState watch change)
      (working calls s n ⟨i, a, forwarded, linked⟩) := by
  have hown : (s.enter i (a.sent forwarded)).Ready I.pairs (⟨i, a, forwarded, linked⟩ :: calls) i :=
    ready_working (g := ⟨i, a, forwarded, linked⟩) hready rfl
  refine leads_changeState (fun st hst => ⟨hchange st ⟨i, a, forwarded, linked⟩ ?_ rfl ?_, ?_⟩)
    fun st h => (hnesting st).trans h
  · exact hown.congr hst.symm
  · rw [FrameStack.active?_congr hst]
    exact FrameStack.active?_enter_self hready.present _
  · rw [hshape, hst]
    rfl

variable {a : Activation} {c : Component} (hshows : s.Shows calls) (hmade : scene.Instance c a)
include hshows hmade

/-- An operation is noted for the handler that is at work. -/
theorem leads_performed (script : Script) (forwarded : List String) (linked : Option Nat) :
    I.Leads (working calls s n ⟨i, a, forwarded, linked⟩)
      (Action.note watch (.performed i a script))
      ⟨⟨i, a, forwarded ++ script.forwarded?.toList, script.pairings?.map fun _ => s.height⟩ :: calls,
        s.enter i (a.sent forwarded), n⟩ := by
  have hnote := leads_note (I := I) (g := working calls s n ⟨i, a, forwarded, linked⟩)
    (.performed (g := ⟨i, a, forwarded, linked⟩) script (hready.enter _ (Nat.le_refl _))
      (hshows.enter ⟨i, a, forwarded, linked⟩ hready.present) hmade)
  simpa [working, CallStack.after, Invocation.perform, Invocation.current] using hnote

/-- An operation that forwards nothing: it is noted, done, and the handler goes on. -/
theorem works_operation {script : Script} {x : Action ω α} {f : α → Action ω β}
    (hscript : script.forwarded? = none)
    (hx : ∀ forwarded linked, linked = script.pairings?.map (fun _ => s.height) →
      I.Leads (working calls s n ⟨i, a, forwarded, linked⟩) x
        (working calls s n ⟨i, a, forwarded, linked⟩))
    (hf : ∀ y, I.Works calls s n i a (f y)) :
    I.Works calls s n i a
      (Action.note watch (.performed i a script) >>= fun _ => x >>= f) := by
  intro forwarded linked r h
  have hnote := leads_performed hready hshows hmade script forwarded linked r h
  rw [hscript, Option.toList_none, List.append_nil] at hnote
  exact hf _ _ _ _ (hx forwarded _ rfl _ hnote)

/-- A signal of a signal handler joins the list of its own activation; one of an update handler is
only reported. -/
theorem works_forward (socket : String) (next : Script) {f : Unit → Action ω β}
    (hf : ∀ y, I.Works calls s n i a (f y)) :
    I.Works calls s n i a (Action.note watch (.performed i a (.forward socket next)) >>= fun _ =>
      Action.readStack (fun s => (s.active? i).any Activation.isSignal) >>= fun signal =>
        if signal then Action.changeStack watch (·.forward i socket) >>= f
        else Action.log watch (.forwardIgnored a.node socket) >>= f) := by
  intro forwarded linked r h
  have hnote :=
    leads_performed hready hshows hmade (.forward socket next) forwarded linked r h
  change I.Holds ⟨⟨i, a, forwarded ++ [socket], none⟩ :: calls, s.enter i (a.sent forwarded), n⟩ _
    at hnote
  have hready' : (s.enter i (a.sent forwarded)).Ready I.pairs
      (⟨i, a, forwarded ++ [socket], none⟩ :: calls) i :=
    (hready.enter _ (Nat.le_refl _)).cons _
  have hleads : I.Leads
      ⟨⟨i, a, forwarded ++ [socket], none⟩ :: calls, s.enter i (a.sent forwarded), n⟩
      (Action.readStack (fun s => (s.active? i).any Activation.isSignal) >>= fun signal =>
        if signal then Action.changeStack watch (·.forward i socket)
        else Action.log watch (.forwardIgnored a.node socket))
      (working calls s n ⟨i, a, forwarded ++ [socket], none⟩) := by
    refine Leads.readStack_bind a.isSignal ?_ ?_
    · intro t ht
      rw [FrameStack.active?_congr ht, FrameStack.active?_enter_self hready.present]
      simp
    · cases hsignal : a.isSignal with
      | true =>
        refine leads_changeState (fun st hst => ⟨.forward socket (hready'.congr hst.symm), ?_⟩)
          fun _ h => h
        have hforward := FrameStack.shape_forward_congr hst i socket
        rwa [FrameStack.forward_enter, Activation.forward_sent] at hforward
      | false =>
        have hlog := leads_log (I := I) (working calls s n ⟨i, a, forwarded ++ [socket], none⟩)
          (.forwardIgnored a.node socket)
        simp only [working, Invocation.current, sent_of_not_signal hsignal] at hlog ⊢
        exact hlog
  have hmore := hf () (forwarded ++ [socket]) none _ (hleads _ hnote)
  -- the rest of the script is the same on both sides of the choice
  have hchoice : ∀ (b : Bool) (x y : Action ω Unit) (r : Run ω),
      ((if b then x >>= f else y >>= f) r).2 = (f () ((if b then x else y) r).2).2 := by
    intro b x y r
    cases b <;> rfl
  obtain ⟨forwarded', linked', hmore⟩ := hmore
  exact ⟨forwarded', linked', (congrArg (I.Holds _) (hchoice _ _ _ _)).mpr hmore⟩

omit hmade in
/-- A linked scene is evaluated or signalled on frames of its own and leaves nothing of them. -/
theorem leads_sceneScope {p : Pairings} (hpairs : I.pairs a p) (forwarded : List String)
    {body : Nat → Action ω α}
    (hbody : ∀ t : FrameStack,
      t.Ready I.pairs (⟨i, a, forwarded, some s.height⟩ :: calls) t.top →
      t.Shows (⟨i, a, forwarded, some s.height⟩ :: calls) →
      I.Leads ⟨⟨i, a, forwarded, some s.height⟩ :: calls, t, n⟩ (body t.top)
        ⟨⟨i, a, forwarded, some s.height⟩ :: calls, t, n⟩) :
    I.Leads (working calls s n ⟨i, a, forwarded, some s.height⟩)
      (Action.sceneScope watch i p body)
      (working calls s n ⟨i, a, forwarded, some s.height⟩) := by
  have hready' : (s.enter i (a.sent forwarded)).Ready I.pairs
      (⟨i, a, forwarded, some s.height⟩ :: calls) i :=
    (hready.enter _ (Nat.le_refl _)).cons _
  have hscene := hready'.sceneScope (g := ⟨i, a, forwarded, some s.height⟩) List.mem_cons_self
    (by simp) (FrameStack.active?_enter_self hready.present _) hpairs
  have hshows' := ((hshows.enter ⟨i, a, forwarded, some s.height⟩ hready.present).push false
    (some (.gateway ⟨i, p⟩))).push true none
  have hinner := hbody _ (by simpa [Invocation.current] using hscene) hshows'
  refine leads_between false true (some (.gateway ⟨i, p⟩)) none rfl rfl ?_ (by simp) ?_
  · intro b hb
    obtain rfl : b = ⟨i, p⟩ := by simpa [eq_comm] using hb
    exact ⟨rfl, hready'.present⟩
  · simpa using hinner

variable (hbelow : I.Safe below)
include hbelow

/-- A script works through, whatever its operations answer. -/
theorem works_perform (script : Script) (hlinks : script.Links (I.pairs a)) :
    I.Works calls s n i a (perform scene watch below i a script) := by
  have hown : ∀ forwarded linked, (s.enter i (a.sent forwarded)).Ready I.pairs
      (⟨i, a, forwarded, linked⟩ :: calls) i :=
    fun forwarded linked => (hready.enter _ (Nat.le_refl _)).cons _
  have hwork : ∀ forwarded linked,
      (s.enter i (a.sent forwarded)).Shows (⟨i, a, forwarded, linked⟩ :: calls) :=
    fun forwarded linked => hshows.enter ⟨i, a, forwarded, linked⟩ hready.present
  induction script with
  | done outcome => exact fun forwarded linked r h => ⟨forwarded, linked, h⟩
  | fetch socket next ih =>
    refine works_operation hready hshows hmade rfl (fun forwarded linked _ => ?_) fun answer =>
      ih answer (hlinks answer)
    exact leads_fetchInput hbelow (hown forwarded linked) (hwork forwarded linked) socket
  | push socket v next ih =>
    refine works_operation hready hshows hmade rfl (fun forwarded linked _ =>
      leads_write hready ?_ ?_ ?_ forwarded linked) fun _ => ih hlinks
    · rintro st g hst rfl hactive
      simpa [Invocation.current] using Transition.putOutput socket v hst hactive
    · exact fun st => by simp
    · exact fun st => rfl
  | expose socket v next ih =>
    refine works_operation hready hshows hmade rfl (fun forwarded linked _ =>
      leads_write hready ?_ ?_ ?_ forwarded linked) fun _ => ih hlinks
    · rintro st g hst rfl hactive
      simpa [Invocation.current] using Transition.putExposed socket v hst hactive
    · exact fun st => by simp
    · exact fun st => rfl
  | hasExposed socket next ih =>
    exact works_operation hready hshows hmade rfl (fun _ _ _ => leads_readStack _ _)
      fun answer => ih answer (hlinks answer)
  | exposeSignal socket next ih =>
    rw [perform]
    split
    · refine works_operation hready hshows hmade rfl (fun forwarded linked _ =>
        leads_write hready ?_ ?_ ?_ forwarded linked) fun _ => ih hlinks
      · rintro st g hst rfl hactive
        simpa [Invocation.current] using Transition.addSignal socket hst hactive
      · exact fun st => by simp
      · exact fun st => rfl
    · exact works_operation hready hshows hmade rfl (fun _ _ _ => leads_log _ _) fun _ =>
        ih hlinks
  | forward socket next ih =>
    exact works_forward hready hshows hmade socket next fun _ => ih hlinks
  | mark target scope next ih =>
    refine works_operation hready hshows hmade rfl (fun forwarded linked _ =>
      leads_write hready ?_ ?_ ?_ forwarded linked) fun _ => ih hlinks
    · rintro st g hst rfl hactive
      simpa [Invocation.current] using
        Transition.mark target scope hst hactive (hmade.sent g.forwarded)
    · exact fun st => by cases scope <;> simp [EngineState.mark]
    · exact fun st => by cases scope <;> rfl
  | emit event next ih =>
    exact works_operation hready hshows hmade rfl (fun _ _ _ => leads_emit _ _) fun _ =>
      ih hlinks
  | count name next ih =>
    exact works_operation hready hshows hmade rfl (fun _ _ _ => leads_count _ _) fun n =>
      ih n (hlinks n)
  | pullScene p target next ih =>
    refine works_operation hready hshows hmade rfl (fun forwarded linked hlinked => ?_)
      fun answer => ih answer (hlinks.2 answer)
    subst hlinked
    exact leads_sceneScope hready hshows hlinks.1 forwarded fun t ht hshows' =>
      hbelow.evaluate _ _ ht hshows'
  | pushScene p target next ih =>
    refine works_operation hready hshows hmade rfl (fun forwarded linked hlinked => ?_)
      fun answer => ih answer (hlinks.2 answer)
    subst hlinked
    exact leads_sceneScope hready hshows hlinks.1 forwarded fun t ht hshows' =>
      hbelow.propagate _ _ _ ht.served hshows'

end

end Invariant
end SocketGraph
