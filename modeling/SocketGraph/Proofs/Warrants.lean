import SocketGraph.Proofs.Summons

/-! Warranted runs. Whatever an engine does, the moments that it adds to the history are warranted: handlers
are started for a reason, nodes are left as they are because of a mark, and deliveries are heeded. -/
namespace SocketGraph

open Course

/-- One run leads to another, and the moments in between are warranted. -/
def Tells (scene : Scene) (paired : Pairings → Prop) (r r' : Run History) : Prop :=
  ∃ ms, r'.seen.moments = ms.reverse ++ r.seen.moments ∧ Warranted scene paired ms

variable {α β : Type} {scene : Scene} {paired : Pairings → Prop} {calls : CallStack} {role : Role}
  {Q Q' : FrameStack → Prop} {r r' r'' : Run History}

theorem Tells.of_eq (h : r'.seen.moments = r.seen.moments) : Tells scene paired r r' := ⟨[], h, .nil⟩

theorem Tells.refl (r : Run History) : Tells scene paired r r := .of_eq rfl

theorem Tells.trans (h : Tells scene paired r r') (h' : Tells scene paired r' r'') :
    Tells scene paired r r'' := by
  obtain ⟨ms, hseen, hms⟩ := h
  obtain ⟨ms', hseen', hms'⟩ := h'
  exact ⟨ms ++ ms', by rw [hseen', hseen, List.reverse_append, List.append_assoc], hms.append hms'⟩

theorem tells_changeState (change : EngineState → EngineState) (r : Run History) :
    Tells scene paired r (Action.changeState .history change r).2 := ⟨_, rfl, .change _ _⟩

theorem tells_note {s : Step} {r : Run History}
    (hdue : (⟨r.state, r.seen.calls, s⟩ : Moment).Due scene paired)
    (hstep : ∀ i link, s ≠ .delivered i link) :
    Tells scene paired r (Action.note .history s r).2 :=
  ⟨[⟨r.state, r.seen.calls, s⟩], rfl, .single hdue hstep⟩

/-- What happens on two frames of its own is told between their opening and their closing. -/
theorem tells_between {outer inner : Frame} {body : Nat → Action History α}
    (hbody : Tells scene paired (opened r outer inner)
      (body (r.state.stack.height + 1) (opened r outer inner)).2) :
    Tells scene paired r (Action.between .history outer inner body r).2 := by
  have htop : (opened r outer inner).state.stack.top = r.state.stack.height + 1 := by
    change ((r.state.stack.push outer).push inner).top = _
    rw [FrameStack.top_push, FrameStack.height_push]
  rw [← htop] at hbody
  have hopened : Tells scene paired r (opened r outer inner) := ⟨_, rfl, .opening _ _ _ _⟩
  have hclosed (r' : Run History) : Tells scene paired r' (closed r') := ⟨_, rfl, .closing _ _⟩
  exact hopened.trans (hbody.trans (hclosed _))

theorem tells_nested {x : Action History α}
    (hx : Tells scene paired (Action.changeState .history .deeper r).2
      (x (Action.changeState .history .deeper r).2).2) :
    Tells scene paired r (Action.nested .history x r).2 :=
  (tells_changeState .deeper r).trans (hx.trans (tells_changeState .shallower _))

/-- An action of a part of a run adds warranted moments, if something is known of the frames. -/
def Warrants (scene : Scene) (paired : Pairings → Prop) (calls : CallStack) (role : Role)
    (Q : FrameStack → Prop) (x : Action History α) : Prop :=
  ∀ role', role.Same role' → ∀ r : Run History, r.seen.calls = role'.atWork calls → Q r.state.stack →
    Tells scene paired r (x r).2

/-- Something is known of the frames in a part of a run, however far it has gone. -/
def Role.Keeps (scene : Scene) (role : Role) (Q : FrameStack → Prop) : Prop :=
  ∀ ⦃calls role' role'' st st' ms⦄, role.Same role' → Course scene calls role' st ms role'' st' →
    Q st.stack → Q st'.stack

theorem Role.keeps_asked (hQ : ∀ s t : FrameStack, s.shape = t.shape → Q s → Q t) :
    Role.Keeps scene .asked Q := by
  rintro calls _ role'' st st' ms rfl hcourse hstack
  have hrole : role'' = .asked := hcourse.same
  have hshape := hcourse.shape (s := st.stack) rfl
  rw [hrole] at hshape
  exact hQ _ _ hshape.symm hstack

/-- Handlers may work on a frame: it is an inner one, and all frames are regular. -/
structure FrameStack.Workable (paired : Pairings → Prop) (i : Nat) (s : FrameStack) : Prop where
  regular : s.Regular paired
  inner : s.Inner i

theorem FrameStack.Workable.congr {i : Nat} {s t : FrameStack} (h : s.fittings = t.fittings)
    (hs : s.Workable paired i) : t.Workable paired i := ⟨hs.regular.congr h, hs.inner.congr h⟩

theorem Role.keeps_workable (role : Role) (i : Nat) :
    role.Keeps scene (FrameStack.Workable paired i) :=
  fun _ _ _ _ _ _ _ hcourse hst => hst.congr hcourse.fittings.symm

theorem warrants_pure (a : α) : Warrants scene paired calls role Q (pure a) :=
  fun _ _ r _ _ => .refl r

theorem Warrants.mono {x : Action History α} (hx : Warrants scene paired calls role Q x)
    (hQ : ∀ s, Q' s → Q s) : Warrants scene paired calls role Q' x :=
  fun role' hsame r hcalls hr => hx role' hsame r hcalls (hQ _ hr)

theorem Warrants.bind_of {x : Action History α} {f : α → Action History β} {P : α → Prop}
    (hx : Warrants scene paired calls role Q' x) (hfollows : Follows scene calls role x)
    (hkeeps : role.Keeps scene Q) (hQ : ∀ s, Q' s → Q s) (hanswers : ∀ r, P (x r).1)
    (hf : ∀ a, P a → Warrants scene paired calls role Q (f a)) :
    Warrants scene paired calls role Q' (x >>= f) := by
  intro role' hsame r hcalls hr
  obtain ⟨ms, role'', hseen, hcourse⟩ := hfollows role' hsame r hcalls
  exact (hx role' hsame r hcalls hr).trans (hf _ (hanswers r) role'' (hsame.trans hcourse.same) (x r).2
    (congrArg History.calls hseen) (hkeeps hsame hcourse (hQ _ hr)))

theorem Warrants.bind {x : Action History α} {f : α → Action History β}
    (hx : Warrants scene paired calls role Q' x) (hfollows : Follows scene calls role x)
    (hkeeps : role.Keeps scene Q) (hQ : ∀ s, Q' s → Q s)
    (hf : ∀ a, Warrants scene paired calls role Q (f a)) :
    Warrants scene paired calls role Q' (x >>= f) :=
  hx.bind_of (P := fun _ => True) hfollows hkeeps hQ (fun _ => trivial) fun a _ => hf a

theorem warrants_readStack (read : FrameStack → α) : Warrants scene paired calls role Q (Action.readStack read) :=
  fun _ _ r _ _ => .refl r

variable (paired calls) in
/-- Actions that go on with a part of a run and add warranted moments make up a congruence, as long as that part keeps
what is known of the frames. -/
def warranting (hkeeps : role.Keeps scene Q) : Congruence Watcher.history Watcher.history where
  Relates x _ := Follows scene calls role x ∧ Warrants scene paired calls role Q x
  relates_pure a := ⟨follows_pure a, warrants_pure a⟩
  relates_bind_of hx hanswers _ hf := ⟨hx.1.bind_of hanswers fun a ha => (hf a ha).1,
    hx.2.bind_of hx.1 hkeeps (fun _ hs => hs) hanswers fun a ha => (hf a ha).2⟩
  relates_emit e := ⟨follows_emit e, fun _ _ _ _ _ => .of_eq rfl⟩

/-- What is read off the frames is known of them from then on. -/
theorem Warrants.readStack_bind {read : FrameStack → α} {f : α → Action History β}
    (hf : ∀ a, Warrants scene paired calls role (fun s => Q s ∧ read s = a) (f a)) :
    Warrants scene paired calls role Q (Action.readStack read >>= f) :=
  fun role' hsame r hcalls hr => hf _ role' hsame r hcalls ⟨hr, rfl⟩

theorem Warrants.log_bind (m : Message) {f : Unit → Action History β}
    (hf : ∀ u, Warrants scene paired calls role Q (f u)) :
    Warrants scene paired calls role Q (Action.log .history m >>= f) :=
  fun role' hsame r hcalls hr => hf () role' hsame r hcalls hr

/-! Inputs. -/

/-- An active node fetches an input on a frame. -/
structure FrameStack.Fetching (paired : Pairings → Prop) (i : Nat) (a : Activation)
    (s : FrameStack) : Prop extends s.Workable paired i where
  active : s.active? i = some a

theorem Role.keeps_fetching (i : Nat) (a : Activation) :
    Role.Keeps scene .asked (FrameStack.Fetching paired i a) := by
  refine Role.keeps_asked fun s t hst hs => ?_
  exact ⟨hs.toWorkable.congr (FrameStack.fittings_of_shape hst),
    (FrameStack.active?_congr hst i).symm.trans hs.active⟩

/-- Signals are delivered on a frame, in a call of the host or in a linked scene. -/
structure FrameStack.Receiving (paired : Pairings → Prop) (calls : CallStack) (i : Nat)
    (s : FrameStack) : Prop extends s.Workable paired i where
  sent : calls = [] ∨ ∃ b, s.provider? i = some (.gateway b)

theorem FrameStack.Receiving.congr {i : Nat} {s t : FrameStack} (h : s.shape = t.shape)
    (hs : s.Receiving paired calls i) : t.Receiving paired calls i :=
  ⟨hs.toWorkable.congr (fittings_of_shape h), hs.sent.imp id fun ⟨b, hb⟩ =>
    ⟨b, (provider?_congr h i).symm.trans hb⟩⟩

/-- Signals are received on the inner frame of a call, which the host or a gateway has made. -/
theorem FrameStack.receiving_push {s : FrameStack} {provider : Option Provider}
    (hs : s.Regular paired)
    (hsent : calls = [] ∨ provider = none ∧ ∃ b, s.provider? s.top = some (.gateway b)) :
    ((s.push (.fresh true none)).push (.fresh true (provider.map .host))).Receiving paired calls
      (s.height + 1) := by
  have hhost (b : Binding) : provider.map FrameProvider.host ≠ some (.gateway b) := by
    cases provider <;> simp
  have hinner := inner_push (f := .fresh true (provider.map .host)) rfl
    (s := s.push (.fresh true none)) (by simp)
  rw [height_push] at hinner
  have hregular := (hs.push (f := .fresh true none) (.inl ⟨rfl, by simp [Frame.fresh]⟩)).push
    (f := .fresh true (provider.map .host)) (.inl ⟨rfl, hhost⟩)
  refine ⟨⟨hregular, hinner⟩, hsent.imp id ?_⟩
  rintro ⟨rfl, b, hb⟩
  refine ⟨b, ?_⟩
  rw [← height_push s (.fresh true none), provider?, readThrough_push_height, top_push,
    readThrough_push_height]
  exact hb

/-- Calls that add warranted moments. -/
structure Warranting (scene : Scene) (paired : Pairings → Prop) (below : Calls History) : Prop where
  evaluate : ∀ calls i node requested, Warrants scene paired calls .asked
    (fun s => s.Workable paired i ∧ Summoned scene.tables.executable calls s i node requested)
    (below.evaluate i node requested)
  propagate : ∀ calls socket sources provider, Warrants scene paired calls .asked
    (fun s => s.Regular paired ∧
      (calls = [] ∨ provider = none ∧ ∃ b, s.provider? s.top = some (.gateway b)))
    (below.propagate socket sources provider)

section
variable {below : Calls History} {i : Nat} {a : Activation} {lookup : Lookup History}
  (htracked : Tracked scene below) (hbelow : Warranting scene paired below)
  (hfollows : ∀ socket, Follows scene calls .asked (lookup i socket))
  (hlookup : ∀ socket, Warrants scene paired calls .asked (FrameStack.Workable paired i)
    (lookup i socket))
include htracked hbelow hfollows hlookup

omit hfollows in
/-- A producer is evaluated only if its output is not known. -/
theorem warrants_resolveProducer {socket : String} {producer : Link}
    (hedge : producer ∈ scene.tables.executable.producers a.node socket) :
    Warrants scene paired calls .asked (FrameStack.Fetching paired i a)
      (resolveProducer below lookup i producer) := by
  refine Warrants.readStack_bind fun known => ?_
  cases known with
  | some v => exact warrants_pure _
  | none =>
    refine Warrants.bind (Q := FrameStack.Fetching paired i a) ?_
      (htracked.evaluate calls i _ _) (Role.keeps_fetching i a) (fun _ hs => hs.1) fun outcome => ?_
    · exact (hbelow.evaluate calls i producer.node (some producer.socket)).mono fun s hs =>
        ⟨hs.1.toWorkable, .fetched hs.1.active hedge hs.2⟩
    · cases outcome with
      | error failure => exact warrants_pure _
      | ok _ =>
        refine Warrants.readStack_bind fun known => ?_
        cases known with
        | some v => exact warrants_pure _
        | none => exact (hlookup producer).mono fun _ hs => hs.1.toWorkable

/-- What resolves an input is a part of the run, so what is known of the frames lasts from one step of it to the next. -/
theorem warrants_inputOf (socket : String) :
    Warrants scene paired calls .asked (FrameStack.Fetching paired i a)
      (inputOf scene .history below lookup i a socket) := by
  have hkeeps : Role.Keeps scene .asked (FrameStack.Fetching paired i a) := Role.keeps_fetching i a
  let R : Congruence Watcher.history Watcher.history := warranting paired calls hkeeps
  have hproducer (producer : Link) (hedge : producer ∈ scene.tables.executable.producers a.node socket) :
      R.Relates (resolveProducer below lookup i producer) (resolveProducer below lookup i producer) :=
    ⟨follows_resolveProducer (htracked.evaluate calls i) hfollows producer,
      warrants_resolveProducer htracked hbelow hlookup hedge⟩
  have hasks (l : Link) : R.Relates (lookup i l) (lookup i l) :=
    ⟨hfollows l, (hlookup l).mono fun _ hs => hs.toWorkable⟩
  have hreads {α : Type} (read : FrameStack → α) : R.Reads read := ⟨follows_readStack read, warrants_readStack read⟩
  have hresolve : R.Relates (resolveInput scene below lookup i a socket) (resolveInput scene below lookup i a socket) :=
    R.relates_resolveInput below below lookup lookup rfl hproducer (hreads _) fun _ => hasks _
  exact (R.relates_inputOf below below lookup lookup (hreads _) hresolve fun v =>
    ⟨follows_putInput i _ v, fun _ _ r _ _ => tells_changeState _ r⟩).2

theorem warrants_fetchWith (socket : String) :
    Warrants scene paired calls .asked (FrameStack.Workable paired i)
      (fetchWith scene .history below lookup i socket) := by
  refine Warrants.readStack_bind fun active => ?_
  cases active with
  | none => exact warrants_pure _
  | some a =>
    exact (warrants_inputOf htracked hbelow hfollows hlookup socket).mono fun s hs => ⟨hs.1, hs.2⟩

end

section
variable {below : Calls History} (htracked : Tracked scene below)
  (hbelow : Warranting scene paired below)
include htracked hbelow

theorem warrants_lookupWithin (steps i : Nat) (socket : Link) :
    Warrants scene paired calls .asked (FrameStack.Workable paired i)
      (lookupWithin scene .history below steps i socket) := by
  induction steps generalizing i socket with
  | zero => exact warrants_pure _
  | succ steps ih =>
    refine Warrants.readStack_bind fun provider => ?_
    match provider with
    | none => exact warrants_pure _
    | some (.host provider) =>
      refine Warrants.bind (Q := fun _ => True) ?_ (follows_askHost provider socket)
        (fun _ _ _ _ _ _ _ _ _ => trivial) (fun _ _ => trivial) fun _ => warrants_pure _
      unfold askHost
      split <;> exact fun _ _ r _ _ => .of_eq rfl
    | some (.gateway b) =>
      -- the gateway works on an inner frame, so its inputs may be fetched there
      have hcaller (s : FrameStack)
          (hs : s.Workable paired i ∧ s.provider? i = some (.gateway b)) :
          s.Workable paired b.caller := ⟨hs.1.regular, hs.1.regular.caller hs.2⟩
      dsimp only
      split
      · rename_i own _
        have hfetch := warrants_fetchWith htracked hbelow
          (follows_lookupWithin (htracked.evaluate calls) steps b.caller) (ih b.caller) own
        rintro role' rfl r hcalls hr
        have hpaired : Tells scene paired r (Action.note .history (.paired i b socket own) r).2 :=
          tells_note (by exact trivial) nofun
        exact hpaired.trans (hfetch .asked .rfl _ hcalls (hcaller _ hr))
      · exact (ih b.caller socket).mono hcaller

theorem warrants_fetchInput (i : Nat) (socket : String) :
    Warrants scene paired calls .asked (FrameStack.Workable paired i)
      (fetchInput scene .history below i socket) :=
  have hfollows (socket : Link) : Follows scene calls .asked (provide scene .history below i socket) :=
    follows_lookupWithin (htracked.evaluate calls) (i + 1) i socket
  warrants_fetchWith htracked hbelow hfollows
    (fun socket => warrants_lookupWithin htracked hbelow (i + 1) i socket) socket

end

/-! Handlers. -/

section
variable {i : Nat} {a : Activation}

/-- What a handler asks for is asked for while it is at work. -/
theorem Warrants.inner {x : Action History α}
    (hx : ∀ g, Warrants scene paired (g :: calls) .asked Q x) :
    Warrants scene paired calls (handling i a) Q x := by
  rintro (_ | _ | g) hsame r hcalls hr
  · exact nomatch hsame
  · exact nomatch hsame
  · exact hx g .asked .rfl r hcalls hr

/-- An operation is noted before it is performed. -/
theorem Warrants.performed {script : Script} {x : Action History α}
    (hx : Warrants scene paired calls (handling i a) (FrameStack.Workable paired i) x) :
    Warrants scene paired calls (handling i a) (FrameStack.Workable paired i)
      (Action.note .history (.performed i a script) >>= fun _ => x) := by
  rintro (_ | _ | g) hsame r hcalls hr
  · exact nomatch hsame
  · exact nomatch hsame
  · have hnoted : Tells scene paired r (Action.note .history (.performed i a script) r).2 :=
      tells_note (by exact ⟨hr.regular, hr.inner⟩) nofun
    have hafter : r.seen.calls.after r.state.stack.height (.performed i a script) =
        g.perform r.state.stack.height script :: calls := by rw [hcalls]; rfl
    exact hnoted.trans (hx (.working (g.perform r.state.stack.height script)) hsame _ hafter hr)

/-- A change that keeps the fittings leaves the frame workable. -/
theorem Warrants.changed {change : EngineState → EngineState} {x : Action History α}
    (hchange : ∀ st, (change st).stack.fittings = st.stack.fittings)
    (hx : Warrants scene paired calls role (FrameStack.Workable paired i) x) :
    Warrants scene paired calls role (FrameStack.Workable paired i)
      (Action.changeState .history change >>= fun _ => x) :=
  fun role' hsame r hcalls hr => (tells_changeState change r).trans
    (hx role' hsame _ hcalls (hr.congr (hchange r.state).symm))

/-- A scene that a handler opens is entered on a frame that is bound to its node. -/
theorem Warrants.sceneScope {p : Pairings} {body : Nat → Action History α} (hp : paired p)
    (hbody : ∀ g j, Warrants scene paired (g :: calls) .asked (fun s => s.Workable paired j ∧
      s.provider? j = some (.gateway ⟨i, p⟩) ∧ j = s.top ∧
        ∀ node k, s.output? j ⟨node, k⟩ = none) (body j)) :
    Warrants scene paired calls (handling i a) (FrameStack.Workable paired i)
      (Action.sceneScope .history i p body) := by
  rintro (_ | _ | g) hsame r hcalls hr
  · exact nomatch hsame
  · exact nomatch hsame
  · refine tells_between (hbody g _ .asked .rfl (opened r _ _) hcalls ⟨⟨?_, ?_⟩, ?_, ?_, ?_⟩)
    · refine (hr.regular.push (.inr ⟨rfl, _, rfl, hr.inner, hp⟩)).push (.inl ⟨rfl, nofun⟩)
    · have hinner := FrameStack.inner_push (f := .fresh true none) rfl
        (s := r.state.stack.push (.fresh false (some (.gateway ⟨i, p⟩)))) (by simp)
      rwa [FrameStack.height_push] at hinner
    · change FrameStack.provider? (FrameStack.push (r.state.stack.push _) _) _ = _
      rw [← FrameStack.height_push, FrameStack.provider?, FrameStack.readThrough_push_height,
        FrameStack.top_push, FrameStack.readThrough_push_height]
      rfl
    · change _ = FrameStack.top (FrameStack.push (r.state.stack.push _) _)
      rw [FrameStack.top_push, FrameStack.height_push]
    · intro node k
      change FrameStack.output? (FrameStack.push (r.state.stack.push _) _) _ _ = _
      rw [← FrameStack.height_push, FrameStack.output?, FrameStack.readThrough_push_height,
        FrameStack.top_push, FrameStack.readThrough_push_height]
      rfl

end

section
variable {below : Calls History} (htracked : Tracked scene below)
  (hbelow : Warranting scene paired below)
include htracked hbelow

/-- Whatever a script does is warranted, as long as it links scenes that are paired. -/
theorem warrants_perform (i : Nat) (a : Activation) (script : Script) (hlinks : script.Links paired) :
    Warrants scene paired calls (handling i a) (FrameStack.Workable paired i)
      (perform scene .history below i a script) := by
  have hkeeps : (handling i a).Keeps scene (FrameStack.Workable paired i) := Role.keeps_workable _ i
  induction script with
  | done outcome => exact warrants_pure _
  | fetch socket next ih =>
    exact Warrants.performed ((Warrants.inner fun g => warrants_fetchInput htracked hbelow i socket).bind
      (.inner fun g => follows_fetchInput (htracked.evaluate _) i socket) hkeeps (fun _ hs => hs)
      fun answer => ih answer (hlinks answer))
  | push socket v next ih | expose socket v next ih =>
    exact Warrants.performed (Warrants.changed (fun _ => FrameStack.fittings_of_shape
      (FrameStack.shape_writeThrough fun _ => rfl)) (ih hlinks))
  | hasExposed socket next ih =>
    exact Warrants.performed (Warrants.readStack_bind fun answer =>
      (ih answer (hlinks answer)).mono fun _ hs => hs.1)
  | exposeSignal socket next ih =>
    rw [perform]
    split_ifs
    · exact Warrants.performed (Warrants.changed (fun _ => FrameStack.fittings_of_shape
        (FrameStack.shape_addSignal _ _ _)) (ih hlinks))
    · exact Warrants.performed (Warrants.log_bind _ fun _ => ih hlinks)
  | forward socket next ih =>
    refine Warrants.performed (Warrants.readStack_bind fun signal => Warrants.mono ?_ fun _ hs => hs.1)
    split_ifs
    · exact Warrants.changed (fun _ => FrameStack.view_modify (fun _ => rfl) fun _ => rfl) (ih hlinks)
    · exact Warrants.log_bind _ fun _ => ih hlinks
  | mark target scope next ih =>
    refine Warrants.performed (Warrants.changed (fun st => ?_) (ih hlinks))
    exact Script.fittings_effect i a st (.mark target scope next)
  | emit event next ih => exact Warrants.performed (ih hlinks)
  | count name next ih =>
    exact Warrants.performed fun role' hsame r hcalls hr => ih _ (hlinks _) role' hsame _ hcalls hr
  | pullScene p target next ih =>
    refine Warrants.performed (Warrants.bind (Warrants.sceneScope hlinks.1 fun g j => ?_)
      (.sceneScope p fun g j => htracked.evaluate _ j _ _) hkeeps (fun _ hs => hs)
      fun answer => ih answer (hlinks.2 answer))
    exact (hbelow.evaluate _ j target.node (some target.socket)).mono fun s hs =>
      ⟨hs.1, .entrance _ hs.2.1 (hs.2.2.2 _)⟩
  | pushScene p target next ih =>
    refine Warrants.performed (Warrants.bind (Warrants.sceneScope hlinks.1 fun g j => ?_)
      (follows_signalled p fun r => htracked.propagate _ _ none r) hkeeps (fun _ hs => hs)
      fun answer => ih answer (hlinks.2 answer))
    refine (hbelow.propagate _ target.socket [target.node] none).mono fun s hs => ⟨hs.1.regular, ?_⟩
    exact .inr ⟨rfl, _, hs.2.2.1 ▸ hs.2.1⟩

/-- A handler that is started for a reason does what is warranted until it is finished. -/
theorem warranted_handle (i : Nat) (a : Activation) (script : Script) (hlinks : script.Links paired)
    (r : Run History) (hr : r.state.stack.Workable paired i)
    (hstart : (⟨r.state, r.seen.calls, .started i a⟩ : Moment).Due scene paired) :
    ∃ ms, (handle scene below i a script r).2.seen.moments =
        (⟨r.state, r.seen.calls, .started i a⟩ :: ms).reverse ++ r.seen.moments ∧
      Warranted scene paired (⟨r.state, r.seen.calls, .started i a⟩ :: ms) := by
  have hperform : Warrants scene paired r.seen.calls (handling i a) (FrameStack.Workable paired i)
      (perform scene .history below i a script) := warrants_perform htracked hbelow i a script hlinks
  have hwork := hperform (handling i a) .rfl (Action.note .history (.started i a) r).2 rfl hr
  have hfinished (outcome : Outcome Unit) (r' : Run History) :
      Tells scene paired r' (Action.note .history (.finished i a outcome) r').2 :=
    tells_note (by exact trivial) nofun
  obtain ⟨ms, hseen, hms⟩ := hwork.trans (hfinished _ _)
  refine ⟨ms, hseen.trans ?_, (Warranted.single hstart nofun).cons hms⟩
  simp [Action.note, Watcher.history]

end
end SocketGraph
