import SocketGraph.Proofs.Records

/-! Deliveries as a history tells of them. A propagation delivers signals one by one; what the handler
of each delivery does itself stands one call deeper than the delivery, and whatever it makes others do
stands deeper still. -/
namespace SocketGraph

/-- The socket that the first operation of a script exposes a signal at. -/
def Script.signalled? : Script → Option String
  | .exposeSignal socket _ => some socket
  | _ => none

/-- Why something has failed, if it has. -/
def Outcome.failure? {α : Type} : Outcome α → Option Failure
  | .error failure => some failure
  | .ok _ => none

/-- The delivery of a signal to an input: the operations that the handler has performed, and its outcome
if a handler was run. -/
structure Delivery where
  link : Link
  operations : List Script
  outcome : Option (Outcome Unit)

namespace Delivery

/-- A delivery before its handler does anything. -/
def start (link : Link) : Delivery := ⟨link, [], none⟩

def perform (d : Delivery) (script : Script) : Delivery :=
  { d with operations := d.operations ++ [script] }

def performAll (d : Delivery) (scripts : List Script) : Delivery :=
  { d with operations := d.operations ++ scripts }

def finish (d : Delivery) (outcome : Outcome Unit) : Delivery := { d with outcome := some outcome }

/-- The outputs that the handler has forwarded signals out of. -/
def forwards (d : Delivery) : List String := d.operations.filterMap Script.forwarded?

/-- The signals that the handler has exposed. -/
def signals (d : Delivery) : List Link :=
  (d.operations.filterMap Script.signalled?).map fun socket => ⟨d.link.node, socket⟩

/-- The inputs that the forwarded signals reach. -/
def reached (scene : Scene) (d : Delivery) : List Link :=
  d.forwards.flatMap (scene.tables.executable.consumers d.link.node)

/-- Why a delivery has failed, if it has: the node is unknown, or its component, or the handler has
failed. -/
def failure? (scene : Scene) (d : Delivery) : Option Failure :=
  match scene.tables.executable.node? d.link.node with
  | none => some (.unknownNode d.link.node)
  | some info =>
    match scene.registry.get? info.component with
    | none => some (.unknownComponent d.link.node info.component)
    | some _ => d.outcome.bind Outcome.failure?

/-- The deliveries after a moment, the latest first. Those of one propagation are made while one number
of handlers is at work. -/
def extend (depth : Nat) (earlier : List Delivery) (m : Moment) : List Delivery :=
  match m.step with
  | .delivered _ link => if m.calls.length = depth then start link :: earlier else earlier
  | .performed _ _ script =>
    if m.calls.length = depth + 1 then earlier.modifyHead (·.perform script) else earlier
  | .finished _ _ outcome =>
    if m.calls.length = depth + 1 then earlier.modifyHead (·.finish outcome) else earlier
  | _ => earlier

section
variable (calls : CallStack) (st : EngineState) (earlier : List Delivery)

@[simp] theorem extend_change (depth : Nat) :
    extend depth earlier (Moment.change calls st) = earlier := rfl

@[simp] theorem extend_delivered (i : Nat) (link : Link) :
    extend calls.length earlier ⟨st, calls, .delivered i link⟩ = start link :: earlier := if_pos rfl

@[simp] theorem extend_started (depth i : Nat) (a : Activation) :
    extend depth earlier ⟨st, calls, .started i a⟩ = earlier := rfl

@[simp] theorem extend_finished (d : Delivery) (g : Invocation) (i : Nat) (a : Activation)
    (outcome : Outcome Unit) :
    extend calls.length (d :: earlier) ⟨st, g :: calls, .finished i a outcome⟩ =
      d.finish outcome :: earlier := if_pos rfl

end

@[simp] theorem performAll_nil (d : Delivery) : d.performAll [] = d := by
  simp [performAll]

theorem performAll_performAll (d : Delivery) (scripts scripts' : List Script) :
    (d.performAll scripts).performAll scripts' = d.performAll (scripts ++ scripts') := by
  simp [performAll]

end Delivery

/-- The deliveries that some moments tell of, in their order. -/
def deliveries (depth : Nat) (ms : List Moment) : List Delivery :=
  (ms.foldl (Delivery.extend depth) []).reverse

namespace Moment

/-- A moment in which at least some handlers are at work, and more if it is one of a handler. -/
def Inside (n : Nat) (m : Moment) : Prop :=
  match m.step with
  | .performed _ _ _ | .finished _ _ _ => n < m.calls.length
  | _ => n ≤ m.calls.length

theorem Inside.mono {n n' : Nat} {m : Moment} (hn : n' ≤ n) (h : m.Inside n) : m.Inside n' := by
  obtain ⟨st, calls, step⟩ := m
  cases step with
  | performed | finished => exact Nat.lt_of_le_of_lt hn h
  | _ => exact Nat.le_trans hn h

/-- What is inside a handler says nothing of the deliveries outside. -/
theorem Inside.extend {depth : Nat} {m : Moment} (h : m.Inside (depth + 1)) (earlier : List Delivery) :
    Delivery.extend depth earlier m = earlier := by
  obtain ⟨st, calls, step⟩ := m
  cases step with
  | performed | finished | delivered => exact if_neg (Nat.ne_of_gt h)
  | _ => rfl

theorem inside_change (calls : CallStack) (st : EngineState) : (change calls st).Inside calls.length :=
  Nat.le_refl _

theorem inside_opening (calls : CallStack) (st : EngineState) (outer inner : Frame) :
    ∀ m ∈ opening calls st outer inner, m.Inside calls.length := by
  simp [opening, inside_change]

theorem inside_closing (calls : CallStack) (st : EngineState) :
    ∀ m ∈ closing calls st, m.Inside calls.length := by
  simp [closing, inside_change]

theorem inside_scope {calls : CallStack} {ms : List Moment} (h : ∀ m ∈ ms, m.Inside calls.length)
    (st : EngineState) (outer inner : Frame) (st' : EngineState) :
    ∀ m ∈ opening calls st outer inner ++ ms ++ closing calls st', m.Inside calls.length :=
  List.forall_mem_append.2
    ⟨List.forall_mem_append.2 ⟨inside_opening _ _ _ _, h⟩, inside_closing _ _⟩

theorem inside_propagating {calls : CallStack} {ms : List Moment} (h : ∀ m ∈ ms, m.Inside calls.length)
    (st : EngineState) (provider : Option Provider) (st' : EngineState) :
    ∀ m ∈ propagating calls st provider ms st', m.Inside calls.length := by
  refine List.forall_mem_cons.2 ⟨inside_change _ _, List.forall_mem_append.2 ⟨?_, ?_⟩⟩
  · exact inside_scope h _ _ _ _
  · exact List.forall_mem_singleton.2 (inside_change _ _)

theorem inside_handled {calls : CallStack} {ms : List Moment} (h : ∀ m ∈ ms, m.Inside calls.length)
    (st : EngineState) (i : Nat) (a : Activation) (g : Invocation) (st' : EngineState)
    (outcome : Outcome Unit) : ∀ m ∈ handled calls st i a ms g st' outcome, m.Inside calls.length := by
  refine List.forall_mem_append.2 ⟨List.forall_mem_cons.2 ⟨Nat.le_refl _, h⟩, ?_⟩
  exact List.forall_mem_singleton.2 (Nat.lt_succ_self _)

end Moment

theorem Delivery.foldl_extend {depth : Nat} {ms : List Moment} (h : ∀ m ∈ ms, m.Inside (depth + 1))
    (earlier : List Delivery) : ms.foldl (extend depth) earlier = earlier := by
  induction ms with
  | nil => rfl
  | cons m ms ih =>
    obtain ⟨hm, hms⟩ := List.forall_mem_cons.1 h
    rw [List.foldl_cons, hm.extend, ih hms]

namespace Course

variable {scene : Scene} {calls : CallStack} {role role' : Role} {st st' : EngineState}
  {ms : List Moment}

/-- All that happens in a course happens while its handlers are at work. -/
theorem inside (h : Course scene calls role st ms role' st') : ∀ m ∈ ms, m.Inside calls.length := by
  have houter {g : Invocation} {calls : CallStack} {ms : List Moment}
      (h : ∀ m ∈ ms, m.Inside (g :: calls).length) : ∀ m ∈ ms, m.Inside calls.length :=
    fun m hm => (h m hm).mono (Nat.le_succ _)
  induction h with
  | rest => exact nofun
  | seq _ _ ih ih' => exact List.forall_mem_append.2 ⟨ih, ih'⟩
  | skipped | paired | delivered => exact List.forall_mem_singleton.2 (Nat.le_refl _)
  | kept => exact List.forall_mem_singleton.2 (Moment.inside_change _ _)
  | declined => simp [Moment.inside_change]
  | updated _ _ _ _ ih =>
    have hhandled := Moment.inside_handled ih
    refine List.forall_mem_append.2 ⟨List.forall_mem_append.2 ⟨?_, hhandled _ _ _ _ _ _⟩, ?_⟩
    · simp [Moment.inside_change]
    · simp [Moment.inside_change]
  | triggered _ _ _ _ ih =>
    refine List.forall_mem_append.2 ⟨List.forall_mem_cons.2
      ⟨Moment.inside_change _ _, Moment.inside_handled ih _ _ _ _ _ _⟩, ?_⟩
    exact List.forall_mem_singleton.2 (Moment.inside_change _ _)
  | idle => exact List.forall_mem_singleton.2 (Nat.lt_succ_self _)
  | wrote =>
    refine List.forall_mem_cons.2 ⟨Nat.lt_succ_self _, List.forall_mem_singleton.2 ?_⟩
    exact Nat.le_succ _
  | inner _ ih => exact houter ih
  | @linked _ g _ _ _ _ _ ih => exact houter (g := g) (Moment.inside_scope ih _ _ _ _)
  | @signalled _ g _ _ _ _ _ _ _ ih =>
    exact houter (g := g) (Moment.inside_scope (Moment.inside_propagating ih _ _ _) _ _ _ _)

end Course

/-! What moments tell of the operations of handlers. -/

namespace Moment

variable {β : Type}

/-- What a moment tells of the operation that is performed in it, if one is. -/
def told (tell : Nat → Activation → Script → Option β) (m : Moment) : Option β :=
  match m.step with
  | .performed i a script => tell i a script
  | _ => none

variable (tell : Nat → Activation → Script → Option β)

@[simp] theorem told_change (calls : CallStack) (st : EngineState) :
    (change calls st).told tell = none := rfl

@[simp] theorem told_delivered (calls : CallStack) (st : EngineState) (i : Nat) (link : Link) :
    (⟨st, calls, .delivered i link⟩ : Moment).told tell = none := rfl

@[simp] theorem told_opening (calls : CallStack) (st : EngineState) (outer inner : Frame) :
    (opening calls st outer inner).filterMap (told tell) = [] := rfl

@[simp] theorem told_closing (calls : CallStack) (st : EngineState) :
    (closing calls st).filterMap (told tell) = [] := rfl

@[simp] theorem told_propagating (calls : CallStack) (st : EngineState) (provider : Option Provider)
    (ms : List Moment) (st' : EngineState) :
    (propagating calls st provider ms st').filterMap (told tell) = ms.filterMap (told tell) := by
  simp [propagating, openingCall, List.filterMap_cons]

@[simp] theorem told_handled (calls : CallStack) (st : EngineState) (i : Nat) (a : Activation)
    (ms : List Moment) (g : Invocation) (st' : EngineState) (outcome : Outcome Unit) :
    (handled calls st i a ms g st' outcome).filterMap (told tell) = ms.filterMap (told tell) := by
  simp [handled, told, List.filterMap_cons]

/-- The signal that a handler of signals exposes on a frame. -/
def signal? (i : Nat) : Moment → Option Link :=
  told fun j a script =>
    if j = i ∧ a.isSignal = true then script.signalled?.map fun socket => ⟨a.node, socket⟩ else none

end Moment

/-- Handlers of signals work on a frame in a part of a run, apart from those in linked scenes. -/
def Role.SignalsOn (i : Nat) : Role → Prop
  | .asked => False
  | .delivering j => j = i
  | .working g => g.frame = i ∧ g.activation.isSignal = true

theorem Role.Same.signalsOn {role role' : Role} (h : role.Same role') (i : Nat) :
    role'.SignalsOn i = role.SignalsOn i := by
  cases role <;> cases role' <;> simp_all [Same, SignalsOn]

namespace Course

variable {scene : Scene} {calls : CallStack} {role role' : Role} {st st' : EngineState}
  {ms : List Moment}

/-- Handlers of signals work only on the frame that signals are delivered on and on frames that are
opened later. -/
theorem no_signals (h : Course scene calls role st ms role' st') {i : Nat} (hi : i < st.stack.height)
    (hrole : ¬ role.SignalsOn i) : ms.filterMap (Moment.signal? i) = [] := by
  have hperformed {g : Invocation} (hg : ¬ (Role.working g).SignalsOn i) (st : EngineState)
      (calls : CallStack) (script : Script) :
      Moment.signal? i ⟨st, calls, .performed g.frame g.activation script⟩ = none := if_neg hg
  induction h with
  | seq first _ ih ih' =>
    rw [List.filterMap_append, ih hi hrole, ih' (first.height ▸ hi) (first.same.signalsOn i ▸ hrole)]
    rfl
  | updated _ pull _ _ ih =>
    have hnone := ih (by simpa using hi) fun h => Bool.noConfusion (pull.symm.trans h.2)
    simpa [Moment.signal?, List.filterMap_cons] using hnone
  | triggered _ _ _ _ ih =>
    have hnone := ih (by simpa using hi) fun h => hrole h.1
    simpa [Moment.signal?, List.filterMap_cons] using hnone
  | idle => rw [List.filterMap_cons, hperformed hrole]; rfl
  | wrote => rw [List.filterMap_cons, hperformed hrole]; rfl
  | inner _ ih => exact ih hi nofun
  | linked _ _ ih =>
    have hnone := ih (by simp; omega) nofun
    simpa [Moment.signal?, Moment.openingScene] using hnone
  | signalled _ _ _ _ ih =>
    have hnone := ih (by simp; omega) (by simp [Role.SignalsOn]; omega)
    simpa [Moment.signal?, Moment.openingScene] using hnone
  | _ => rfl

end Course

/-- What a handler does itself between two of its times: the operations that it performs are those of its
delivery, they forward its signals, and they alone expose signals on its frame. -/
structure Invocation.Gathers (g g' : Invocation) (depth height : Nat) (ms : List Moment)
    (scripts : List Script) : Prop where
  operations : ∀ earlier, ms.foldl (Delivery.extend depth) earlier =
    earlier.modifyHead (·.performAll scripts)
  forwarded : g'.forwarded = g.forwarded ++ scripts.filterMap Script.forwarded?
  signals : g.activation.isSignal = true → g.frame < height → ms.filterMap (Moment.signal? g.frame) =
    (scripts.filterMap Script.signalled?).map fun socket => ⟨g.activation.node, socket⟩

namespace Invocation.Gathers

variable {g g' g'' : Invocation} {depth height : Nat} {ms ms' : List Moment}
  {scripts scripts' : List Script}

theorem nothing (hinside : ∀ m ∈ ms, m.Inside (depth + 1))
    (hsignals : g.frame < height → ms.filterMap (Moment.signal? g.frame) = []) :
    g.Gathers g depth height ms [] where
  operations earlier := by
    rw [Delivery.foldl_extend hinside]
    cases earlier <;> simp
  forwarded := by simp
  signals _ hframe := by simpa using hsignals hframe

theorem performed (g : Invocation) (calls : CallStack) (st : EngineState) (n height : Nat)
    (script : Script) : g.Gathers (g.perform n script) calls.length height
      [⟨st, g :: calls, .performed g.frame g.activation script⟩] [script] where
  operations earlier := if_pos rfl
  forwarded := by
    rw [perform, List.filterMap_cons, List.filterMap_nil]
    cases script.forwarded? <;> rfl
  signals hsignal _ := by
    simp only [Moment.signal?, Moment.told, List.filterMap_cons, List.filterMap_nil, hsignal]
    cases script.signalled? <;> simp

theorem trans (h : g.Gathers g' depth height ms scripts)
    (h' : g'.Gathers g'' depth height ms' scripts') (hframe : g'.frame = g.frame)
    (hactivation : g'.activation = g.activation) :
    g.Gathers g'' depth height (ms ++ ms') (scripts ++ scripts') where
  operations earlier := by
    rw [List.foldl_append, h.operations, h'.operations]
    cases earlier <;> simp [Delivery.performAll_performAll]
  forwarded := by
    rw [h'.forwarded, h.forwarded]
    simp
  signals hsignal hlt := by
    rw [List.filterMap_append, h.signals hsignal hlt, ← hframe,
      h'.signals (hactivation ▸ hsignal) (hframe ▸ hlt), hactivation]
    simp

end Invocation.Gathers

namespace Course

variable {scene : Scene} {calls : CallStack} {role role' : Role} {st st' : EngineState}
  {ms : List Moment}

/-- A handler at work gathers what it does itself. -/
theorem gathers (h : Course scene calls role st ms role' st') (g g' : Invocation)
    (hg : role = .working g) (hg' : role' = .working g') :
    ∃ scripts, g.Gathers g' calls.length st.stack.height ms scripts := by
  induction h generalizing g g' with
  | rest =>
    subst hg
    obtain rfl := Role.working.inj hg'
    exact ⟨[], .nothing nofun fun _ => rfl⟩
  | @seq _ _ role _ _ _ _ _ _ first _ ih ih' =>
    subst hg hg'
    cases role with
    | asked => exact nomatch first.same
    | delivering => exact nomatch first.same
    | working g₁ =>
      obtain ⟨scripts, hfirst⟩ := ih g g₁ rfl rfl
      obtain ⟨scripts', hsecond⟩ := ih' g₁ g' rfl rfl
      rw [first.height] at hsecond
      exact ⟨_, hfirst.trans hsecond first.same.1 first.same.2⟩
  | idle calls g₁ st script =>
    obtain rfl := Role.working.inj hg
    obtain rfl := Role.working.inj hg'
    exact ⟨[script], .performed g₁ calls st _ _ script⟩
  | wrote calls g₁ st script =>
    obtain rfl := Role.working.inj hg
    obtain rfl := Role.working.inj hg'
    -- the change that follows the operation tells of nothing more
    refine ⟨[script], (Invocation.Gathers.performed g₁ calls st _ _ script).trans
      (.nothing ?_ fun _ => rfl) rfl rfl⟩
    exact List.forall_mem_singleton.2 (Nat.le_refl _)
  | inner course =>
    obtain rfl := Role.working.inj hg
    obtain rfl := Role.working.inj hg'
    exact ⟨[], .nothing course.inside fun hlt => course.no_signals hlt nofun⟩
  | linked pairings course =>
    obtain rfl := Role.working.inj hg
    obtain rfl := Role.working.inj hg'
    -- what is pulled exposes no signals on a frame that has been there before
    refine ⟨[], .nothing (Moment.inside_scope course.inside _ _ _ _) fun hlt => ?_⟩
    have hnone := course.no_signals (Nat.lt_of_lt_of_le hlt (by simp)) nofun
    simpa [Moment.signal?, Moment.openingScene] using hnone
  | signalled pairings provider nested course =>
    obtain rfl := Role.working.inj hg
    obtain rfl := Role.working.inj hg'
    -- the signals that are exposed in the linked scene are exposed on a frame further above
    refine ⟨[], .nothing
      (Moment.inside_scope (Moment.inside_propagating course.inside _ _ _) _ _ _ _) fun hlt => ?_⟩
    have hnone := course.no_signals (Nat.lt_of_lt_of_le hlt (by simp; omega))
      (by simp [Role.SignalsOn]; omega)
    simpa [Moment.signal?, Moment.openingScene] using hnone
  | _ => exact nomatch hg

end Course
end SocketGraph
