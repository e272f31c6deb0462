import SocketGraph.Proofs.Retained
import SocketGraph.Proofs.WarrantedCalls

/-! Values that are not retracted. What a handler has pushed is found at once and in every moment from then
on, and its failure takes nothing of it back; so whoever asks for an output of a node that has failed gets
what was pushed, and has the node evaluated again only if nothing was. -/
namespace SocketGraph

namespace Chronicle

variable (C : Chronicle) {h : List Moment} {m : Moment}

/-- It has been told right after every change of a history. -/
def Recalled (h : List Moment) : Prop :=
  ∀ later m earlier, h = later ++ m :: earlier → m.step = .changed → C.tells (m :: earlier) m.state

variable {C}

theorem Recalled.cons (hh : C.Recalled h) (hm : m.step = .changed → C.tells (m :: h) m.state) :
    C.Recalled (m :: h) := by
  rintro later m' earlier hsplit
  cases later with
  | nil =>
    obtain ⟨rfl, rfl⟩ := List.cons.inj hsplit
    exact hm
  | cons m'' later => exact hh later m' earlier (List.cons.inj hsplit).2

theorem Recalled.quiet (hh : C.Recalled h) (hm : m.step ≠ .changed) : C.Recalled (m :: h) :=
  hh.cons fun hstep => absurd hstep hm

variable (C) in
/-- What a history tells of the state that it has led to, and of the states that its changes have led to. -/
def recalling : Chronicle where
  tells h st := C.tells h st ∧ C.Recalled h
  noted calls _ hs ht := by
    refine ⟨C.noted calls hs ht.1, ht.2.quiet ?_⟩
    rintro rfl
    exact hs
  moved calls hmove ht := ⟨C.moved calls hmove ht.1, ht.2.cons fun _ => C.moved calls hmove ht.1⟩
  wrote calls calls' i a script ht :=
    ⟨C.wrote calls calls' i a script ht.1,
      (ht.2.quiet Step.noConfusion).cons fun _ => C.wrote calls calls' i a script ht.1⟩
  idle calls i a script heffect ht :=
    ⟨C.idle calls i a script heffect ht.1, ht.2.quiet Step.noConfusion⟩

end Chronicle

/-- After an activation what is found in a state is what has been written last, in the middle of a change
as well. -/
theorem Session.GoesOn.kept_eq_lastWritten {s s' : Session History} {tables : Tables} {st' : EngineState}
    {ms later earlier : List Moment} {m : Moment} (h : s.GoesOn s' tables .fresh ms st')
    (hapart : ∀ m ∈ ms.reverse, m.Apart) {cache : Cache} (hcache : cache ≠ .input)
    (hsplit : ms.reverse = later ++ m :: earlier) {i : Nat} (hi : i < m.state.stack.height) (l : Link) :
    m.state.stack.kept? i cache l = lastWritten cache l (m.state.stack.root i) earlier := by
  by_cases hstep : m.step = .changed
  · have htold := (h.carries (Chronicle.values cache hcache).recalling (h := [])
      ⟨fun _ => .fresh, fun _ _ _ hnil => by simp at hnil⟩).tells.2 later m earlier
      (by rw [List.append_nil, hsplit]) hstep
    have hretains : m.state.Retains cache (m :: earlier) :=
      htold fun m' hm' => hapart m' (hsplit ▸ List.mem_append_right _ hm')
    -- the change itself writes nothing
    have hwrites : m.writes? cache l (m.state.stack.root i) = none := by rw [Moment.writes?, hstep]
    rw [hretains.kept i hi, lastWritten_cons, if_pos (FrameStack.root_lt_height hi), hwrites,
      Option.none_or]
  · exact (h.retains hapart hcache hsplit hstep).kept i hi l

/-- A moment in which a root is open and nothing is written to a socket above it. -/
def Moment.Spares (cache : Cache) (l : Link) (r : Nat) (m : Moment) : Prop :=
  r < m.state.stack.height ∧ m.writes? cache l r = none

/-- What is pushed stays the last as long as the root is open and nothing else is pushed. -/
theorem lastWritten_of_push {between before : List Moment} {m : Moment} {i r : Nat} {a : Activation}
    {k : String} {v : Value} {next : Script} (hpush : m.step = .performed i a (.push k v next))
    (hi : i < m.state.stack.height) (hroot : m.state.stack.root i = r)
    (h : ∀ m' ∈ between, m'.Spares .output ⟨a.node, k⟩ r) :
    lastWritten .output ⟨a.node, k⟩ r (between ++ m :: before) = some v := by
  have hopen : r < m.state.stack.height := hroot ▸ FrameStack.root_lt_height hi
  have hwrites : m.writes? .output ⟨a.node, k⟩ r = some v := by
    rw [Moment.writes?, hpush]
    exact if_pos ⟨rfl, rfl, hroot.symm⟩
  rw [lastWritten_append h, lastWritten_cons, if_pos hopen, hwrites]
  rfl

/-- The end of a handler writes nothing. -/
theorem lastWritten_of_finished {before : List Moment} {m : Moment} {i r : Nat} {a : Activation}
    {outcome : Outcome Unit} (hfinished : m.step = .finished i a outcome) (hopen : r < m.state.stack.height)
    (cache : Cache) (l : Link) : lastWritten cache l r (m :: before) = lastWritten cache l r before := by
  rw [lastWritten_cons, if_pos hopen, Moment.writes?, hfinished]
  rfl

/-- That a handler ends on a frame that is open is a law of all sessions. -/
def Law.endings (registry : Registry) : Law registry where
  pairs _ _ := True
  state _ := True
  moment m := ∀ i a outcome, m.step = .finished i a outcome → i < m.state.stack.height
  links _ := .unconditional _ _
  fresh := trivial
  transition _ _ := trivial
  changed _ := nofun
  step _ hs := by
    cases hs with
    | finished outcome ready shows =>
      rintro _ _ _ ⟨⟩
      exact ready.present
    | _ => exact nofun

/-- An output that is not known is what its evaluation fails with, or leaves, or what the provider has. -/
theorem resolveProducer_of_unknown {ω : Type} (below : Calls ω) (lookup : Lookup ω) {i : Nat} {l : Link}
    {run : Run ω} (h : run.state.stack.output? i l = none) :
    resolveProducer below lookup i l run =
      match below.evaluate i l.node (some l.socket) run with
      | (.error failure, run') => (.error failure, run')
      | (.ok _, run') =>
        match run'.state.stack.output? i l with
        | some v => (.ok (some v), run')
        | none => lookup i l run' := by
  rw [resolveProducer, Action.readStack_bind_apply, h]
  dsimp only
  rw [Action.bind_apply]
  obtain ⟨outcome, run'⟩ := below.evaluate i l.node (some l.socket) run
  cases outcome with
  | error failure => rfl
  | ok exposed =>
    dsimp only
    rw [Action.readStack_bind_apply]
    cases run'.state.stack.output? i l <;> rfl

/-- After an activation, whatever the host calls for, whenever a handler has failed, and whenever later an
output of its node is asked for from a frame above the same root. What a handler of the node has pushed last
above the root is given at once, and no handler is started: be it what the handler that failed has pushed, or
whatever else was found when it failed, unless a handler of the node has pushed again. If nothing was pushed,
the node is evaluated again; either that fails, or it leaves a value, or the provider is asked. -/
theorem outputs_outlive_failures (s : Session History) (tables : Tables)
    (hfresh : s.engine.active = some (tables, .fresh)) (hidle : s.seen.calls = [])
    (calls : List HostCall) (hcalls : ∀ call ∈ calls, call ≠ .terminate) :
    ∃ new, (HostCall.performAll .history calls s).2.seen.moments = new ++ s.seen.moments ∧
      ∀ later m between m₀ before i₀ a failure, new = later ++ m :: (between ++ m₀ :: before) →
        m₀.step = .finished i₀ a (.error failure) →
        ∀ i < m.state.stack.height, m.state.stack.root i = m₀.state.stack.root i₀ → ∀ k,
          let l : Link := ⟨a.node, k⟩
          let r := m₀.state.stack.root i₀
          let pushed := lastWritten .output l r (between ++ m₀ :: before)
          (∀ during p first v next, before = during ++ p :: first →
            p.step = .performed i₀ a (.push k v next) → p.state.stack.root i₀ = r →
            (∀ m' ∈ between ++ m₀ :: during, m'.Spares .output l r) → pushed = some v) ∧
          ((∀ m' ∈ between, m'.Spares .output l r) → pushed = m₀.state.stack.output? i₀ l) ∧
          ∀ {ω : Type} (below : Calls ω) (lookup : Lookup ω) (run : Run ω), run.state = m.state →
            (∀ v, pushed = some v → resolveProducer below lookup i l run = (.ok (some v), run)) ∧
            (pushed = none → resolveProducer below lookup i l run =
              match below.evaluate i a.node (some k) run with
              | (.error failure, run') => (.error failure, run')
              | (.ok _, run') =>
                match run'.state.stack.output? i l with
                | some v => (.ok (some v), run')
                | none => lookup i l run') := by
  obtain ⟨ms, st, h⟩ := HostCall.warrants_activated hfresh hidle calls hcalls
  have hnew := congrArg History.moments h.seen
  have hapart := (Law.apartness s.engine.registry).of_since rfl hfresh hidle calls hnew
  have hendings := (Law.endings s.engine.registry).of_since rfl hfresh hidle calls hnew
  refine ⟨ms.reverse, hnew, ?_⟩
  rintro later m between m₀ before i₀ a failure hsplit hstep i hi hroot k l r pushed
  have hsplit₀ : ms.reverse = (later ++ m :: between) ++ m₀ :: before := by rw [hsplit]; simp
  have hi₀ : i₀ < m₀.state.stack.height :=
    hendings m₀ (hsplit₀ ▸ List.mem_append_right _ List.mem_cons_self) i₀ a _ hstep
  have houtput : Cache.output ≠ .input := nofun
  have hfound : m.state.stack.output? i l = pushed := by
    change m.state.stack.kept? i .output l = lastWritten .output l r _
    rw [h.kept_eq_lastWritten hapart houtput hsplit hi, hroot]
  refine ⟨?_, fun hspared => ?_, fun below lookup run hrun => ⟨fun v hv => ?_, fun hnone => ?_⟩⟩
  · rintro during p first v next rfl hpush hrootp hspared
    obtain ⟨hlt, -⟩ := hapart p (by rw [hsplit]; simp) i₀ a _ hpush
    have hearlier : between ++ m₀ :: (during ++ p :: first) = (between ++ m₀ :: during) ++ p :: first := by
      simp
    exact (congrArg (lastWritten .output l r) hearlier).trans (lastWritten_of_push hpush hlt hrootp hspared)
  · change lastWritten .output l r _ = m₀.state.stack.kept? i₀ .output l
    rw [lastWritten_append hspared, lastWritten_of_finished hstep (FrameStack.root_lt_height hi₀),
      h.kept_eq_lastWritten hapart houtput hsplit₀ hi₀]
  · exact resolveProducer_of_known below lookup (by rw [hrun, hfound, hv])
  · exact resolveProducer_of_unknown below lookup (by rw [hrun, hfound, hnone])

/-- A component that pushes a value and fails. -/
def faultyComponent : Component :=
  ⟨"faulty", [], some fun a => .push "k" (.int 1) (.fail (.handler a.node a.component "broken")), none⟩

/-- A component that exposes what it fetches. -/
def askingComponent : Component :=
  ⟨"asking", [], some fun _ => .fetch "i" fun
      | .ok (some v) => .expose "r" v .succeed
      | .ok none => .succeed
      | .error failure => .fail failure, none⟩

def faultyTables : Tables :=
  ⟨.empty, ⟨(Table.empty.insert "p" ⟨"faulty", .empty⟩).insert "q" ⟨"asking", .empty⟩,
    Table.empty.insert (socketKey "q" "i") [⟨"p", "k"⟩], .empty⟩⟩

def faultySession : Session History :=
  ⟨⟨.ofComponents [faultyComponent, askingComponent], ⟨20, 20⟩, none, some (faultyTables, .fresh)⟩, .empty,
    [], []⟩

/-- A bracket in which a node is updated twice that another one feeds. -/
def faultyCalls : List HostCall := [.beginCycle, .updateNode "q" none, .updateNode "q" none]

/-- A handler of a node that has worked on a frame fails. -/
def Moment.failsOn (i : Nat) (node : NodeId) (m : Moment) : Bool :=
  match m.step with
  | .finished j a (.error _) => j == i && a.node == node
  | _ => false

theorem Moment.exists_of_failsOn {i : Nat} {node : NodeId} {m : Moment} (h : m.failsOn i node) :
    ∃ a failure, m.step = .finished i a (.error failure) ∧ a.node = node := by
  unfold failsOn at h
  split at h
  · rename_i j a failure hstep
    simp only [Bool.and_eq_true, beq_iff_eq] at h
    obtain ⟨rfl, hnode⟩ := h
    exact ⟨a, failure, hstep, hnode⟩
  · cases h

/-- When the second update fetches, it is given what the handler that failed in the first one has pushed. -/
theorem faulty_output_kept :
    ∃ later m between m₀ before a failure,
      (HostCall.performAll .history faultyCalls faultySession).2.seen.moments =
        later ++ m :: (between ++ m₀ :: before) ∧
      m₀.step = .finished 2 a (.error failure) ∧ a.node = "p" ∧
      m.state.stack.root 2 = m₀.state.stack.root 2 ∧
      ∀ {ω : Type} (below : Calls ω) (lookup : Lookup ω) (run : Run ω), run.state = m.state →
        resolveProducer below lookup 2 ⟨"p", "k"⟩ run = (.ok (some (.int 1)), run) := by
  have hfetched : (HostCall.performAll .history faultyCalls faultySession).2.seen.moments[8]?.any
      (fun m => m.state.stack.height == 3 && m.state.stack.root 2 == 0) = true := by decide +kernel
  have hfailed : (HostCall.performAll .history faultyCalls faultySession).2.seen.moments[21]?.any
      (fun m => m.failsOn 2 "p" && m.state.stack.root 2 == 0) = true := by decide +kernel
  have hpushed : lastWritten .output ⟨"p", "k"⟩ 0
      ((HostCall.performAll .history faultyCalls faultySession).2.seen.moments.drop 9) = some (.int 1) := by
    decide +kernel
  obtain ⟨new, hmoments, hnew⟩ := outputs_outlive_failures faultySession faultyTables rfl rfl faultyCalls
    (by simp [faultyCalls])
  generalize (HostCall.performAll .history faultyCalls faultySession).2.seen.moments = moments
    at hfetched hfailed hpushed hmoments ⊢
  obtain rfl : moments = new := hmoments.trans (List.append_nil new)
  obtain ⟨m, hm, hfetched⟩ := (Option.any_eq_true _ _).1 hfetched
  obtain ⟨m₀, hm₀, hfailed⟩ := (Option.any_eq_true _ _).1 hfailed
  obtain ⟨hlt, rfl⟩ := List.getElem?_eq_some_iff.1 hm
  obtain ⟨hlt₀, rfl⟩ := List.getElem?_eq_some_iff.1 hm₀
  have hdrop : moments.drop 9 = (moments.drop 9).take 12 ++ moments[21] :: moments.drop 22 := by
    rw [← List.drop_eq_getElem_cons hlt₀, ← List.drop_drop (i := 12), List.take_append_drop]
  have hsplit : moments = moments.take 8 ++ moments[8] ::
      ((moments.drop 9).take 12 ++ moments[21] :: moments.drop 22) := by
    rw [← hdrop, ← List.drop_eq_getElem_cons hlt, List.take_append_drop]
  simp only [Bool.and_eq_true, beq_iff_eq] at hfetched hfailed
  obtain ⟨a, failure, hstep, hnode⟩ := moments[21].exists_of_failsOn hfailed.1
  have hroot := hfetched.2.trans hfailed.2.symm
  obtain ⟨-, -, hserved⟩ := hnew _ _ _ _ _ 2 a failure hsplit hstep 2 (by omega) hroot "k"
  rw [hnode, hfailed.2, ← hdrop] at hserved
  exact ⟨_, _, _, _, _, a, failure, hsplit, hstep, hnode, hroot, fun below lookup run hrun =>
    (hserved below lookup run hrun).1 _ hpushed⟩

/-- In a bracket a node fails because the one it is fed from does; when it is updated again it gets what that
one has pushed, though no handler of that one has ever succeeded. -/
theorem faulty_output_served :
    let failed := Host.updateNode .history "q" none
      (HostCall.performAll .history [.beginCycle] faultySession).2
    let again := Host.updateNode .history "q" none failed.2
    failed.1.toOption = none ∧ again.1.toOption = some (Table.empty.insert "r" (.int 1)) ∧
      again.2.seen.moments.all fun m => match m.step with
        | .finished _ a (.ok _) => a.node != "p"
        | _ => true := by
  decide +kernel

end SocketGraph
