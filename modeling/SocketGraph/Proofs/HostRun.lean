import SocketGraph.Engine
import SocketGraph.Proofs.Lineage

/-! Runs of a host: any calls in any order on one engine. -/
namespace SocketGraph

/-- A call of the host. -/
inductive HostCall
  | bind (source : DataSource)
  | activate (files : Files)
  | terminate
  | beginCycle
  | endCycle
  | requestValue (node : NodeId) (socket : String) (provider : Option Provider)
  | updateNode (node : NodeId) (provider : Option Provider)
  | triggerSignal (socket : String) (source : Option SignalSource) (provider : Option Provider)

/-- What a call answers. -/
inductive Answer
  | none
  | done (outcome : Outcome Unit)
  | value (outcome : Outcome (Option Value))
  | exposed (outcome : Outcome (Table Value))
  | result (outcome : Outcome TriggerResult)

namespace HostCall
variable {ω : Type} (watch : Watcher ω)

def perform : HostCall → Host ω Answer
  | .bind source => do
    let outcome ← Host.bind source
    pure (.done outcome)
  | .activate files => do
    let outcome ← Host.activate watch files
    pure (.done outcome)
  | .terminate => do
    let outcome ← Host.terminate watch
    pure (.done outcome)
  | .beginCycle => do
    Host.beginCycle watch
    pure .none
  | .endCycle => do
    Host.endCycle watch
    pure .none
  | .requestValue node socket provider => do
    let outcome ← Host.requestValue watch node socket provider
    pure (.value outcome)
  | .updateNode node provider => do
    let outcome ← Host.updateNode watch node provider
    pure (.exposed outcome)
  | .triggerSignal socket source provider => do
    let outcome ← Host.triggerSignal watch socket source provider
    pure (.result outcome)

/-- Make calls one after another. -/
def performAll : List HostCall → Host ω (List Answer)
  | [] => pure []
  | call :: rest => do
    let answer ← call.perform watch
    let answers ← performAll rest
    pure (answer :: answers)

end HostCall

/-- A session that begins with a new engine. -/
def Session.start {ω : Type} (registry : Registry) (limits : Limits) (seen : ω) : Session ω :=
  ⟨.new registry limits, .empty, seen⟩

/-- What a source holds now. -/
def DataSource.read (files : Files) : DataSource → Except LoadFailure Payload
  | .memory p => .ok p
  | .file f => f.read files

/-- The tables of a source, or why there are none: it cannot be read, or a table is missing. -/
def DataSource.tables (files : Files) (source : DataSource) : Outcome Tables :=
  match source.read files with
  | .error failure => .error (.load failure)
  | .ok p =>
    match p.tables with
    | .error name => .error (.missingTable name)
    | .ok tables => .ok tables

namespace Host

variable {ω α β : Type} {watch : Watcher ω}

/-- Something that only reports events: all else about a session stays, and so does whatever events
cannot change about what is seen. -/
def Reports (watch : Watcher ω) (x : Host ω α) : Prop :=
  ∀ s, ∃ w, (x s).2 = { s with seen := w } ∧
    ∀ P : ω → Prop, (∀ e w, P w → P (watch.event e w)) → P s.seen → P w

theorem reports_pure (a : α) : Reports watch (pure a) := fun s => ⟨s.seen, rfl, fun _ _ h => h⟩

theorem Reports.bind {x : Host ω α} {f : α → Host ω β} (hx : Reports watch x)
    (hf : ∀ a, Reports watch (f a)) : Reports watch (x >>= f) := by
  intro s
  obtain ⟨w, hw, hseen⟩ := hx s
  obtain ⟨w', hw', hseen'⟩ := hf (x s).1 (x s).2
  refine ⟨w', ?_, fun P he h => hseen' P he ?_⟩
  · change (f (x s).1 (x s).2).2 = _
    rw [hw', hw]
  · rw [hw]
    exact hseen P he h

theorem reports_log (m : Message) : Reports watch (log watch m) :=
  fun s => ⟨watch.event (.logged m) s.seen, rfl, fun _ he h => he _ _ h⟩

theorem fst_load (files : Files) (source : DataSource) (w : ω) :
    (source.load watch files w).1 = source.read files := by
  cases source with
  | memory p => rfl
  | file f =>
    change (f.load watch files w).1 = f.read files
    unfold DataFile.load
    cases f.read files <;> rfl

theorem reports_load (files : Files) (source : DataSource) :
    Reports watch (report (source.load watch files)) := by
  intro s
  cases source with
  | memory p => exact ⟨s.seen, rfl, fun _ _ h => h⟩
  | file f =>
    change ∃ w, { s with seen := (f.load watch files s.seen).2 } = _ ∧ _
    unfold DataFile.load
    cases f.read files with
    | error failure => exact ⟨s.seen, rfl, fun _ _ h => h⟩
    | ok p => exact ⟨_, rfl, fun _ he h => he _ _ h⟩

theorem fst_loadTables (watch : Watcher ω) (files : Files) (source : DataSource) (s : Session ω) :
    (loadTables watch files source s).1 = source.tables files := by
  change ((match (source.load watch files s.seen).1 with
    | .error failure => pure (.error (.load failure))
    | .ok p => _ : Host ω (Outcome Tables)) _).1 = _
  rw [fst_load]
  unfold DataSource.tables
  cases source.read files with
  | error failure => rfl
  | ok p => dsimp only; cases p.tables <;> rfl

theorem reports_loadTables (watch : Watcher ω) (files : Files) (source : DataSource) :
    Reports watch (loadTables watch files source) := by
  refine (reports_load files source).bind fun loaded => ?_
  cases loaded with
  | error failure => exact reports_pure _
  | ok p => dsimp only; cases p.tables <;> exact reports_pure _

theorem reports_reportMissing (watch : Watcher ω) (registry : Registry) (names : List String) :
    Reports watch (reportMissing watch registry names) := by
  induction names with
  | nil => exact reports_pure _
  | cons name rest ih =>
    unfold reportMissing
    split
    · exact ih
    · exact (reports_log _).bind fun _ => ih

theorem bind_apply (source : DataSource) (s : Session ω) :
    Host.bind source s = if s.engine.isActive then (.error .alreadyActive, s)
      else (.ok (), { s with engine := { s.engine with source := some source } }) := by
  change (if s.engine.isActive = true then _ else _ : Host ω (Outcome Unit)) s = _
  split <;> rfl

/-- The engine that an activation makes, or why it makes none. -/
def activated (files : Files) (e : Engine) : Outcome Engine :=
  if e.isActive then .error .alreadyActive
  else
    match e.source with
    | none => .error .nothingBound
    | some source =>
      match source.tables files with
      | .error failure => .error failure
      | .ok tables => .ok { e with active := some (tables, .fresh) }

/-- An activation gives the engine that it makes, and a failed one leaves the engine as it is. -/
theorem activate_apply (watch : Watcher ω) (files : Files) (s : Session ω) :
    ∃ w, (∀ P : ω → Prop, (∀ e w, P w → P (watch.event e w)) → P s.seen → P w) ∧
      activate watch files s =
        match activated files s.engine with
        | .error failure => (.error failure, { s with seen := w })
        | .ok e => (.ok (), { s with engine := e, seen := w }) := by
  unfold activated
  change ∃ w, _ ∧ (if s.engine.isActive = true then _ else _ : Host ω (Outcome Unit)) s = _
  split
  · exact ⟨s.seen, fun _ _ h => h, rfl⟩
  · cases hsource : s.engine.source with
    | none => exact ⟨s.seen, fun _ _ h => h, rfl⟩
    | some source =>
      obtain ⟨w, hw, hseen⟩ := reports_loadTables watch files source s
      have hfst := fst_loadTables watch files source s
      cases htables : source.tables files with
      | error failure =>
        refine ⟨w, hseen, ?_⟩
        rw [htables] at hfst
        change (match (loadTables watch files source s).1 with
          | .error failure => pure (.error failure)
          | .ok tables => _ : Host ω (Outcome Unit)) (loadTables watch files source s).2 = _
        rw [hfst, hw]
        simp only [htables]
        rfl
      | ok tables =>
        rw [htables] at hfst
        obtain ⟨w', hw', hseen'⟩ := (reports_reportMissing watch s.engine.registry
          tables.executable.componentNames).bind (fun _ => reports_log (.activated source.origin
            tables.executable.nodes.size s.engine.registry.size)) { s with seen := w }
        refine ⟨w', fun P he h => hseen' P he (hseen P he h), ?_⟩
        change (match (loadTables watch files source s).1 with
          | .error failure => pure (.error failure)
          | .ok tables => _ : Host ω (Outcome Unit)) (loadTables watch files source s).2 = _
        rw [hfst, hw]
        simp only [htables]
        change ((.ok () : Outcome Unit), { (((reportMissing watch s.engine.registry
          tables.executable.componentNames) >>= fun _ => log watch (.activated source.origin
            tables.executable.nodes.size s.engine.registry.size)) { s with seen := w }).2 with
              engine := { s.engine with active := some (tables, .fresh) } }) = _
        rw [hw', ← hsource]

theorem eq_of_activated {files : Files} {e e' : Engine} (h : activated files e = .ok e') :
    ∃ tables, e' = { e with active := some (tables, .fresh) } := by
  unfold activated at h
  split_ifs at h
  split at h
  · exact nomatch h
  · split at h
    · exact nomatch h
    · exact ⟨_, (Except.ok.inj h).symm⟩

theorem terminate_apply (watch : Watcher ω) (s : Session ω) :
    terminate watch s = if s.engine.isActive then
      (if 0 < s.engine.openFrames then .error (.openFrames s.engine.openFrames) else .ok (),
        { s with
          engine := { s.engine with active := none }
          seen := watch.event (.logged (.terminated s.engine.openFrames)) s.seen })
      else (.ok (), s) := by
  change (if s.engine.isActive = true then _ else _ : Host ω (Outcome Unit)) s = _
  split <;> rfl

theorem changeState_apply (watch : Watcher ω) (operation : String)
    (change : EngineState → EngineState) (s : Session ω) :
    changeState watch operation change s =
      match s.engine.active with
      | none => ((), { s with seen := watch.event (.logged (.inactive operation)) s.seen })
      | some (tables, st) => onState tables st (Action.changeState watch change) s := by
  change (match s.engine.active with
    | none => _
    | some (tables, st) => _ : Host ω Unit) s = _
  cases s.engine.active <;> rfl

theorem whileActive_apply (watch : Watcher ω) (operation : String)
    (body : Scene → Action ω (Outcome α)) (s : Session ω) :
    whileActive watch operation body s =
      match s.engine.active with
      | none => (.error (.notActive operation),
          { s with seen := watch.event (.logged (.inactive operation)) s.seen })
      | some (tables, st) => onState tables st (body (s.engine.scene tables)) s := by
  change (match s.engine.active with
    | none => _
    | some (tables, st) => _ : Host ω (Outcome α)) s = _
  cases s.engine.active <;> rfl

end Host
end SocketGraph
