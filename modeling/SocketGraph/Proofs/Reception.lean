import SocketGraph.Proofs.CallStack
import SocketGraph.Proofs.Evaluations

/-! The reception of a signal. A delivery looks for the handler of its input first; with one it is the work of that
handler on an active node, and without one it is answered at once. -/
namespace SocketGraph

/-- The activation that a signal to an input brings about and the script that handles it, or the answer to the
signal if there is no handler. -/
def Scene.receiver (scene : Scene) (link : Link) : Except (Outcome Unit) (Activation × Script) :=
  match scene.tables.executable.node? link.node with
  | none => .error (.error (.unknownNode link.node))
  | some info =>
    match scene.registry.get? info.component with
    | none => .error (.error (.unknownComponent link.node info.component))
    | some c =>
      match c.signal with
      | none => .error (.ok ())
      | some handler =>
        let a := c.activation link.node info.attributes (.push link.socket [])
        .ok (a, handler a link.socket)

namespace Scene

variable {scene : Scene} {link : Link} {a : Activation} {script : Script}

theorem receiver_eq_ok : scene.receiver link = .ok (a, script) ↔ ∃ info c handler,
    scene.tables.executable.node? link.node = some info ∧ scene.registry.get? info.component = some c ∧
      c.signal = some handler ∧ a = c.activation link.node info.attributes (.push link.socket []) ∧
      script = handler a link.socket := by
  constructor
  · intro h
    cases hnode : scene.tables.executable.node? link.node with
    | none => simp [receiver, hnode] at h
    | some info =>
      cases hc : scene.registry.get? info.component with
      | none => simp [receiver, hnode, hc] at h
      | some c =>
        cases hhandler : c.signal with
        | none => simp [receiver, hnode, hc, hhandler] at h
        | some handler =>
          simp only [receiver, hnode, hc, hhandler, Except.ok.injEq, Prod.mk.injEq] at h
          obtain ⟨rfl, rfl⟩ := h
          exact ⟨info, c, handler, rfl, hc, hhandler, rfl, rfl⟩
  · rintro ⟨info, c, handler, hnode, hc, hhandler, rfl, rfl⟩
    simp [receiver, hnode, hc, hhandler]

/-- A signal is handled by a handler for signals that the component of its node declares. -/
theorem instance_of_receiver (h : scene.receiver link = .ok (a, script)) : ∃ c handler,
    scene.Instance c a ∧ c.signal = some handler ∧ script = handler a link.socket := by
  obtain ⟨info, c, handler, hnode, hc, hhandler, rfl, hscript⟩ := receiver_eq_ok.1 h
  exact ⟨c, handler, ⟨info, .push link.socket [], hnode, hc, rfl⟩, hhandler, hscript⟩

theorem node_of_receiver (h : scene.receiver link = .ok (a, script)) : a.node = link.node := by
  obtain ⟨info, c, handler, -, -, -, rfl, -⟩ := receiver_eq_ok.1 h
  rfl

theorem cause_of_receiver (h : scene.receiver link = .ok (a, script)) : a.cause = .push link.socket [] := by
  obtain ⟨info, c, handler, -, -, -, rfl, -⟩ := receiver_eq_ok.1 h
  rfl

end Scene

section
variable {ω : Type} (scene : Scene) (watch : Watcher ω) (below : Calls ω)

/-- The work of a handler for a signal: what it answers, and the sockets that it has forwarded the signal out of. -/
def receive (i : Nat) (a : Activation) (script : Script) : Action ω (Outcome Unit × List String) := do
  Action.note watch (.started i a)
  let outcome ← perform scene watch below i a script
  Action.note watch (.finished i a outcome)
  let forwarded ← Action.readStack fun s => (s.active? i).elim [] Activation.forwarded
  pure (outcome, forwarded)

/-- A delivery is answered at once, or its node is active while a handler works. -/
theorem deliver_eq (i : Nat) (link : Link) : deliver scene watch below i link =
    (Action.note watch (.delivered i link) >>= fun _ =>
      match scene.receiver link with
      | .error answer => pure (answer, [])
      | .ok (a, script) => Action.changeStack watch (·.enter i a) >>= fun _ =>
          receive scene watch below i a script >>= fun result =>
            Action.changeStack watch (·.leave i) >>= fun _ =>
              pure (result.1, result.2.flatMap (scene.tables.executable.consumers link.node))) := by
  unfold deliver Scene.receiver
  cases scene.tables.executable.node? link.node with
  | none => rfl
  | some info =>
    dsimp only
    cases scene.registry.get? info.component with
    | none => rfl
    | some c =>
      dsimp only
      cases c.signal <;> rfl

/-- A delivery leads to inputs that are fed by its node. -/
theorem exists_of_deliver (i : Nat) (link : Link) (r : Run ω) :
    ∃ sockets : List String, (deliver scene watch below i link r).1.2 =
      sockets.flatMap (scene.tables.executable.consumers link.node) := by
  rw [deliver_eq, Action.bind_apply]
  cases scene.receiver link with
  | error answer => exact ⟨[], rfl⟩
  | ok reception => exact ⟨_, rfl⟩

variable {scene watch below} {i : Nat}

/-- A level leads from nodes of a kind to such nodes only, if their edges do. -/
theorem nodes_of_deliverAll {nodes : NodeId → Prop} (hconsumers : ∀ {node}, nodes node → ∀ socket,
      ∀ l ∈ scene.tables.executable.consumers node socket, nodes l.node)
    {links : List Link} (hlinks : ∀ l ∈ links, nodes l.node) (r : Run ω) :
    ∀ l ∈ (deliverAll scene watch below i links r).1.1, nodes l.node := by
  induction links generalizing r with
  | nil => exact fun l hl => nomatch hl
  | cons link rest ih =>
    obtain ⟨hlink, hrest⟩ := List.forall_mem_cons.1 hlinks
    obtain ⟨sockets, hnext⟩ := exists_of_deliver scene watch below i link r
    obtain ⟨r', hmore⟩ : ∃ r', (deliverAll scene watch below i (link :: rest) r).1.1 =
        (deliver scene watch below i link r).1.2 ++ (deliverAll scene watch below i rest r').1.1 := by
      simp only [deliverAll, Bind.bind, StateT.bind]
      cases deliver scene watch below i link r with
      | mk result r' =>
        obtain ⟨outcome, next⟩ := result
        cases outcome <;> exact ⟨_, rfl⟩
    rw [hmore, hnext]
    intro l hl
    rcases List.mem_append.1 hl with hl | hl
    · obtain ⟨socket, -, hl⟩ := List.mem_flatMap.1 hl
      exact hconsumers hlink socket l hl
    · exact ih hrest r' l hl

end

end SocketGraph
