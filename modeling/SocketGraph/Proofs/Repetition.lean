import SocketGraph.Proofs.CallStack
import SocketGraph.Proofs.Recomputation

/-! What evaluations without caches have in common. More levels of nesting change no answer, and the
output that is asked for decides about nothing but the pushed values of a gateway. -/
namespace SocketGraph

theorem Pairings.mem_socketsFor {p : Pairings} {target : Link} {socket : String} :
    socket ∈ p.socketsFor target ↔ p.get? socket = some target := by
  simp [socketsFor, Table.get?_eq_some_iff]

theorem Pairings.ascending_socketsFor (p : Pairings) (target : Link) :
    (p.socketsFor target).Pairwise (· < ·) :=
  List.pairwise_map.2 (p.ascending.sublist List.filter_sublist)

namespace Gateway

/-- The values that a gateway pushes for values of the linked scene, with its own sockets. -/
def pairedValues (p : Pairings) (values : List (Link × Value)) : List (String × Value) :=
  values.flatMap fun e => (p.socketsFor e.1).map fun socket => (socket, e.2)

theorem pushPaired_eq (p : Pairings) (rest : Script) (values : List (Link × Value)) :
    pushPaired p rest values =
      (pairedValues p values).foldr (fun e next => .push e.1 e.2 next) rest := by
  induction values with
  | nil => rfl
  | cons e more ih =>
    rw [pairedValues, List.flatMap_cons, List.foldr_append, List.foldr_map, pushPaired, ih]
    rfl

/-- Each socket takes the value of the socket that it is paired with. -/
theorem mem_pairedValues {p : Pairings} {node : NodeId} {exposed : Table Value} {socket : String}
    {v : Value} : (socket, v) ∈ pairedValues p (exposedBy node exposed) ↔
      ∃ inner, p.get? socket = some ⟨node, inner⟩ ∧ exposed.get? inner = some v := by
  simp only [pairedValues, exposedBy, List.mem_flatMap, List.mem_map, Table.get?_eq_some_iff]
  constructor
  · rintro ⟨_, ⟨⟨inner, v'⟩, hv, rfl⟩, _, hsocket, ⟨⟩⟩
    exact ⟨inner, Table.get?_eq_some_iff.1 (Pairings.mem_socketsFor.1 hsocket), hv⟩
  · rintro ⟨inner, hsocket, hv⟩
    exact ⟨_, ⟨(inner, v), hv, rfl⟩, socket,
      Pairings.mem_socketsFor.2 (Table.get?_eq_some_iff.2 hsocket), rfl⟩

theorem pairedValues_unique {p : Pairings} {node : NodeId} {exposed : Table Value}
    {socket : String} {v v' : Value} (h : (socket, v) ∈ pairedValues p (exposedBy node exposed))
    (h' : (socket, v') ∈ pairedValues p (exposedBy node exposed)) : v = v' := by
  obtain ⟨inner, hinner, hv⟩ := mem_pairedValues.1 h
  obtain ⟨inner', hinner', hv'⟩ := mem_pairedValues.1 h'
  obtain rfl : inner = inner' := congrArg Link.socket (Option.some.inj (hinner.symm.trans hinner'))
  exact Option.some.inj (hv.symm.trans hv')

theorem strict_update (a : Activation) : (update a).Strict := by
  unfold update enter
  split
  · trivial
  · split
    · trivial
    · split
      · trivial
      · refine ⟨fun e => ⟨e, rfl⟩, fun exposed => ?_⟩
        dsimp only
        rw [pushPaired_eq]
        generalize pairedValues _ _ = values
        induction values with
        | nil => trivial
        | cons e rest ih => exact ih

end Gateway

theorem Registry.Steady.strict {r : Registry} (h : r.Steady) {name : String} {c : Component}
    (hc : r.get? name = some c) (node : NodeId) (attributes : Table Value)
    (requested : Option String) :
    (c.script (c.activation node attributes (.pull requested))).Strict := by
  rcases h hc with rfl | hsteady
  · exact Gateway.strict_update _
  · exact (hsteady.script _ _ _).strict

namespace Scene

variable {scene : Scene} {node : NodeId} {requested : Option String} {c : Component}
  {a : Activation} {site : Site} {m n : Nat} {y z : Yield}

theorem activation_eq_ok : scene.activation node requested = .ok (c, a) ↔
    ∃ info, scene.tables.executable.node? node = some info ∧
      scene.registry.get? info.component = some c ∧
      a = c.activation node info.attributes (.pull requested) := by
  unfold Scene.activation
  constructor
  · intro h
    split at h
    · exact nomatch h
    · rename_i info hinfo
      split at h
      · exact nomatch h
      · rename_i c' hc
        obtain ⟨rfl, rfl⟩ := Prod.mk.inj (Except.ok.inj h)
        exact ⟨info, hinfo, hc, rfl⟩
  · rintro ⟨info, hinfo, hc, rfl⟩
    simp only [hinfo, hc]

/-- Something is answered only with a level left, for a node that can be activated. -/
theorem recompute_eq_ok : scene.recompute m site node requested = .ok y ↔
    ∃ levels c a, m = levels + 1 ∧ scene.activation node requested = .ok (c, a) ∧
      Recompute.perform scene (scene.recompute levels) site a (c.script a) .empty = .ok y := by
  cases m with
  | zero =>
    rw [Scene.recompute, Outcome.bind_eq_ok]
    simp
  | succ levels =>
    rw [Scene.recompute, Outcome.bind_eq_ok]
    constructor
    · rintro ⟨⟨c, a⟩, ha, hy⟩
      exact ⟨levels, c, a, rfl, ha, hy⟩
    · rintro ⟨_, c, a, ⟨⟩, ha, hy⟩
      exact ⟨(c, a), ha, hy⟩

section
variable (hsteady : scene.registry.Steady)
include hsteady

theorem recompute_le_succ (m : Nat) : (scene.recompute m).Le (scene.recompute (m + 1)) := by
  induction m with
  | zero =>
    intro site node requested y hy
    obtain ⟨_, _, _, ⟨⟩, _⟩ := recompute_eq_ok.1 hy
  | succ m ih =>
    intro site node requested y hy
    obtain ⟨_, c, a, ⟨⟩, ha, hy⟩ := recompute_eq_ok.1 hy
    refine recompute_eq_ok.2 ⟨m + 1, c, a, rfl, ha, Recompute.perform_mono ih ?_ hy⟩
    obtain ⟨info, -, hc, rfl⟩ := activation_eq_ok.1 ha
    exact hsteady.strict hc _ _ _

/-- More levels change no answer. -/
theorem recompute_le (h : m ≤ n) : (scene.recompute m).Le (scene.recompute n) := by
  induction h with
  | refl => exact fun _ _ _ _ hy => hy
  | step _ ih => exact fun _ _ _ _ hy => recompute_le_succ hsteady _ (ih hy)

theorem recompute_unique (hy : scene.recompute m site node requested = .ok y)
    (hz : scene.recompute n site node requested = .ok z) : y = z := by
  have hy' := recompute_le hsteady (Nat.le_max_left m n) hy
  have hz' := recompute_le hsteady (Nat.le_max_right m n) hz
  exact Except.ok.inj (hy'.symm.trans hz')

end
end Scene

namespace Recompute

variable {scene : Scene} {below : Recompute} {site : Site} {a : Activation}

/-- What a node is evaluated for plays no part in what its script does. -/
theorem perform_cause (cause : Cause) (s : Script) (y : Yield) :
    perform scene below site { a with cause := cause } s y = perform scene below site a s y := by
  induction s generalizing y with
  | done outcome => cases outcome <;> rfl
  | fetch socket next ih => exact ih _ y
  | push socket v next ih => exact ih _
  | expose socket v next ih => exact ih _
  | hasExposed socket next ih => exact ih _ y
  | exposeSignal socket next ih => exact ih y
  | forward socket next ih => exact ih y
  | mark target scope next ih => exact ih y
  | emit event next ih => exact ih y
  | count name next ih => exact ih _ y
  | pullScene pairings target next ih => exact ih _ y
  | pushScene pairings target next ih => exact ih _ y

end Recompute

namespace Yield

def pushAll (y : Yield) (values : List (String × Value)) : Yield :=
  values.foldl (fun y e => y.push e.1 e.2) y

@[simp] theorem exposed_pushAll (y : Yield) (values : List (String × Value)) :
    (y.pushAll values).exposed = y.exposed := by
  induction values generalizing y with
  | nil => rfl
  | cons e rest ih => exact ih _

theorem mem_of_get?_pushAll {y : Yield} {values : List (String × Value)} {socket : String}
    {v : Value} (h : (y.pushAll values).pushed.get? socket = some v) :
    (socket, v) ∈ values ∨ y.pushed.get? socket = some v := by
  induction values generalizing y with
  | nil => exact .inr h
  | cons e rest ih =>
    rcases ih h with h | h
    · exact .inl (List.mem_cons_of_mem _ h)
    · change (y.pushed.insert e.1 e.2).get? socket = some v at h
      rw [Table.get?_insert] at h
      split_ifs at h with hsocket
      · obtain rfl := Option.some.inj h
        exact .inl (hsocket ▸ List.mem_cons_self)
      · exact .inr h

theorem get?_pushAll_isSome {y : Yield} {values : List (String × Value)} {socket : String}
    (h : (∃ v, (socket, v) ∈ values) ∨ (y.pushed.get? socket).isSome) :
    ((y.pushAll values).pushed.get? socket).isSome := by
  induction values generalizing y with
  | nil => exact h.resolve_left fun ⟨v, hv⟩ => nomatch hv
  | cons e rest ih =>
    refine ih ?_
    by_cases hrest : ∃ v, (socket, v) ∈ rest
    · exact .inl hrest
    · right
      change ((y.pushed.insert e.1 e.2).get? socket).isSome = true
      rw [Table.get?_insert]
      split_ifs with hsocket
      · rfl
      · refine h.resolve_left ?_
        rintro ⟨v, hv⟩
        rcases List.mem_cons.1 hv with rfl | hv
        · exact hsocket rfl
        · exact hrest ⟨v, hv⟩

/-- Values of which each socket has one are all there. -/
theorem get?_pushAll_empty {values : List (String × Value)}
    (hvalues : ∀ {socket v v'}, (socket, v) ∈ values → (socket, v') ∈ values → v = v')
    {socket : String} {v : Value} :
    (empty.pushAll values).pushed.get? socket = some v ↔ (socket, v) ∈ values := by
  constructor
  · intro h
    exact (mem_of_get?_pushAll h).resolve_right nofun
  · intro h
    obtain ⟨v', hv'⟩ := Option.isSome_iff_exists.1 (get?_pushAll_isSome (y := empty) (.inl ⟨v, h⟩))
    have hmem := (mem_of_get?_pushAll hv').resolve_right nofun
    rw [hv', hvalues hmem h]

end Yield

namespace Recompute

variable {scene : Scene} {below : Recompute} {site : Site} {a : Activation}

theorem perform_pushes (values : List (String × Value)) (rest : Script) (y : Yield) :
    perform scene below site a (values.foldr (fun e next => .push e.1 e.2 next) rest) y =
      perform scene below site a rest (y.pushAll values) := by
  induction values generalizing y with
  | nil => rfl
  | cons e more ih => exact ih _

/-- Without caches, too, a socket is either passed over or exposed first. -/
theorem perform_unlessExposed {socket : String} {next : Bool → Script}
    (exposes : next false = .fetch socket (Script.exposing socket (next true))) {y z : Yield}
    (hz : perform scene below site a (.hasExposed socket next) y = .ok z) :
    perform scene below site a (next true) y = .ok z ∨ y.exposed.get? socket = none ∧
      ∃ w, perform scene below site a (next true) (y.expose socket w) = .ok z := by
  rw [perform] at hz
  cases hgiven : y.exposed.get? socket with
  | some w =>
    rw [hgiven] at hz
    exact .inl hz
  | none =>
    rw [hgiven, Option.isSome_none, exposes, perform] at hz
    cases hw : fetch scene below site a socket with
    | error failure =>
      rw [hw] at hz
      cases hz
    | ok w =>
      rw [hw] at hz
      cases w with
      | none => exact .inl hz
      | some w => exact .inr ⟨rfl, w, hz⟩

/-- A gateway evaluates the socket that is paired with the one asked for, and pushes what the node of
that socket exposes. -/
theorem perform_gateway (a : Activation) :
    perform scene below site a (Gateway.update a) .empty =
      match Gateway.pairings a.attributes with
      | .error problem => .error (.badPairing a.node problem)
      | .ok p =>
        match a.requested?.bind p.get? with
        | none => .ok .empty
        | some target =>
          (fun y : Yield => Yield.empty.pushAll
            (Gateway.pairedValues p (Gateway.exposedBy target.node y.exposed))) <$>
              below (.scene a.plain p site) target.node (some target.socket) := by
  unfold Gateway.update Gateway.enter
  cases Gateway.pairings a.attributes with
  | error problem => rfl
  | ok p =>
    cases a.requested? with
    | none => rfl
    | some socket =>
      dsimp only [Option.bind_some]
      cases p.get? socket with
      | none => rfl
      | some target =>
        dsimp only [perform]
        cases below (.scene a.plain p site) target.node (some target.socket) with
        | error failure => rfl
        | ok y =>
          change perform _ _ _ _ (Gateway.pushPaired p .succeed _) _ = _
          rw [Gateway.pushPaired_eq, perform_pushes]
          rfl

end Recompute

namespace Scene

variable {scene : Scene} {node : NodeId} {requested requested' : Option String} {c : Component}
  {a : Activation} {site : Site} {m n : Nat} {y z : Yield}

theorem activation_of_activation (ha : scene.activation node requested = .ok (c, a))
    (requested' : Option String) :
    scene.activation node requested' = .ok (c, { a with cause := .pull requested' }) := by
  obtain ⟨info, hinfo, hc, rfl⟩ := activation_eq_ok.1 ha
  exact activation_eq_ok.2 ⟨info, hinfo, hc, rfl⟩

/-- A steady node answers the same whatever output is asked for. -/
theorem recompute_of_steady (hc : c.Steady) (ha : scene.activation node requested = .ok (c, a))
    (hy : scene.recompute m site node requested = .ok y) (requested' : Option String) :
    scene.recompute m site node requested' = .ok y := by
  obtain ⟨levels, c', a', rfl, ha', hy⟩ := recompute_eq_ok.1 hy
  obtain ⟨rfl, rfl⟩ := Prod.mk.inj (Except.ok.inj (ha.symm.trans ha'))
  refine recompute_eq_ok.2 ⟨levels, c, _, rfl, activation_of_activation ha requested', ?_⟩
  obtain ⟨info, -, -, rfl⟩ := activation_eq_ok.1 ha
  have hscript := (hc.unasked node info.attributes requested').trans
    (hc.unasked node info.attributes requested).symm
  rw [Recompute.perform_cause]
  exact hscript ▸ hy

/-- Nothing is known about a node within some levels. -/
def Unknown (scene : Scene) (levels : Nat) (site : Site) (node : NodeId) : Prop :=
  ∀ requested y, scene.recompute levels site node requested ≠ .ok y

/-- A gateway exposes nothing. -/
theorem exposed_of_gateway (ha : scene.activation node requested = .ok (Gateway.component, a))
    (hy : scene.recompute m site node requested = .ok y) : y.exposed = .empty := by
  obtain ⟨levels, c, a', rfl, ha', hy⟩ := recompute_eq_ok.1 hy
  obtain ⟨rfl, rfl⟩ := Prod.mk.inj (Except.ok.inj (ha.symm.trans ha'))
  change Recompute.perform _ _ _ _ (Gateway.update a) _ = _ at hy
  rw [Recompute.perform_gateway] at hy
  split at hy
  · exact nomatch hy
  · split at hy
    · obtain rfl := Except.ok.inj hy
      rfl
    · obtain ⟨y', -, hy⟩ := Outcome.map_eq_ok.1 hy
      rw [← hy]
      exact Yield.exposed_pushAll _ _

/-- What a gateway is asked for is asked for in the linked scene. -/
theorem recompute_gateway (ha : scene.activation node requested = .ok (Gateway.component, a))
    {p : Pairings} (hp : Gateway.pairings a.attributes = .ok p) {socket : String} {target : Link}
    (htarget : p.get? socket = some target) :
    scene.recompute (m + 1) site node (some socket) =
      (fun y : Yield => Yield.empty.pushAll
        (Gateway.pairedValues p (Gateway.exposedBy target.node y.exposed))) <$>
          scene.recompute m (.scene a.plain p site) target.node (some target.socket) := by
  rw [Scene.recompute, activation_of_activation ha (some socket)]
  change Recompute.perform _ _ _ _ (Gateway.update _) _ = _
  rw [Recompute.perform_gateway]
  simp only [hp, Activation.requested?, Option.bind_some, htarget]
  rfl

/-- Within some levels either nothing is known about a steady node, or all is once there is just one
level more than for nothing. -/
theorem unknown_or_known (hc : c.Steady) (ha : scene.activation node requested = .ok (c, a))
    (site : Site) (levels : Nat) :
    scene.Unknown levels site node ∨ ∃ least < levels, ∃ y, scene.Unknown least site node ∧
      scene.recompute (least + 1) site node requested = .ok y := by
  induction levels with
  | zero =>
    refine .inl fun requested y hy => ?_
    obtain ⟨_, _, _, ⟨⟩, _⟩ := recompute_eq_ok.1 hy
  | succ levels ih =>
    rcases ih with hunknown | ⟨least, hlt, hleast⟩
    · by_cases hnext : scene.Unknown (levels + 1) site node
      · exact .inl hnext
      · unfold Unknown at hnext
        push Not at hnext
        obtain ⟨requested', y, hy⟩ := hnext
        have ha' := activation_of_activation ha requested'
        exact .inr ⟨levels, Nat.lt_succ_self _, y, hunknown,
          recompute_of_steady hc ha' hy requested⟩
    · exact .inr ⟨least, Nat.lt_succ_of_lt hlt, hleast⟩

section
variable (hsteady : scene.registry.Steady)
include hsteady

/-- A node that exposes something answers the same whatever output is asked for. -/
theorem recompute_again (hy : scene.recompute m site node requested = .ok y)
    (hexposed : y.exposed ≠ .empty) (requested' : Option String) :
    scene.recompute m site node requested' = .ok y := by
  obtain ⟨_, c, a, -, ha, -⟩ := recompute_eq_ok.1 hy
  obtain ⟨info, -, hc, -⟩ := activation_eq_ok.1 ha
  rcases hsteady hc with rfl | hsteady
  · exact absurd (exposed_of_gateway ha hy) hexposed
  · exact recompute_of_steady hsteady ha hy requested'

/-- What a node exposes does not depend on the output that is asked for. -/
theorem recompute_exposed (hy : scene.recompute m site node requested = .ok y)
    (hz : scene.recompute n site node requested' = .ok z) : y.exposed = z.exposed := by
  obtain ⟨_, c, a, -, ha, -⟩ := recompute_eq_ok.1 hy
  obtain ⟨info, -, hc, -⟩ := activation_eq_ok.1 ha
  rcases hsteady hc with rfl | hc'
  · rw [exposed_of_gateway ha hy, exposed_of_gateway (activation_of_activation ha _) hz]
  · have hy' := recompute_of_steady hc' ha hy requested'
    rw [recompute_unique hsteady hy' hz]

theorem Unknown.lt (hunknown : scene.Unknown n site node)
    (hy : scene.recompute m site node requested = .ok y) : n < m := by
  by_contra hle
  exact hunknown requested y (recompute_le hsteady (Nat.le_of_not_lt hle) hy)

end
end Scene
end SocketGraph
