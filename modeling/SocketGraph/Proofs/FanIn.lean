import SocketGraph.Engine

/-! Inputs with several producers. One that collects has a place for every link that feeds it, in the order of
the links, and any other one is resolved by the first of them alone. -/
namespace SocketGraph

variable {ω : Type}

/-- Outputs resolve one after the other, each in the run that the one before it has left. -/
inductive InTurn (resolve : Link → Action ω (Outcome (Option Value))) :
    List Link → Run ω → List (Option Value) → Run ω → Prop
  | nil (r : Run ω) : InTurn resolve [] r [] r
  | cons {l : Link} {ls : List Link} {v : Option Value} {vs : List (Option Value)} {r r' r'' : Run ω}
      (first : resolve l r = (.ok v, r')) (rest : InTurn resolve ls r' vs r'') :
      InTurn resolve (l :: ls) r (v :: vs) r''

/-- What the values of some outputs are collected to: nothing if none of them has a value, else an array with
a place for each; or the first failure, after which no further output is resolved. -/
inductive Collected (resolve : Link → Action ω (Outcome (Option Value))) (ls : List Link) (r : Run ω) :
    Outcome (Option Value) → Run ω → Prop
  | nothing {vs : List (Option Value)} {r' : Run ω} (turn : InTurn resolve ls r vs r')
      (absent : ∀ v ∈ vs, v = none) : Collected resolve ls r (.ok none) r'
  | places {vs : List (Option Value)} {r' : Run ω} (turn : InTurn resolve ls r vs r')
      (length : vs.length = ls.length) (present : ∃ v ∈ vs, v ≠ none) :
      Collected resolve ls r (.ok (some (.array (vs.map (·.getD .null))))) r'
  | failed {before after : List Link} {l : Link} {vs : List (Option Value)} {r' r'' : Run ω}
      {failure : Failure} (split : ls = before ++ l :: after) (turn : InTurn resolve before r vs r')
      (fails : resolve l r' = (.error failure, r'')) : Collected resolve ls r (.error failure) r''

theorem InTurn.length_eq {resolve : Link → Action ω (Outcome (Option Value))} {ls : List Link}
    {vs : List (Option Value)} {r r' : Run ω} (h : InTurn resolve ls r vs r') : vs.length = ls.length := by
  induction h with
  | nil => rfl
  | cons _ _ ih => simp [ih]

theorem collect_of_absent {vs : List (Option Value)} (h : ∀ v ∈ vs, v = none) : collect vs = none := by
  refine if_neg fun hany => ?_
  obtain ⟨v, hv, hsome⟩ := List.any_eq_true.1 hany
  simp [h v hv] at hsome

theorem collect_of_present {vs : List (Option Value)} (h : ∃ v ∈ vs, v ≠ none) :
    collect vs = some (.array (vs.map (·.getD .null))) := by
  obtain ⟨v, hv, hsome⟩ := h
  exact if_pos (List.any_eq_true.2 ⟨v, hv, Option.isSome_iff_ne_none.2 hsome⟩)

/-- An input collects if it is declared to allow several producers, or if it is undeclared and has several. -/
theorem collects_iff {sockets : List Socket} {socket : String} {ls : List Link} :
    collects sockets socket ls = true ↔
      (∃ declared, Socket.input? sockets socket = some declared ∧ declared.allowsMultiple = true) ∨
        Socket.input? sockets socket = none ∧ 1 < ls.length := by
  unfold collects
  cases Socket.input? sockets socket <;> simp

/-- Outputs that are resolved in turn all succeed, or the failure of one of them ends it. -/
theorem inTurn_resolveProducers (below : Calls ω) (lookup : Lookup ω) (i : Nat) (ls : List Link) (r : Run ω) :
    (∃ vs r', resolveProducers below lookup i ls r = (.ok vs, r') ∧
      InTurn (resolveProducer below lookup i) ls r vs r') ∨
    ∃ before l after vs r' failure r'', resolveProducers below lookup i ls r = (.error failure, r'') ∧
      ls = before ++ l :: after ∧ InTurn (resolveProducer below lookup i) before r vs r' ∧
      resolveProducer below lookup i l r' = (.error failure, r'') := by
  induction ls generalizing r with
  | nil => exact .inl ⟨[], r, rfl, .nil r⟩
  | cons l ls ih =>
    rw [resolveProducers, Action.bind_apply]
    rcases hl : resolveProducer below lookup i l r with ⟨failure | v, r₁⟩
    · exact .inr ⟨[], l, ls, [], r, failure, r₁, rfl, rfl, .nil r, hl⟩
    · dsimp only
      rw [Action.bind_apply]
      rcases ih r₁ with ⟨vs, r', hrest, hturn⟩ | ⟨before, l', after, vs, r', failure, r'', hrest, rfl, hturn, hfails⟩
      · exact .inl ⟨v :: vs, r', by rw [hrest]; rfl, .cons hl hturn⟩
      · exact .inr ⟨l :: before, l', after, v :: vs, r', failure, r'', by rw [hrest]; rfl, rfl, .cons hl hturn, hfails⟩

/-- The run in which an input is kept, if it has a value. -/
def Run.keepInput (watch : Watcher ω) (i : Nat) (socket : Link) (r : Run ω) :
    Outcome (Option Value) → Run ω
  | .ok (some v) => (Action.changeStack watch (·.putInput i socket v) r).2
  | _ => r

section
variable {scene : Scene} {watch : Watcher ω} {below : Calls ω} {lookup : Lookup ω} {i : Nat}
  {a : Activation} {socket : String} {first : Link} {rest : List Link} {r r' : Run ω}
  {outcome : Outcome (Option Value)}

theorem fetchInput_of_resolveInput (hactive : r.state.stack.active? i = some a)
    (hmissing : r.state.stack.input? i ⟨a.node, socket⟩ = none)
    (hresolve : resolveInput scene below (provide scene watch below) i a socket r = (outcome, r')) :
    fetchInput scene watch below i socket r = (outcome, r'.keepInput watch i ⟨a.node, socket⟩ outcome) := by
  rw [fetchInput, fetchWith, Action.readStack_bind_apply, hactive]
  dsimp only
  rw [inputOf, Action.readStack_bind_apply, hmissing]
  dsimp only
  rw [Action.bind_apply, hresolve]
  rcases outcome with failure | _ | v <;> rfl

variable (hproducers : scene.tables.executable.producers a.node socket = first :: rest)

include hproducers

theorem resolveInput_of_collects (hcollects : collects a.sockets socket (first :: rest) = true) :
    ∃ outcome r', resolveInput scene below lookup i a socket r = (outcome, r') ∧
      Collected (resolveProducer below lookup i) (first :: rest) r outcome r' := by
  rw [resolveInput, hproducers]
  dsimp only
  rw [if_pos hcollects, Action.bind_apply]
  rcases inTurn_resolveProducers below lookup i (first :: rest) r with
    ⟨vs, r', hall, hturn⟩ | ⟨before, l, after, vs, r', failure, r'', hall, hsplit, hturn, hfails⟩
  · rw [hall]
    by_cases hpresent : ∃ v ∈ vs, v ≠ none
    · exact ⟨_, r', congrArg (Prod.mk · r') (congrArg Except.ok (collect_of_present hpresent)),
        .places hturn hturn.length_eq hpresent⟩
    · have habsent : ∀ v ∈ vs, v = none := by simpa using hpresent
      exact ⟨_, r', congrArg (Prod.mk · r') (congrArg Except.ok (collect_of_absent habsent)),
        .nothing hturn habsent⟩
  · rw [hall]
    exact ⟨_, r'', rfl, .failed hsplit hturn hfails⟩

theorem resolveInput_of_not_collects (hsingle : ¬ collects a.sockets socket (first :: rest) = true) :
    resolveInput scene below lookup i a socket r = resolveProducer below lookup i first r := by
  rw [resolveInput, hproducers]
  dsimp only
  rw [if_neg hsingle]

end

/-- In every run, when the active node of a frame fetches an input that some links feed and that is not kept
yet: if the input collects, the outputs are resolved in the order of the links, each of them in its turn, and
there is a place for each; otherwise the first of them is resolved and no other one. -/
theorem inputs_keep_places (scene : Scene) (watch : Watcher ω) (below : Calls ω) (r : Run ω) (i : Nat)
    (a : Activation) (socket : String) (first : Link) (rest : List Link)
    (hactive : r.state.stack.active? i = some a)
    (hmissing : r.state.stack.input? i ⟨a.node, socket⟩ = none)
    (hproducers : scene.tables.executable.producers a.node socket = first :: rest) :
    let resolve := resolveProducer below (provide scene watch below) i
    let collecting :=
      (∃ declared, Socket.input? a.sockets socket = some declared ∧ declared.allowsMultiple = true) ∨
        Socket.input? a.sockets socket = none ∧ 1 < (first :: rest).length
    ∃ outcome r', fetchInput scene watch below i socket r =
        (outcome, r'.keepInput watch i ⟨a.node, socket⟩ outcome) ∧
      (collecting → Collected resolve (first :: rest) r outcome r') ∧
      (¬ collecting → resolve first r = (outcome, r')) := by
  intro resolve collecting
  by_cases hcollecting : collecting
  · obtain ⟨outcome, r', hresolve, hcollected⟩ :=
      resolveInput_of_collects hproducers (collects_iff.2 hcollecting)
    exact ⟨outcome, r', fetchInput_of_resolveInput hactive hmissing hresolve, fun _ => hcollected,
      fun h => absurd hcollecting h⟩
  · have hresolve : resolveInput scene below (provide scene watch below) i a socket r = resolve first r :=
      resolveInput_of_not_collects hproducers fun h => hcollecting (collects_iff.1 h)
    exact ⟨_, _, fetchInput_of_resolveInput hactive hmissing hresolve, fun h => absurd h hcollecting,
      fun _ => rfl⟩

/-- Links to one output twice, and to one that is never pushed. -/
def twinLinks : List Link := [⟨"p", "o"⟩, ⟨"p", "o"⟩, ⟨"q", "o"⟩]

def twinScene : Scene :=
  ⟨⟨.empty, ⟨((Table.empty.insert "c" ⟨"idle", .empty⟩).insert "p" ⟨"one", .empty⟩).insert "q" ⟨"idle", .empty⟩,
      Table.empty.insert (socketKey "c" "i") twinLinks, .empty⟩⟩,
    .ofComponents [⟨"idle", [], none, none⟩, ⟨"one", [], some fun _ => .push "o" (.int 1) .succeed, none⟩], ⟨20, 20⟩⟩

/-- The node that the links feed, active on the frame of a call. -/
def twinRun : Run Unit :=
  ⟨⟨⟨[.fresh true none, (Frame.fresh true none).enter ⟨"c", "idle", [], .empty, .pull none⟩]⟩, .empty, 1⟩, .empty, ()⟩

/-- The output that is linked twice fills two places. -/
theorem inputs_keep_places_twice :
    let resolve := resolveProducer (twinScene.hostCalls .silent)
      (provide twinScene .silent (twinScene.hostCalls .silent)) 1
    ∃ vs r', InTurn resolve twinLinks twinRun vs r' ∧ vs.length = 3 ∧
      vs.map (·.getD .null) = [.int 1, .int 1, .null] := by
  intro resolve
  have hfetched : (fetchInput twinScene .silent (twinScene.hostCalls .silent) 1 "i" twinRun).1.toOption =
      some (some (.array [.int 1, .int 1, .null])) := by decide +kernel
  obtain ⟨outcome, r', hfetch, hcollected, -⟩ := inputs_keep_places twinScene .silent
    (twinScene.hostCalls .silent) twinRun 1 ⟨"c", "idle", [], .empty, .pull none⟩ "i" ⟨"p", "o"⟩ _ rfl rfl rfl
  rw [hfetch] at hfetched
  cases hcollected (.inr ⟨rfl, by decide⟩) with
  | nothing => cases hfetched
  | failed => cases hfetched
  | places hturn hlength =>
    exact ⟨_, _, hturn, hlength, Value.array.inj (Option.some.inj (Option.some.inj hfetched))⟩

end SocketGraph
