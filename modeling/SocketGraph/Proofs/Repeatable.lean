import SocketGraph.Proofs.Settled
import SocketGraph.Proofs.Upkeep
import Mathlib.Logic.Relation

/-! Repeated reads. Whatever a handler does between two fetches of one socket, the evaluations, signals and
linked scenes that it starts are over before the second fetch, so it finds what the first has found. -/
namespace SocketGraph

/-- What the first operation of a script writes leaves the inputs alone. -/
theorem Script.settles_effect (i : Nat) (a : Activation) (st : EngineState) (script : Script) :
    st.stack.Settles (script.effect i a st).stack := by
  cases script with
  | push socket v next => exact FrameStack.settles_putOutput i _ v
  | expose socket v next => exact FrameStack.settles_putExposed i _ v
  | exposeSignal socket next =>
    rw [effect]
    split_ifs
    · exact FrameStack.settles_addSignal i _
    · exact .refl st.stack
  | forward socket next =>
    rw [effect]
    split_ifs
    · exact FrameStack.settles_forward i socket
    · exact .refl st.stack
  | mark target scope next =>
    cases scope with
    | frame => exact FrameStack.settles_mark i target a.node a.component
    | root => exact FrameStack.settles_mark _ target a.node a.component
    | forever => exact .refl st.stack
  | _ => exact .refl st.stack

/-- What walks have found among the inputs stays as it is. -/
def Upkeep.settled {ω : Type} (scene : Scene) (watch : Watcher ω) : Upkeep scene watch where
  keeps r r' := r.state.stack.Settles r'.state.stack
  refl r := .refl r.state.stack
  trans h h' := h.trans h'
  height h := FrameStack.height_of_outline h.outline
  emit r _ := .refl r.state.stack
  note r _ := .refl r.state.stack
  count r _ := .refl r.state.stack
  effect r i a script := script.settles_effect i a r.state
  input h _ hmiss _ := h.putInput hmiss _
  nested h := h
  active _ h := h.left
  linked _ _ h := h.popBoth
  called h := h.popBoth

section
variable {ω : Type} {scene : Scene} {watch : Watcher ω} {below : Calls ω} {lookup : Lookup ω}

/-- A fetch is answered with what is at hand. -/
theorem fetchInput_of_atHand? {i : Nat} {socket : String} {r : Run ω} {v : Value}
    (hv : r.state.stack.atHand? i socket = some v) :
    fetchInput scene watch below i socket r = (.ok (some v), r) := by
  obtain ⟨a, hactive, hknown⟩ := Option.bind_eq_some_iff.1 hv
  rw [fetchInput, fetchWith, Action.readStack_bind_apply, hactive]
  show inputOf scene watch below _ i a socket r = _
  rw [inputOf, Action.readStack_bind_apply, hknown]
  rfl

theorem atHand?_of_inputOf (hbelow : (Upkeep.settled scene watch).Serves below)
    (hlookup : (Upkeep.settled scene watch).Looks lookup) {i : Nat} {a : Activation} {socket : String}
    {r : Run ω} {v : Value}
    (hactive : r.state.stack.active? i = some a)
    (hv : (inputOf scene watch below lookup i a socket r).1 = .ok (some v)) :
    (inputOf scene watch below lookup i a socket r).2.state.stack.atHand? i socket = some v := by
  have hresolve : r.state.stack.Settles (resolveInput scene below lookup i a socket r).2.state.stack :=
    Upkeep.keeps_resolveInput hbelow hlookup i a socket r (FrameStack.lt_height_of_active? hactive)
  rw [inputOf, Action.readStack_bind_apply] at hv ⊢
  cases hknown : r.state.stack.input? i ⟨a.node, socket⟩ with
  | some w =>
    rw [hknown] at hv
    obtain rfl : w = v := Option.some.inj (Except.ok.inj hv)
    exact Option.bind_eq_some_iff.2 ⟨a, hactive, hknown⟩
  | none =>
    rw [hknown] at hv
    generalize resolveInput scene below lookup i a socket = x at hresolve hv ⊢
    dsimp only at hv ⊢
    rw [Action.bind_apply] at hv ⊢
    rcases hx : (x r).1 with failure | _ | w
    · rw [hx] at hv
      cases hv
    · rw [hx] at hv
      cases hv
    · rw [hx] at hv
      obtain rfl : w = v := Option.some.inj (Except.ok.inj hv)
      exact hresolve.atHand?_putInput hactive socket w

/-- What a fetch is answered with is at hand afterwards. -/
theorem atHand?_of_fetchInput (hbelow : (Upkeep.settled scene watch).Serves below) {i : Nat}
    {socket : String} {r : Run ω} {v : Value}
    (hv : (fetchInput scene watch below i socket r).1 = .ok (some v)) :
    (fetchInput scene watch below i socket r).2.state.stack.atHand? i socket = some v := by
  rw [fetchInput, fetchWith, Action.readStack_bind_apply] at hv ⊢
  cases hactive : r.state.stack.active? i with
  | none =>
    rw [hactive] at hv
    cases hv
  | some a =>
    rw [hactive] at hv
    exact atHand?_of_inputOf hbelow (Upkeep.looks_provide hbelow) hactive hv

variable (scene watch below)

/-- A fetch as the handler of an activation performs it. -/
def fetching (i : Nat) (a : Activation) (socket : String) (next : Outcome (Option Value) → Script) :
    Action ω (Outcome (Option Value)) := do
  Action.note watch (.performed i a (.fetch socket next))
  fetchInput scene watch below i socket

/-- The handler of an activation gets from one moment to the next one, the script that is left and the run
so far, by an operation. -/
def Operates (i : Nat) (a : Activation) (m m' : Script × Run ω) : Prop :=
  operate scene watch below i a m.1 m.2 = m'

variable {scene watch below}

/-- The moments that are reached are those of one performance. -/
theorem perform_of_operates {i : Nat} {a : Activation} {m m' : Script × Run ω}
    (h : Relation.ReflTransGen (Operates scene watch below i a) m m') :
    perform scene watch below i a m.1 m.2 = perform scene watch below i a m'.1 m'.2 := by
  induction h with
  | refl => rfl
  | tail _ hstep ih => rw [ih, perform_eq_operate, Action.bind_apply, hstep]

/-- What operations keep up one by one they keep up together. -/
theorem keeps_of_operates {K : Upkeep scene watch} (hbelow : K.Serves below) {i : Nat} {a : Activation}
    {m m' : Script × Run ω} (hi : i < m.2.state.stack.height)
    (h : Relation.ReflTransGen (Operates scene watch below i a) m m') : K.keeps m.2 m'.2 := by
  induction h with
  | refl => exact K.refl m.2
  | @tail m₁ m₂ _ hstep ih =>
    have hoperate := Upkeep.keeps_operate hbelow i a m₁.1 m₁.2 (by rwa [K.height ih])
    rw [hstep] at hoperate
    exact K.trans ih hoperate

end

/-- A value that a handler has fetched it fetches again, whatever it has done since, and no handler is
started for it. -/
theorem Scene.fetches_repeat {ω : Type} (scene : Scene) (watch : Watcher ω) (levels i : Nat)
    (a : Activation) (socket : String) (next next' : Outcome (Option Value) → Script) (r r' : Run ω)
    (v : Value)
    (hfirst : (fetching scene watch (scene.calls watch levels) i a socket next r).1 = .ok (some v))
    (hlater : Relation.TransGen (Operates scene watch (scene.calls watch levels) i a)
      (.fetch socket next, r) (.fetch socket next', r')) :
    fetching scene watch (scene.calls watch levels) i a socket next' r' =
      (.ok (some v), (Action.note watch (.performed i a (.fetch socket next')) r').2) := by
  have hbelow := (Upkeep.settled scene watch).serves_calls levels
  obtain ⟨m, hstep, hrest⟩ := Relation.TransGen.head'_iff.1 hlater
  subst hstep
  have hknown := atHand?_of_fetchInput hbelow hfirst
  have hsettles := keeps_of_operates hbelow (FrameStack.lt_height_of_atHand? hknown) hrest
  exact fetchInput_of_atHand? (hsettles.atHand? hknown)

/-- What a handler does once it has fetched its input: it pushes an output and fetches the input again. -/
def loopNext : Outcome (Option Value) → Script := fun _ =>
  .push "out" (.string "second") (.fetch "in" fun _ => .succeed)

/-- A component that pushes its output if it is asked for it, and otherwise fetches its input twice. -/
def loopComponent : Component :=
  ⟨"loop", [.input "in" "text", .output "out" "text"],
    some fun a => if a.requested? = some "out" then .push "out" (.string "first") .succeed else .fetch "in" loopNext,
    none⟩

/-- A component that hands its input on. -/
def echoComponent : Component :=
  ⟨"echo", [.input "in" "text", .output "out" "text"],
    some fun _ => .fetch "in" fun
      | .ok (some v) => .push "out" v .succeed
      | _ => .succeed, none⟩

/-- Two nodes that feed each other. -/
def loopScene : Scene :=
  let nodes : Table NodeInfo := (Table.empty.insert "n" ⟨"loop", .empty⟩).insert "m" ⟨"echo", .empty⟩
  let edges : Table (List Link) := (Table.empty.insert "n:in" [⟨"m", "out"⟩]).insert "m:in" [⟨"n", "out"⟩]
  ⟨⟨.empty, ⟨nodes, edges, .empty⟩⟩, .ofComponents [loopComponent, echoComponent], ⟨20, 20⟩⟩

def loopActivation : Activation := loopComponent.activation "n" .empty (.pull none)

/-- The run in which the first node is active, one nesting deep. -/
def loopRun : Run Unit :=
  ⟨⟨(FrameStack.empty.push (.fresh true none)).enter 0 loopActivation, .empty, 1⟩, .empty, ()⟩

/-- The first node fetches, pushes, and comes to its second fetch. -/
theorem loop_operates (calls : Calls Unit) (r : Run Unit) :
    Relation.TransGen (Operates loopScene .silent calls 0 loopActivation) (.fetch "in" loopNext, r)
      (.fetch "in" fun _ => .succeed, (operate loopScene .silent calls 0 loopActivation
        (.push "out" (.string "second") (.fetch "in" fun _ => .succeed))
        (fetching loopScene .silent calls 0 loopActivation "in" loopNext r).2).2) :=
  .tail (.single rfl) rfl

/-- The fetch comes back to the node that fetches, through the other one. What the node pushes afterwards under the
same name does not matter to its second fetch. -/
theorem loop_fetches_repeat :
    let calls : Calls Unit := loopScene.calls .silent 20
    let fetched := fetching loopScene .silent calls 0 loopActivation "in" loopNext loopRun
    let later := operate loopScene .silent calls 0 loopActivation
      (.push "out" (.string "second") (.fetch "in" fun _ => .succeed)) fetched.2
    loopRun.state.stack.output? 0 ⟨"n", "out"⟩ = none ∧
      fetched.2.state.stack.output? 0 ⟨"n", "out"⟩ = some (.string "first") ∧
      later.2.state.stack.output? 0 ⟨"n", "out"⟩ = some (.string "second") ∧
      (fetching loopScene .silent calls 0 loopActivation "in" (fun _ => .succeed) later.2).1 =
        .ok (some (.string "first")) := by
  intro calls fetched later
  refine ⟨rfl, by decide +kernel, by decide +kernel, ?_⟩
  have hgot : fetched.1.toOption = some (some (.string "first")) := by decide +kernel
  have hfirst : fetched.1 = .ok (some (.string "first")) := by
    cases houtcome : fetched.1 with
    | error failure =>
      rw [houtcome] at hgot
      exact nomatch hgot
    | ok v =>
      rw [houtcome] at hgot
      exact congrArg Except.ok (Option.some.inj hgot)
  rw [loopScene.fetches_repeat .silent 20 0 loopActivation "in" loopNext _ loopRun later.2 _ hfirst
    (loop_operates calls loopRun)]

end SocketGraph
