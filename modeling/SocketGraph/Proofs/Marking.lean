import SocketGraph.Proofs.Freshness
import SocketGraph.Proofs.WarrantedCalls

/-! Marks. A mark that a handler makes holds on a frame, above a root or everywhere, from then on and as
long as its frame is open. What an engine is marked with at any time are the marks that are live then, and
they decide which nodes are left as they are. -/
namespace SocketGraph

/-- Where a mark holds: on one frame, on all frames above one root, or wherever the engine is at work. -/
inductive Extent
  | on (frame : Nat)
  | above (root : Nat)
  | everywhere
  deriving DecidableEq

namespace Extent

/-- Whether a mark is heeded by evaluations on a frame. -/
def Reaches (s : FrameStack) (i : Nat) : Extent → Prop
  | .on j => i = j
  | .above r => s.root i = r
  | .everywhere => True

/-- Whether the frame that a mark holds with is open. -/
def Open (s : FrameStack) : Extent → Prop
  | .on j | .above j => j < s.height
  | .everywhere => True

end Extent

/-- Where a mark holds that is made on a frame. -/
def MarkScope.extent (s : FrameStack) (i : Nat) : MarkScope → Extent
  | .frame => .on i
  | .root => .above (s.root i)
  | .forever => .everywhere

/-- What a mark can be a mark of. -/
inductive Subject
  | node (node : NodeId)
  | component (component : String)

/-- Whether something is marked. -/
def Marks.Has (m : Marks) : Subject → Prop
  | .node node => node ∈ m.nodes
  | .component component => component ∈ m.components

/-- A mark as it was made: for a node of a component. -/
structure Marking where
  extent : Extent
  target : MarkTarget
  node : NodeId
  component : String

/-- The mark that a handler makes in a moment. -/
def Moment.marking? (m : Moment) : Option Marking :=
  match m.step with
  | .performed i a (.mark target scope _) =>
    some ⟨scope.extent m.state.stack i, target, a.node, a.component⟩
  | _ => none

namespace Marking

/-- The nodes of a graph that a mark covers: the node that it was made for, and the nodes of its component.
-/
def Covers (k : Marking) (x : Executable) (node : NodeId) : Prop :=
  (k.target.coversNode = true ∧ node = k.node) ∨
    k.target.coversComponent = true ∧ ∃ info, x.node? node = some info ∧ info.component = k.component

/-- A mark is live after some moments, the latest first, if it was made in one of them and its frame has
been open ever since. -/
def Live (k : Marking) : List Moment → Prop
  | [] => False
  | m :: earlier => k.extent.Open m.state.stack ∧ (m.marking? = some k ∨ k.Live earlier)

/-- What a mark is a mark of. -/
def Of (k : Marking) : Subject → Prop
  | .node node => k.target.coversNode = true ∧ node = k.node
  | .component component => k.target.coversComponent = true ∧ component = k.component

theorem covers_iff {k : Marking} {x : Executable} {node : NodeId} {info : NodeInfo}
    (h : x.node? node = some info) :
    k.Covers x node ↔ k.Of (.node node) ∨ k.Of (.component info.component) := by
  simp [Covers, Of, h]

theorem Live.open {k : Marking} {h : List Moment} (hk : k.Live h) :
    ∃ m ∈ h.head?, k.extent.Open m.state.stack := by
  cases h with
  | nil => exact hk.elim
  | cons m earlier => exact ⟨m, rfl, hk.1⟩

/-- A live mark was made in some moment, and its frame has been open since. -/
theorem Live.exists {k : Marking} {h : List Moment} (hk : k.Live h) :
    ∃ between m before, h = between ++ m :: before ∧ m.marking? = some k ∧
      ∀ m' ∈ between ++ [m], k.extent.Open m'.state.stack := by
  induction h with
  | nil => exact hk.elim
  | cons m earlier ih =>
    obtain ⟨hopen, hmade | hlive⟩ := hk
    · exact ⟨[], m, earlier, rfl, hmade, List.forall_mem_singleton.2 hopen⟩
    · obtain ⟨between, m', before, hsplit, hmade, hsince⟩ := ih hlive
      exact ⟨m :: between, m', before, congrArg (List.cons m) hsplit, hmade,
        List.forall_mem_cons.2 ⟨hopen, hsince⟩⟩

end Marking

theorem Moment.exists_of_marking? {m : Moment} {k : Marking} (h : m.marking? = some k) :
    ∃ i a target scope next, m.step = .performed i a (.mark target scope next) ∧
      k = ⟨scope.extent m.state.stack i, target, a.node, a.component⟩ := by
  unfold marking? at h
  split at h
  · rename_i i a target scope next hstep
    exact ⟨i, a, target, scope, next, hstep, (Option.some.inj h).symm⟩
  · exact nomatch h

namespace Marks

theorem covers_iff {m : Marks} {node : NodeId} {component : String} :
    m.covers node component = true ↔ m.Has (.node node) ∨ m.Has (.component component) := by
  simp [covers, Has]

/-- What is marked after a mark is added. -/
theorem has_add (m : Marks) (e : Extent) (target : MarkTarget) (node : NodeId) (component : String)
    (x : Subject) : (m.add target node component).Has x ↔
      m.Has x ∨ Marking.Of ⟨e, target, node, component⟩ x := by
  cases target <;> cases x <;>
    simp [add, Has, Marking.Of, MarkTarget.coversNode, MarkTarget.coversComponent, or_comm]

end Marks

/-- A mark of an extent is live. -/
def Extent.Covered (e : Extent) (h : List Moment) (x : Subject) : Prop :=
  ∃ k : Marking, k.Live h ∧ k.extent = e ∧ k.Of x

section
variable {e : Extent} {h : List Moment} {m : Moment} {x : Subject}

/-- A moment in which no mark is made only ends the marks whose frame is gone. -/
theorem Extent.covered_cons (hm : m.marking? = none) :
    e.Covered (m :: h) x ↔ e.Open m.state.stack ∧ e.Covered h x := by
  constructor
  · rintro ⟨k, ⟨hopen, hmade | hlive⟩, rfl, hcovers⟩
    · exact nomatch hm.symm.trans hmade
    · exact ⟨hopen, k, hlive, rfl, hcovers⟩
  · rintro ⟨hopen, k, hlive, rfl, hcovers⟩
    exact ⟨k, ⟨hopen, .inr hlive⟩, rfl, hcovers⟩

/-- A mark that is made is live as long as its frame is open. -/
theorem Extent.covered_made {k : Marking} (hm : m.marking? = some k) :
    e.Covered (m :: h) x ↔ e.Open m.state.stack ∧ (k.extent = e ∧ k.Of x ∨ e.Covered h x) := by
  constructor
  · rintro ⟨k', ⟨hopen, hmade | hlive⟩, rfl, hcovers⟩
    · obtain rfl : k = k' := Option.some.inj (hm.symm.trans hmade)
      exact ⟨hopen, .inl ⟨rfl, hcovers⟩⟩
    · exact ⟨hopen, .inr ⟨k', hlive, rfl, hcovers⟩⟩
  · rintro ⟨hopen, ⟨rfl, hcovers⟩ | ⟨k', hlive, rfl, hcovers⟩⟩
    · exact ⟨k, ⟨hopen, .inl hm⟩, rfl, hcovers⟩
    · exact ⟨k', ⟨hopen, .inr hlive⟩, rfl, hcovers⟩

end

namespace FrameStack

variable {s t : FrameStack} {i j : Nat} {x : Subject}

/-- Whether a frame itself carries a mark. -/
def Carries (s : FrameStack) (i : Nat) (x : Subject) : Prop := ∃ f, s.frame? i = some f ∧ f.marks.Has x

theorem isMarked_iff {node : NodeId} {component : String} : s.isMarked i node component = true ↔
    s.Carries i (.node node) ∨ s.Carries i (.component component) := by
  unfold isMarked Carries
  cases s.frame? i <;> simp [Marks.covers_iff]

/-- The extent of the marks that a frame carries: those of an inner frame hold on that frame, those of a
root frame above it. -/
def carried (s : FrameStack) (j : Nat) : Extent :=
  if 0 < j ∧ s.isPermeable j = true then .on j else .above j

theorem open_carried : (s.carried j).Open t ↔ j < t.height := by
  unfold carried
  split_ifs <;> rfl

theorem carried_of_outline (h : s.outline = t.outline) (j : Nat) : s.carried j = t.carried j := by
  rw [carried, carried, isPermeable_of_outline h]

theorem carried_inj : s.carried i = s.carried j ↔ i = j := by
  refine ⟨fun h => ?_, congrArg _⟩
  unfold carried at h
  split_ifs at h <;> injection h

theorem Inner.carried (h : s.Inner i) : s.carried i = .on i := if_pos h

/-- A root frame lets nothing through, or there is no frame below it. -/
theorem carried_root (h : i < s.height) : s.carried (s.root i) = .above (s.root i) := by
  refine if_neg ?_
  induction i with
  | zero => simp [root_zero]
  | succ i ih =>
    rw [root_succ h]
    split_ifs with hp
    · exact ih (by omega)
    · exact fun hinner => hp hinner.2

theorem carries_mark (hi : i < s.height) (e : Extent) (target : MarkTarget) (n : NodeId) (c : String) :
    (s.mark i target n c).Carries j x ↔ s.Carries j x ∨ i = j ∧ Marking.Of ⟨e, target, n, c⟩ x := by
  unfold Carries
  rw [mark, frame?_modify]
  split_ifs with hij
  · subst hij
    obtain ⟨f, hf⟩ := exists_frame? hi
    simp [hf, Frame.mark, Marks.has_add _ e]
  · simp [hij]

theorem carries_of_view (h : s.view Frame.marks = t.view Frame.marks) : s.Carries j x ↔ t.Carries j x := by
  have hj := frame?_of_view h j
  unfold Carries
  cases hs : s.frame? j <;> cases ht : t.frame? j <;> simp_all

theorem carries_of_frame? (h : s.frame? j = t.frame? j) : s.Carries j x ↔ t.Carries j x := by
  rw [Carries, Carries, h]

theorem outline_mark (s : FrameStack) (i : Nat) (target : MarkTarget) (n : NodeId) (c : String) :
    (s.mark i target n c).outline = s.outline := outline_modify fun _ => rfl

end FrameStack

namespace EngineState

variable {st st' : EngineState}

/-- Whether something is marked for a frame: on the frame itself, on its root frame or forever. -/
def Marked (st : EngineState) (i : Nat) (x : Subject) : Prop :=
  st.forever.Has x ∨ st.stack.Carries i x ∨ st.stack.Carries (st.stack.root i) x

theorem needsUpdate_eq_false_iff {i : Nat} {node : NodeId} {component : String} :
    st.needsUpdate i node component = false ↔
      st.Marked i (.node node) ∨ st.Marked i (.component component) := by
  rw [needsUpdate, Bool.not_eq_false', Bool.or_eq_true, Bool.or_eq_true, Marks.covers_iff,
    FrameStack.isMarked_iff, FrameStack.isMarked_iff]
  unfold Marked
  tauto

/-- The marks in a state are those that are live after a history. -/
structure MarkedBy (h : List Moment) (st : EngineState) : Prop where
  height : ∀ m ∈ h.head?, m.state.stack.height = st.stack.height
  forever : ∀ x, st.forever.Has x ↔ Extent.everywhere.Covered h x
  frames : ∀ j < st.stack.height, ∀ x, st.stack.Carries j x ↔ (st.stack.carried j).Covered h x

end EngineState

namespace EngineState.MarkedBy

variable {h : List Moment} {st st' : EngineState}

theorem fresh : MarkedBy [] .fresh where
  height := nofun
  forever x := ⟨fun h => (by cases x <;> exact nomatch h), fun ⟨_, hlive, _⟩ => hlive.elim⟩
  frames j hj := absurd hj (Nat.not_lt_zero j)

/-- A moment in which no mark is made, in a state with the same marks. -/
theorem cons (hst : st.MarkedBy h) {m : Moment} (hm : m.marking? = none)
    (hheight : m.state.stack.height = st'.stack.height)
    (hview : st'.stack.view Frame.marks = st.stack.view Frame.marks)
    (hforever : st'.forever = st.forever) : st'.MarkedBy (m :: h) where
  height := by
    rintro _ ⟨⟩
    exact hheight
  forever x := by
    rw [Extent.covered_cons hm, hforever, hst.forever]
    exact (and_iff_right trivial).symm
  frames j hj x := by
    have houtline := FrameStack.outline_of_view hview
    rw [Extent.covered_cons hm, FrameStack.carries_of_view hview,
      FrameStack.carried_of_outline houtline,
      hst.frames j (FrameStack.height_of_outline houtline ▸ hj)]
    exact (and_iff_right (FrameStack.open_carried.2 (hheight ▸ hj))).symm

/-- A frame that stays as it is carries the same marks in the moment of another change. -/
theorem frame (hst : st.MarkedBy h) {j : Nat} {calls : CallStack}
    (hframe : st'.stack.frame? j = st.stack.frame? j) (hj : j < st.stack.height)
    (hj' : j < st'.stack.height) (x : Subject) : st'.stack.Carries j x ↔
      (st'.stack.carried j).Covered (.change calls st' :: h) x := by
  have hcarried : st'.stack.carried j = st.stack.carried j := by
    rw [FrameStack.carried, FrameStack.isPermeable, hframe]
    rfl
  rw [Extent.covered_cons rfl, FrameStack.carries_of_frame? hframe, hcarried, hst.frames j hj]
  exact (and_iff_right (FrameStack.open_carried.2 hj')).symm

/-- A new frame carries no marks, and no mark was made for it before it was opened. -/
theorem push (hst : st.MarkedBy h) (calls : CallStack) (permeable : Bool)
    (provider : Option FrameProvider) :
    (st.push (.fresh permeable provider)).MarkedBy
      (.change calls (st.push (.fresh permeable provider)) :: h) where
  height := by
    rintro _ ⟨⟩
    rfl
  forever x := by
    rw [Extent.covered_cons rfl]
    exact (hst.forever x).trans (and_iff_right trivial).symm
  frames j hj x := by
    have hheight : j < st.stack.height + 1 := (FrameStack.height_push _ _) ▸ hj
    by_cases htop : j = st.stack.height
    · subst htop
      rw [Extent.covered_cons rfl]
      refine ⟨fun ⟨f, hf, hmarks⟩ => ?_, fun ⟨_, k, hlive, hextent, _⟩ => ?_⟩
      · obtain rfl : Frame.fresh permeable provider = f :=
          Option.some.inj ((FrameStack.frame?_push_height _ _).symm.trans hf)
        cases x <;> exact nomatch hmarks
      · obtain ⟨m, hm, hopen⟩ := hlive.open
        rw [hextent, FrameStack.open_carried, hst.height m hm] at hopen
        exact absurd hopen (Nat.lt_irrefl _)
    · have hlt : j < st.stack.height := by omega
      exact hst.frame (FrameStack.frame?_push_of_lt _ hlt) hlt hj x

/-- The marks of a frame that is closed are gone. -/
theorem pop (hst : st.MarkedBy h) (calls : CallStack) :
    st.closeFrame.MarkedBy (.change calls st.closeFrame :: h) where
  height := by
    rintro _ ⟨⟩
    rfl
  forever x := by
    rw [Extent.covered_cons rfl]
    exact (hst.forever x).trans (and_iff_right trivial).symm
  frames j hj x := by
    have hpop : st.closeFrame.stack.height = st.stack.height - 1 := FrameStack.height_pop _
    have hframe : st.closeFrame.stack.frame? j = st.stack.frame? j := by
      rw [closeFrame, FrameStack.frame?_pop, if_pos (by omega)]
    exact hst.frame hframe (by omega) hj x

/-- Whatever changes without an operation of a handler. -/
theorem moved (hst : st.MarkedBy h) (calls : CallStack) (hmove : st.Moves st') :
    st'.MarkedBy (.change calls st' :: h) := by
  rcases hmove.view (g := Frame.marks) (fun _ _ => rfl) (fun _ => rfl) (fun _ _ _ => rfl) with
    ⟨hview, hforever⟩ | ⟨permeable, provider, rfl⟩ | rfl
  · exact hst.cons rfl rfl hview hforever
  · exact hst.push calls permeable provider
  · exact hst.pop calls

/-- A mark that is made on a frame is told of, if that frame carries the marks of its extent. -/
theorem mark_on (hst : st.MarkedBy h) {calls : CallStack} {i f : Nat} {a : Activation}
    {target : MarkTarget} {scope : MarkScope} {next : Script} (hf : f < st.stack.height)
    (hextent : st.stack.carried f = scope.extent st.stack i) (hscope : scope ≠ .forever) :
    EngineState.MarkedBy (⟨st, calls, .performed i a (.mark target scope next)⟩ :: h)
      { st with stack := st.stack.mark f target a.node a.component } where
  height := by
    rintro _ ⟨⟩
    exact (FrameStack.height_modify _ _ _).symm
  forever x := by
    have hne : scope.extent st.stack i ≠ .everywhere := by cases scope <;> simp_all [MarkScope.extent]
    rw [Extent.covered_made rfl, hst.forever]
    simp [hne, Extent.Open]
  frames j hj x := by
    have hj : j < st.stack.height := FrameStack.height_modify st.stack f _ ▸ hj
    have hcarried : (st.stack.mark f target a.node a.component).carried j = st.stack.carried j :=
      FrameStack.carried_of_outline (FrameStack.outline_mark _ _ _ _ _) j
    rw [FrameStack.carries_mark hf (scope.extent st.stack i), hcarried, Extent.covered_made rfl,
      FrameStack.open_carried, and_iff_right hj, hst.frames j hj, ← hextent, FrameStack.carried_inj,
      or_comm]

/-- A mark that a handler makes on an inner frame is told of. -/
theorem mark (hst : st.MarkedBy h) {calls : CallStack} {i : Nat} {a : Activation} (hi : st.stack.Inner i)
    (target : MarkTarget) (scope : MarkScope) (next : Script) :
    (st.mark i a.node a.component target scope).MarkedBy
      (⟨st, calls, .performed i a (.mark target scope next)⟩ :: h) := by
  cases scope with
  | frame => exact hst.mark_on hi.lt_height hi.carried nofun
  | root =>
    exact hst.mark_on (FrameStack.root_lt_height hi.lt_height) (FrameStack.carried_root hi.lt_height) nofun
  | forever =>
    refine ⟨by rintro _ ⟨⟩; rfl, fun x => ?_, fun j hj x => ?_⟩
    · rw [Extent.covered_made rfl, ← hst.forever]
      refine (Marks.has_add st.forever .everywhere target a.node a.component x).trans (or_comm.trans ?_)
      simp [MarkScope.extent, Extent.Open]
    · have hne : Extent.everywhere ≠ st.stack.carried j := by
        unfold FrameStack.carried
        split_ifs <;> exact nofun
      refine (hst.frames j hj x).trans ?_
      rw [Extent.covered_made rfl]
      have hopen : (st.stack.carried j).Open st.stack := FrameStack.open_carried.2 hj
      simp [MarkScope.extent, hne, hopen, EngineState.mark]

/-- Whatever a handler does on an inner frame, the marks in the state are told of. -/
theorem performed (hst : st.MarkedBy h) (calls : CallStack) {i : Nat} (a : Activation)
    (hi : st.stack.Inner i) (script : Script) :
    (script.effect i a st).MarkedBy (⟨st, calls, .performed i a script⟩ :: h) := by
  cases script with
  | mark target scope next => exact hst.mark hi target scope next
  | push | expose =>
    exact hst.cons rfl (FrameStack.height_writeThrough _ _ _).symm
      (FrameStack.view_writeThrough (fun _ => rfl) fun _ => rfl) rfl
  | exposeSignal =>
    rw [Script.effect]
    split_ifs
    · exact hst.cons rfl (FrameStack.height_writeThrough _ _ _).symm
        (FrameStack.view_writeThrough (fun _ => rfl) fun _ => rfl) rfl
    · exact hst.cons rfl rfl rfl rfl
  | forward =>
    rw [Script.effect]
    split_ifs
    · exact hst.cons rfl (FrameStack.height_modify _ _ _).symm
        (FrameStack.view_modify (fun _ => rfl) fun _ => rfl) rfl
    · exact hst.cons rfl rfl rfl rfl
  | _ => exact hst.cons rfl rfl rfl rfl

/-- What is marked for an inner frame are the subjects of the live marks that reach it. -/
theorem marked_iff (hst : st.MarkedBy h) {i : Nat} (hi : st.stack.Inner i) (x : Subject) :
    st.Marked i x ↔ ∃ k : Marking, k.Live h ∧ k.extent.Reaches st.stack i ∧ k.Of x := by
  have hroot := FrameStack.root_lt_height hi.lt_height
  rw [Marked, hst.forever, hst.frames i hi.lt_height, hst.frames _ hroot, hi.carried,
    FrameStack.carried_root hi.lt_height]
  constructor
  · rintro (⟨k, hlive, hextent, hof⟩ | ⟨k, hlive, hextent, hof⟩ | ⟨k, hlive, hextent, hof⟩)
    all_goals
      refine ⟨k, hlive, ?_, hof⟩
      rw [hextent]
      simp [Extent.Reaches]
  · rintro ⟨⟨extent, target, n, c⟩, hlive, hreaches, hof⟩
    cases extent with
    | everywhere => exact .inl ⟨_, hlive, rfl, hof⟩
    | on j =>
      obtain rfl : i = j := hreaches
      exact .inr (.inl ⟨_, hlive, rfl, hof⟩)
    | above r =>
      obtain rfl : st.stack.root i = r := hreaches
      exact .inr (.inr ⟨_, hlive, rfl, hof⟩)

/-- A node needs no update on an inner frame exactly if a live mark that reaches the frame covers it. -/
theorem needsUpdate_iff (hst : st.MarkedBy h) {i : Nat} (hi : st.stack.Inner i) {x : Executable}
    {node : NodeId} {info : NodeInfo} (hnode : x.node? node = some info) :
    st.needsUpdate i node info.component = false ↔
      ∃ k : Marking, k.Live h ∧ k.extent.Reaches st.stack i ∧ k.Covers x node := by
  rw [needsUpdate_eq_false_iff, hst.marked_iff hi, hst.marked_iff hi]
  simp only [Marking.covers_iff hnode, and_or_left, exists_or]

end EngineState.MarkedBy

/-- A handler that performs an operation works on an inner frame. -/
def Moment.Sited (m : Moment) : Prop :=
  ∀ i a script, m.step = .performed i a script → m.state.stack.Inner i

theorem Step.Quiet.marking? {s : Step} (hs : s.Quiet) (st : EngineState) (calls : CallStack) :
    (⟨st, calls, s⟩ : Moment).marking? = none := by
  cases s <;> first | rfl | exact hs.elim

/-- What a history tells of the marks in a state. -/
def Chronicle.marks : Chronicle where
  tells h st := (∀ m ∈ h, m.Sited) → st.MarkedBy h
  noted calls s hs ht hsited :=
    (ht (List.forall_mem_cons.1 hsited).2).cons (hs.marking? _ calls) rfl rfl rfl
  moved calls hmove ht hsited := (ht (List.forall_mem_cons.1 hsited).2).moved calls hmove
  wrote calls calls' i a script ht hsited := by
    obtain ⟨hperformed, hh⟩ := List.forall_mem_cons.1 (List.forall_mem_cons.1 hsited).2
    exact ((ht hh).performed calls a (hperformed i a script rfl) script).cons rfl rfl rfl rfl
  idle calls i a script heffect ht hsited := by
    obtain ⟨hperformed, hh⟩ := List.forall_mem_cons.1 hsited
    have hmarked := (ht hh).performed calls a (hperformed i a script rfl) script
    rwa [heffect] at hmarked

theorem Warranted.sited {scene : Scene} {paired : Pairings → Prop} {ms : List Moment}
    (h : Warranted scene paired ms) : ∀ m ∈ ms, m.Sited := by
  rintro ⟨st, calls, _⟩ hm i a script rfl
  exact (h.due _ hm).2

variable {scene : Scene} {paired : Pairings → Prop} {m : Moment} {h : List Moment}

/-- An update that is started is not held back by a live mark. -/
theorem Moment.Due.not_covers (hdue : m.Due scene paired) (hst : m.state.MarkedBy h) {i : Nat}
    {a : Activation} (hstep : m.step = .started i a) (hpull : a.isSignal = false) {k : Marking}
    (hlive : k.Live h) (hreaches : k.extent.Reaches m.state.stack i) :
    ¬ k.Covers scene.tables.executable a.node := by
  obtain ⟨st, calls, _⟩ := m
  obtain rfl : _ = Step.started i a := hstep
  obtain ⟨-, hinner, hstarts⟩ := hdue
  rw [if_neg (by simp [hpull])] at hstarts
  obtain ⟨st₀, info, rfl, hnode, hneeds, -⟩ := hstarts
  intro hcovers
  -- the marks are the same as before the node has become active
  have hsame : (st₀.enter i a).deeper.needsUpdate i a.node info.component =
      st₀.needsUpdate i a.node info.component :=
    EngineState.needsUpdate_of_view (show (st₀.enter i a).deeper.stack.view Frame.marks =
      st₀.stack.view Frame.marks from FrameStack.view_modify (fun _ => rfl) fun _ => rfl) rfl i _ _
  have hskip := (hst.needsUpdate_iff hinner hnode).2 ⟨k, hlive, hreaches, hcovers⟩
  rw [hsame, hneeds] at hskip
  exact nomatch hskip

/-- A node is left as it is because of a live mark. -/
theorem Moment.Due.exists_covers (hdue : m.Due scene paired) (hst : m.state.MarkedBy h) {i : Nat}
    {node : NodeId} (hstep : m.step = .skipped i node) : ∃ k : Marking, k.Live h ∧
      k.extent.Reaches m.state.stack i ∧ k.Covers scene.tables.executable node := by
  obtain ⟨st, calls, _⟩ := m
  obtain rfl : _ = Step.skipped i node := hstep
  obtain ⟨hinner, info, hnode, hneeds⟩ := hdue
  exact (hst.needsUpdate_iff hinner hnode).1 hneeds

namespace Session.Warrants

variable {s s' : Session History} {tables : Tables} {st st' : EngineState} {ms later earlier : List Moment}

theorem due (h : s.Warrants paired s' tables st ms st') (hsplit : ms.reverse = later ++ m :: earlier) :
    m.Due (s.engine.scene tables) paired :=
  h.warranted.due m (List.mem_reverse.1 (hsplit ▸ by simp))

theorem heeded (h : s.Warrants paired s' tables st ms st')
    (hsplit : ms.reverse = later ++ m :: earlier) :
    m.Heeded (s.engine.scene tables) later.reverse := by
  refine h.warranted.heeded earlier.reverse m _ ?_
  rw [← List.reverse_reverse ms, hsplit]
  simp

/-- After an activation the marks in every state are told of. -/
theorem marked (h : s.Warrants paired s' tables .fresh ms st')
    (hsplit : ms.reverse = later ++ m :: earlier) (hstep : m.step ≠ .changed) :
    m.state.MarkedBy earlier := by
  have hcarries := h.carries .marks (h := []) fun _ => .fresh
  have htells := hcarries.split hsplit hstep
  rw [List.append_nil] at htells
  refine htells fun m' hm' => h.warranted.sited m' (List.mem_reverse.1 ?_)
  rw [hsplit]
  exact List.mem_append_right _ (List.mem_cons_of_mem _ hm')

end Session.Warrants

/-- After an activation, whatever the host calls for: a node is found to need no update on a frame exactly
if a live mark that reaches the frame covers it. So no update is started of a node that such a mark covers,
a node is left as it is only because of one, and every signal that is delivered to a node with a handler for
signals starts that handler at once. -/
theorem marks_suppress_exactly (s : Session History) (tables : Tables)
    (hfresh : s.engine.active = some (tables, .fresh)) (hidle : s.seen.calls = [])
    (calls : List HostCall) (hcalls : ∀ call ∈ calls, call ≠ .terminate) :
    ∃ new, (HostCall.performAll .history calls s).2.seen.moments = new ++ s.seen.moments ∧
      ∀ later m earlier, new = later ++ m :: earlier →
        (m.step ≠ .changed → ∀ i node info, m.state.stack.Inner i →
          tables.executable.node? node = some info →
            (m.state.needsUpdate i node info.component = false ↔ ∃ k : Marking, k.Live earlier ∧
              k.extent.Reaches m.state.stack i ∧ k.Covers tables.executable node)) ∧
        (∀ i a, m.step = .started i a → a.isSignal = false → ∀ k : Marking, k.Live earlier →
          k.extent.Reaches m.state.stack i → ¬ k.Covers tables.executable a.node) ∧
        (∀ i node, m.step = .skipped i node → ∃ k : Marking, k.Live earlier ∧
          k.extent.Reaches m.state.stack i ∧ k.Covers tables.executable node) ∧
        m.Heeded (s.engine.scene tables) later.reverse := by
  obtain ⟨ms, st, h⟩ := HostCall.warrants_activated hfresh hidle calls hcalls
  refine ⟨ms.reverse, congrArg History.moments h.seen, fun later m earlier hsplit => ?_⟩
  have hdue := h.due hsplit
  have hmarked := h.marked hsplit
  refine ⟨fun hstep i node info hinner hnode => ?_, fun i a hstep hpull k hlive hreaches => ?_,
    fun i node hstep => ?_, h.heeded hsplit⟩
  · exact (hmarked hstep).needsUpdate_iff hinner hnode
  · exact hdue.not_covers (hmarked (hstep ▸ nofun)) hstep hpull hlive hreaches
  · exact hdue.exists_covers (hmarked (hstep ▸ nofun)) hstep

/-- A bracket in which a node is updated twice, and an update after it. -/
def repeatedCalls : List HostCall :=
  [.beginCycle, .updateNode "n" none, .updateNode "n" none, .endCycle, .updateNode "n" none]

/-- The second update is left out, because the mark of the first one is still live. -/
theorem marks_suppress_exactly_repeated :
    ∃ later m earlier, (HostCall.performAll .history repeatedCalls rootedSession).2.seen.moments =
        later ++ m :: earlier ∧ m.step = .skipped 2 "n" ∧
      ∃ k : Marking, k.Live earlier ∧ k.extent.Reaches m.state.stack 2 ∧
        k.Covers rootedTables.executable "n" := by
  have hskipped : (HostCall.performAll .history repeatedCalls rootedSession).2.seen.moments.any
      (fun m => match m.step with
        | .skipped i node => i == 2 && node == "n"
        | _ => false) = true := by decide +kernel
  obtain ⟨new, hmoments, hnew⟩ := marks_suppress_exactly rootedSession rootedTables rfl rfl repeatedCalls
    (by simp [repeatedCalls])
  rw [hmoments, show rootedSession.seen.moments = [] from rfl, List.append_nil] at hskipped ⊢
  obtain ⟨m, hm, hstep⟩ := List.any_eq_true.1 hskipped
  obtain ⟨later, earlier, hsplit⟩ := List.append_of_mem hm
  have hstep : m.step = .skipped 2 "n" := by
    split at hstep
    · simp_all
    · exact nomatch hstep
  exact ⟨later, m, earlier, hsplit, hstep, (hnew later m earlier hsplit).2.2.1 2 "n" hstep⟩

end SocketGraph
