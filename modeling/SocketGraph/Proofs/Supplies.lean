import SocketGraph.Proofs.FanIn
import SocketGraph.Proofs.Shadowing
import SocketGraph.Proofs.Upkeep

/-! What a gateway has at hand. One that is asked for a socket answers with the input that is kept for it, or, if
nothing feeds the socket, with its attribute. No node is evaluated for it then, and all that it does is to keep the
attribute as its input. -/
namespace SocketGraph
namespace FrameStack

variable {s t : FrameStack} {i : Nat}

theorem lineage_of_frame?_eq (h : ∀ k ≤ i, s.frame? k = t.frame? k) : s.lineage i = t.lineage i := by
  have hpresent : i < s.height ↔ i < t.height := by
    rw [← frame?_isSome_iff, ← frame?_isSome_iff, h i (Nat.le_refl i)]
  have hdescend : s.descend i = t.descend i :=
    descend_congr fun k hk => by rw [isPermeable, isPermeable, h k hk]
  simp only [lineage, hpresent, hdescend]

/-- A read comes to no frame above the one that it begins on. -/
theorem readThrough_of_frame?_eq {α : Type} {read : Frame → Option α} (h : ∀ k ≤ i, s.frame? k = t.frame? k) :
    s.readThrough i read = t.readThrough i read := by
  refine (readThrough_congr (lineage_of_frame?_eq h).symm fun k hk => ?_).symm
  rw [h k (le_of_mem_lineage hk)]

/-- What the node that is active on a frame has for a socket of its own: the input that is kept, or else its
attribute. -/
def supply? (s : FrameStack) (i : Nat) (own : String) : Option Value :=
  (s.active? i).bind fun a => (s.input? i ⟨a.node, own⟩).or (a.attributes.get? own)

theorem supply?_of_active? {a : Activation} (ha : s.active? i = some a) (own : String) :
    s.supply? i own = (s.input? i ⟨a.node, own⟩).or (a.attributes.get? own) := by
  rw [supply?, ha]
  rfl

end FrameStack

namespace Scene

variable {scene : Scene} {s t : FrameStack} {i j : Nat} {own own' : String} {v : Option Value} {w : Value}

/-- Whether a gateway that is active on a frame has what it is asked for: its input is kept already, or nothing
feeds it. -/
def Supplied (scene : Scene) (s : FrameStack) (i : Nat) (own : String) : Prop :=
  ∃ a, s.active? i = some a ∧ ((s.input? i ⟨a.node, own⟩).isSome = true ∨
    a.sockets = [] ∧ scene.tables.executable.producers a.node own = [])

/-- What a gateway owes for a socket. -/
def Owes (scene : Scene) (s : FrameStack) (i : Nat) (own : String) (v : Option Value) : Prop :=
  scene.Supplied s i own ∧ s.supply? i own = v

/-- What a gateway owes depends on what is seen from its frame alone. -/
theorem Owes.of_reads (hactive : s.active? i = t.active? i)
    (hinput : ∀ a, s.active? i = some a → s.input? i ⟨a.node, own⟩ = t.input? i ⟨a.node, own⟩)
    (h : scene.Owes s i own v) : scene.Owes t i own v := by
  obtain ⟨⟨a, ha, hsupplied⟩, hv⟩ := h
  have ha' := hactive.symm.trans ha
  rw [hinput a ha] at hsupplied
  refine ⟨⟨a, ha', hsupplied⟩, ?_⟩
  rw [FrameStack.supply?_of_active? ha', ← hinput a ha, ← FrameStack.supply?_of_active? ha, hv]

theorem Owes.congr (h : ∀ k ≤ i, s.frame? k = t.frame? k) (hs : scene.Owes s i own v) : scene.Owes t i own v := by
  refine hs.of_reads ?_ fun a _ => FrameStack.readThrough_of_frame?_eq h
  rw [FrameStack.active?, FrameStack.active?, h i (Nat.le_refl i)]

/-- A gateway that keeps its attribute as its input owes what it has owed, and so do those on frames that share
nothing with its own. -/
theorem Owes.putInput {a : Activation} (ha : s.active? j = some a) (hw : s.supply? j own' = some w)
    (hapart : i ≠ j → ∀ k ∈ s.lineage i, k ∉ s.lineage j) (h : scene.Owes s i own v) :
    scene.Owes (s.putInput j ⟨a.node, own'⟩ w) i own v := by
  have hj := FrameStack.lt_height_of_active? ha
  have hputs := (FrameStack.puts_keep hj .input ⟨a.node, own'⟩ w).input
  have hactive (k : Nat) : s.active? k = (s.putInput j ⟨a.node, own'⟩ w).active? k :=
    FrameStack.active?_congr (FrameStack.shape_putInput ..).symm k
  obtain ⟨⟨b, hb, hsupplied⟩, hv⟩ := h
  have hi := FrameStack.lt_height_of_active? hb
  rcases eq_or_ne i j with rfl | hne
  · obtain rfl : a = b := Option.some.inj (ha.symm.trans hb)
    by_cases hown : own = own'
    · subst hown
      have hkept : (s.putInput i ⟨a.node, own⟩ w).input? i ⟨a.node, own⟩ = some w :=
        (hputs i _).trans (if_pos ⟨rfl, rfl, FrameStack.sees_self⟩)
      refine ⟨⟨a, (hactive i).symm.trans ha, .inl (by rw [hkept]; rfl)⟩, ?_⟩
      rw [FrameStack.supply?_of_active? ((hactive i).symm.trans ha), hkept, ← hv, hw]
      rfl
    · refine Owes.of_reads (hactive i) (fun a' ha' => ?_) ⟨⟨a, hb, hsupplied⟩, hv⟩
      refine ((hputs i _).trans (if_neg ?_)).symm
      rintro ⟨-, hl, -⟩
      exact hown (congrArg Link.socket hl)
  · refine Owes.of_reads (hactive i) (fun a' ha' => ?_) ⟨⟨b, hb, hsupplied⟩, hv⟩
    refine ((hputs i _).trans (if_neg ?_)).symm
    rintro ⟨-, -, hroot, -⟩
    have hshared : s.root i ∈ s.lineage j := hroot ▸ FrameStack.root_mem_lineage hj
    exact hapart hne _ (FrameStack.root_mem_lineage hi) hshared

end Scene

/-- A gateway that is asked for what it owes answers at once, and keeps what it has answered. -/
theorem fetchWith_of_owes {ω : Type} {scene : Scene} (watch : Watcher ω) (below : Calls ω) (lookup : Lookup ω)
    {r : Run ω} {i : Nat} {own : String} {v : Option Value} (h : scene.Owes r.state.stack i own v) :
    ∃ a, r.state.stack.active? i = some a ∧ (fetchWith scene watch below lookup i own r = (.ok v, r) ∨
      fetchWith scene watch below lookup i own r = (.ok v, r.keepInput watch i ⟨a.node, own⟩ (.ok v))) := by
  obtain ⟨⟨a, ha, hsupplied⟩, hv⟩ := h
  refine ⟨a, ha, ?_⟩
  rw [FrameStack.supply?_of_active? ha] at hv
  rw [fetchWith, Action.readStack_bind_apply, ha]
  dsimp only
  rw [inputOf, Action.readStack_bind_apply]
  cases hinput : r.state.stack.input? i ⟨a.node, own⟩ with
  | some w =>
    rw [hinput] at hv
    subst hv
    exact .inl rfl
  | none =>
    rw [hinput] at hsupplied hv
    obtain ⟨hsockets, hproducers⟩ := hsupplied.resolve_left Bool.false_ne_true
    have hundeclared (socket : String) : declared? [] socket = none := rfl
    have hresolve : resolveInput scene below lookup i a own r = (.ok v, r) := by
      rw [resolveInput, hproducers]
      dsimp only
      rw [Action.readStack_bind_apply, hsockets, hundeclared, if_neg (by simp), ownValue?, hsockets, hundeclared,
        ← hv]
      simp
      rfl
    dsimp only
    rw [Action.bind_apply, hresolve]
    refine .inr ?_
    cases v <;> rfl

end SocketGraph
