import Mathlib.Data.List.Chain
import SocketGraph.Proofs.Views

/-! Unbroken histories. A frame that stays open from one moment to another has the same frames below it all
the time; and what is written is written on frames that share their contents with no frame above. -/
namespace SocketGraph

/-- Two moments, one next to the other, agree on the frames that are open in both of them. -/
def Moment.Joins (m m' : Moment) : Prop :=
  ∀ p ≤ m.state.stack.height, p ≤ m'.state.stack.height →
    m.state.stack.outline.take p = m'.state.stack.outline.take p

/-- A history that has led to a state by moments that join. -/
structure EngineState.Joined (h : List Moment) (st : EngineState) : Prop where
  latest : ∀ m ∈ h.head?, m.state.stack.outline = st.stack.outline
  chain : h.IsChain Moment.Joins

namespace EngineState.Joined

variable {h : List Moment} {st st' : EngineState}

theorem nil (st : EngineState) : st.Joined [] := ⟨nofun, .nil⟩

/-- A history goes on with a moment that agrees with the state before. -/
theorem cons (hst : st.Joined h) {m : Moment} (hm : m.state.stack.outline = st'.stack.outline)
    (hjoin : ∀ p ≤ st'.stack.height, p ≤ st.stack.height →
      st'.stack.outline.take p = st.stack.outline.take p) : st'.Joined (m :: h) := by
  refine ⟨by rintro _ ⟨⟩; exact hm, ?_⟩
  cases h with
  | nil => exact .singleton m
  | cons m' earlier =>
    have hlatest := hst.latest m' rfl
    refine .cons_cons (fun p hp hp' => ?_) hst.chain
    rw [hm, hlatest]
    exact hjoin p (FrameStack.height_of_outline hm ▸ hp) (FrameStack.height_of_outline hlatest ▸ hp')

theorem same (hst : st.Joined h) (calls : CallStack) {s : Step}
    (houtline : st'.stack.outline = st.stack.outline) : st'.Joined (⟨st', calls, s⟩ :: h) :=
  hst.cons rfl fun _ _ _ => by rw [houtline]

theorem push (hst : st.Joined h) (calls : CallStack) (f : Frame) :
    (st.push f).Joined (.change calls (st.push f) :: h) := by
  refine hst.cons rfl fun p _ hp => ?_
  have houtline : (st.push f).stack.outline = st.stack.outline ++ [f.permeable] := by
    simp [EngineState.push, FrameStack.push, FrameStack.outline]
  rw [houtline, List.take_append_of_le_length]
  simpa [FrameStack.outline, FrameStack.height] using hp

theorem pop (hst : st.Joined h) (calls : CallStack) :
    st.closeFrame.Joined (.change calls st.closeFrame :: h) := by
  refine hst.cons rfl fun p hp _ => ?_
  have houtline : st.closeFrame.stack.outline = st.stack.outline.dropLast := by
    simp [closeFrame, FrameStack.pop, FrameStack.outline, List.map_dropLast]
  have hp' : p ≤ st.stack.outline.length - 1 := by
    simpa [FrameStack.outline, FrameStack.height, closeFrame, FrameStack.pop] using hp
  rw [houtline, List.dropLast_eq_take, List.take_take, Nat.min_eq_left hp']

end EngineState.Joined

/-- As long as some frames have all been open, nothing about which of them let walks go on has changed. -/
theorem Moment.outline_take {between before : List Moment} {m m' : Moment} {p : Nat}
    (hchain : (m' :: between ++ m :: before).IsChain Joins)
    (hopen : ∀ m'' ∈ m' :: between ++ [m], p ≤ m''.state.stack.height) :
    m'.state.stack.outline.take p = m.state.stack.outline.take p := by
  induction between generalizing m' with
  | nil =>
    obtain ⟨hjoins, -⟩ := List.isChain_cons_cons.1 hchain
    exact hjoins p (hopen m' (by simp)) (hopen m (by simp))
  | cons m'' between ih =>
    obtain ⟨hjoins, hrest⟩ := List.isChain_cons_cons.1 hchain
    obtain ⟨hm', hopen⟩ := List.forall_mem_cons.1 hopen
    exact (hjoins p hm' (hopen m'' (by simp))).trans (ih hrest hopen)

/-- A history tells which frames have stayed as they are. -/
def Chronicle.joints : Chronicle where
  tells h st := st.Joined h
  noted calls _ _ ht := ht.same calls rfl
  moved calls hmove ht := by
    rcases hmove.view (g := fun _ => ()) (fun _ _ => rfl) (fun _ => rfl) (fun _ _ _ => rfl) with
      ⟨hview, -⟩ | ⟨permeable, provider, rfl⟩ | rfl
    · exact ht.same calls (FrameStack.outline_of_view hview)
    · exact ht.push calls _
    · exact ht.pop calls
  wrote calls calls' i a script ht :=
    (ht.same (s := .performed i a script) calls rfl).same calls' (script.outline_effect i a _)
  idle calls _ _ _ _ ht := ht.same calls rfl

namespace FrameStack

variable {s t : FrameStack} {i p : Nat}

theorem isPermeable_of_take (h : s.outline.take p = t.outline.take p) (hi : i < p) :
    s.isPermeable i = t.isPermeable i := by
  have hgetElem := congrArg (fun w => w[i]?) h
  simp only [List.getElem?_take_of_lt hi, outline, List.getElem?_map] at hgetElem
  unfold isPermeable frame?
  cases hs : s.frames[i]? <;> cases ht : t.frames[i]? <;> simp_all

/-- The root of a frame is a matter of the frames below. -/
theorem root_of_take (h : s.outline.take p = t.outline.take p) (hi : i < p) (hs : p ≤ s.height)
    (ht : p ≤ t.height) : s.root i = t.root i := by
  have hdescend : s.descend i = t.descend i :=
    descend_congr fun k hk => isPermeable_of_take h (by omega)
  rw [root, root, lineage, lineage, if_pos (by omega), if_pos (by omega), hdescend]

end FrameStack

/-! What every change and every operation obeys, told of the moments since an activation. -/

/-- What is written is written on a frame that no permeable frame stands on. -/
def Moment.Apart (m : Moment) : Prop :=
  ∀ i a script, m.step = .performed i a script →
    i < m.state.stack.height ∧ m.state.stack.isPermeable (i + 1) = false

namespace Law

variable {registry : Registry} (L : Law registry)

/-- What has been added to an old history obeys a law, and so do the handlers at work. -/
structure ObeyedSince (old : List Moment) (calls : CallStack) (h : History) : Prop where
  calls : h.calls = calls
  moments : ∃ new, h.moments = new ++ old ∧ ∀ m ∈ new, L.moment m

variable {L} in
theorem ObeyedSince.step {old : List Moment} {calls : CallStack} {h : History}
    (hh : L.ObeyedSince old calls h) {st : EngineState} {s : Step} (hm : L.moment ⟨st, calls, s⟩) :
    L.ObeyedSince old (calls.after st.stack.height s) (Watcher.history.step st s h) := by
  obtain ⟨rfl, new, hmoments, hnew⟩ := hh
  exact ⟨rfl, ⟨st, h.calls, s⟩ :: new, congrArg (List.cons _) hmoments,
    List.forall_mem_cons.2 ⟨hm, hnew⟩⟩

/-- A law is kept by what is added to a history. -/
def keepSince (limits : Limits) (old : List Moment) : HostInvariant registry limits .history where
  seen h := L.ObeyedSince old [] h
  of _ :=
    { pairs := L.pairs
      kept := fun calls st h => L.state st ∧ L.ObeyedSince old calls h
      links := L.links
      transition := fun ht h =>
        ⟨L.transition ht h.1, h.2.step (L.changed (L.transition ht h.1))⟩
      event := fun _ h => h
      step := fun hs h => ⟨h.1, h.2.step (L.step h.1 hs)⟩ }
  event _ h := h
  fresh h := ⟨L.fresh, h⟩
  seen_of_kept h := h.2

/-- Every moment since an activation obeys the law. -/
theorem of_since {s : Session History} (hregistry : s.engine.registry = registry) {tables : Tables}
    (hfresh : s.engine.active = some (tables, .fresh)) (hidle : s.seen.calls = [])
    (calls : List HostCall) {new : List Moment}
    (hnew : (HostCall.performAll .history calls s).2.seen.moments = new ++ s.seen.moments) :
    ∀ m ∈ new, L.moment m := by
  have hholds : (L.keepSince s.engine.limits s.seen.moments).Holds s := by
    have hseen : L.ObeyedSince s.seen.moments [] s.seen := ⟨hidle, [], rfl, nofun⟩
    refine ⟨hregistry, rfl, hseen, fun hactive => ?_⟩
    obtain ⟨rfl, rfl⟩ := Prod.mk.inj (Option.some.inj (hfresh.symm.trans hactive))
    exact ⟨⟨L.fresh, hseen⟩, .empty, rfl⟩
  obtain ⟨new', hnew', hmoments⟩ := (hholds.performAll calls).seen.moments
  obtain rfl : new = new' := List.append_cancel_right (hnew.symm.trans hnew')
  exact hmoments

/-- That operations are performed apart is a law of all sessions. -/
def apartness (registry : Registry) : Law registry where
  pairs _ _ := True
  state _ := True
  moment := Moment.Apart
  links _ := .unconditional _ _
  fresh := trivial
  transition _ _ := trivial
  changed _ := nofun
  step _ hs := by
    cases hs with
    | performed script ready shows made =>
      rintro _ _ _ ⟨⟩
      exact ⟨ready.present, ready.apart⟩
    | _ => exact nofun

end Law
end SocketGraph
