import SocketGraph.Proofs.HostInvariant
import SocketGraph.Proofs.Repetition

/-! Frames and the sites they stand for, from the frames of a call of the host up through the scenes that
gateways link. -/
namespace SocketGraph
namespace FrameStack

variable {scene : Scene} {sites sites' : Nat → Site} {s t : FrameStack} {i j : Nat}

/-- A frame stands for its site: whoever answers on the frame answers at the site, and a gateway that
answers is active on a frame further below. -/
inductive Sited (scene : Scene) (sites : Nat → Site) (s : FrameStack) : Nat → Prop
  | intro {i : Nat} (present : i < s.height) (lineage : ∀ j ∈ s.lineage i, sites j = sites i)
      (host : ∀ provider, s.provider? i = provider.map .host → sites i = .host provider)
      (gateway : ∀ b, s.provider? i = some (.gateway b) → b.caller < i ∧ ∃ c a,
        scene.Instance c a ∧ s.active? b.caller = some a ∧
          sites i = .scene a.plain b.pairings (sites b.caller))
      (caller : ∀ b, s.provider? i = some (.gateway b) → Sited scene sites s b.caller) :
      Sited scene sites s i

namespace Sited

theorem present (h : s.Sited scene sites i) : i < s.height := by cases h; assumption

theorem lineage (h : s.Sited scene sites i) : ∀ j ∈ s.lineage i, sites j = sites i := by
  cases h; assumption

theorem host (h : s.Sited scene sites i) (provider : Option Provider)
    (hprovider : s.provider? i = provider.map .host) : sites i = .host provider := by
  cases h with
  | intro _ _ host _ _ => exact host provider hprovider

theorem gateway (h : s.Sited scene sites i) {b : Binding}
    (hprovider : s.provider? i = some (.gateway b)) : b.caller < i ∧ ∃ c a,
      scene.Instance c a ∧ s.active? b.caller = some a ∧
        sites i = .scene a.plain b.pairings (sites b.caller) := by
  cases h with
  | intro _ _ _ gateway _ => exact gateway b hprovider

theorem caller (h : s.Sited scene sites i) {b : Binding}
    (hprovider : s.provider? i = some (.gateway b)) : s.Sited scene sites b.caller := by
  cases h with
  | intro _ _ _ _ caller => exact caller b hprovider

/-- Someone answers on a frame exactly when someone does at its site. -/
theorem provided (h : s.Sited scene sites i) : (s.provider? i).isSome = (sites i).provided := by
  match hprovider : s.provider? i with
  | none =>
    rw [h.host none hprovider]
    rfl
  | some (.host provider) =>
    rw [h.host (some provider) hprovider]
    rfl
  | some (.gateway b) =>
    obtain ⟨-, c, a, -, -, hsite⟩ := h.gateway hprovider
    rw [hsite]
    rfl

/-- The site of a frame is read off the shape of the stack. -/
theorem congr (hst : s.shape = t.shape) (h : s.Sited scene sites i) : t.Sited scene sites i := by
  induction h with
  | @intro i present lineage host gateway _ ih =>
    rw [height_congr hst] at present
    rw [lineage_congr hst] at lineage
    refine .intro present lineage ?_ ?_ ?_
    · intro provider hprovider
      rw [← provider?_congr hst] at hprovider
      exact host provider hprovider
    · intro b hb
      rw [← provider?_congr hst] at hb
      rw [← active?_congr hst]
      exact gateway b hb
    · intro b hb
      rw [← provider?_congr hst] at hb
      exact ih b hb

theorem enter (a : Activation) (h : s.Sited scene sites i) (hij : i ≤ j) :
    (s.enter j a).Sited scene sites i := by
  induction h with
  | @intro i present lineage host gateway _ ih =>
    refine .intro (by rwa [height_enter]) (by rwa [lineage_enter]) ?_ ?_ ?_
    · rwa [provider?_enter]
    · intro b hb
      rw [provider?_enter] at hb
      have hlt := (gateway b hb).1
      rw [active?_enter_of_ne (by omega)]
      exact gateway b hb
    · intro b hb
      rw [provider?_enter] at hb
      exact ih b hb (by have := (gateway b hb).1; omega)

/-- New frames above have sites of their own. -/
theorem push (f : Frame) (hsites : ∀ j < s.height, sites' j = sites j)
    (h : s.Sited scene sites i) : (s.push f).Sited scene sites' i := by
  induction h with
  | @intro i present lineage host gateway _ ih =>
    have hprovider : (s.push f).provider? i = s.provider? i := readThrough_push f _ present
    refine .intro (by rw [height_push]; omega) ?_ ?_ ?_ ?_
    · rw [lineage_push f present, hsites i present]
      intro j hj
      rw [hsites j (by have := le_of_mem_lineage hj; omega)]
      exact lineage j hj
    · rwa [hprovider, hsites i present]
    · intro b hb
      rw [hprovider] at hb
      have hlt := (gateway b hb).1
      rw [active?, frame?_push_of_lt f (by omega), hsites i present, hsites _ (by omega)]
      exact gateway b hb
    · intro b hb
      rw [hprovider] at hb
      exact ih b hb

end Sited
end FrameStack

/-- The sites of frames when new frames stand for a new site. -/
def Site.above (sites : Nat → Site) (height : Nat) (site : Site) : Nat → Site :=
  fun j => if j < height then sites j else site

theorem Site.above_of_lt {sites : Nat → Site} {height : Nat} {site : Site} {j : Nat}
    (h : j < height) : Site.above sites height site j = sites j := if_pos h

theorem Site.above_of_le {sites : Nat → Site} {height : Nat} {site : Site} {j : Nat}
    (h : height ≤ j) : Site.above sites height site j = site := if_neg (by omega)

namespace FrameStack

/-- The stack with the two frames of a scope on top. -/
def opened (s : FrameStack) (outer inner : Frame) : FrameStack := (s.push outer).push inner

theorem height_opened (s : FrameStack) (outer inner : Frame) :
    (s.opened outer inner).height = s.height + 2 := by rw [opened, height_push, height_push]

theorem pop_opened (s : FrameStack) (outer inner : Frame) : (s.opened outer inner).pop.pop = s := by
  rw [opened, pop_push, pop_push]

theorem frame?_opened_of_lt {s : FrameStack} {j : Nat} (outer inner : Frame) (hj : j < s.height) :
    (s.opened outer inner).frame? j = s.frame? j := by
  rw [opened, frame?_push_of_lt _ (by rw [height_push]; omega), frame?_push_of_lt _ hj]

theorem shape_opened_congr {s t : FrameStack} (h : s.shape = t.shape) (outer inner : Frame) :
    (s.opened outer inner).shape = (t.opened outer inner).shape :=
  shape_push_congr (shape_push_congr h rfl) rfl

/-- Who answers inside a scope: the inner frame, or the outer one, or whoever answers below. -/
theorem provider?_opened (s : FrameStack) (outer inner : Frame) (hinner : inner.permeable = true) :
    (s.opened outer inner).provider? (s.height + 1) =
      inner.provider.or (outer.provider.or (if outer.permeable then s.provider? s.top else none)) := by
  rw [opened, ← height_push s outer, provider?, readThrough_push_height, if_pos hinner, top_push,
    readThrough_push_height]
  rfl

end FrameStack

namespace FrameStack.Sited

variable {scene : Scene} {sites : Nat → Site} {s : FrameStack} {i : Nat}

/-- The frames of a linked scene stand for the scene that the gateway opens. -/
theorem linked {c : Component} {a : Activation} (p : Pairings) (h : s.Sited scene sites i)
    (hmade : scene.Instance c a) (hactive : s.active? i = some a) :
    (s.opened (.fresh false (some (.gateway ⟨i, p⟩))) (.fresh true none)).Sited scene
      (Site.above sites s.height (.scene a.plain p (sites i))) (s.height + 1) := by
  have hi := h.present
  have hheight := s.height_opened (.fresh false (some (.gateway ⟨i, p⟩))) (.fresh true none)
  have hprovider := s.provider?_opened (.fresh false (some (.gateway ⟨i, p⟩))) (.fresh true none) rfl
  have hgateway {b : Binding} (hb : (s.opened (.fresh false (some (.gateway ⟨i, p⟩)))
      (.fresh true none)).provider? (s.height + 1) = some (.gateway b)) : b = ⟨i, p⟩ := by
    rw [hprovider] at hb
    exact FrameProvider.gateway.inj (Option.some.inj hb).symm
  refine .intro (by omega) (fun j hj => ?_) ?_ ?_ ?_
  · -- a walk from the inner frame ends at the outer one
    obtain ⟨-, -, hpermeable⟩ := mem_lineage.1 hj
    have hj : s.height ≤ j := by
      by_contra hlt
      have houter := hpermeable s.height (by omega) (by omega)
      rw [opened, isPermeable_push, if_neg (by rw [height_push]; omega), isPermeable_push,
        if_pos rfl] at houter
      exact nomatch houter
    rw [Site.above_of_le hj, Site.above_of_le (by omega)]
  · intro provider hhost
    rw [hprovider] at hhost
    cases provider <;> exact nomatch hhost
  · intro b hb
    obtain rfl := hgateway hb
    refine ⟨Nat.lt_succ_of_lt hi, c, a, hmade, ?_, ?_⟩
    · rw [active?, frame?_opened_of_lt _ _ hi]
      exact hactive
    · rw [Site.above_of_le (by omega), Site.above_of_lt hi]
  · intro b hb
    obtain rfl := hgateway hb
    exact (h.push _ fun j hj => Site.above_of_lt hj).push _ fun j _ => rfl

/-- The frames of a call of the host stand for what its provider answers. -/
theorem hosted (scene : Scene) (provider : Option Provider) (h : s.Bracketed) :
    (s.opened (.fresh true none) (.fresh true (provider.map .host))).Sited scene
      (fun _ => .host provider) (s.height + 1) := by
  have hprovider : (s.opened (.fresh true none) (.fresh true (provider.map .host))).provider?
      (s.height + 1) = provider.map .host := by
    rw [provider?_opened s _ _ rfl, h.provider?]
    cases provider <;> rfl
  refine .intro (by rw [height_opened]; omega) (fun _ _ => rfl) ?_ ?_ ?_
  · intro provider' hhost
    rw [hprovider] at hhost
    cases provider <;> cases provider' <;> simp_all
  · intro b hb
    rw [hprovider] at hb
    cases provider <;> exact nomatch hb
  · intro b hb
    rw [hprovider] at hb
    cases provider <;> exact nomatch hb

end FrameStack.Sited

end SocketGraph
