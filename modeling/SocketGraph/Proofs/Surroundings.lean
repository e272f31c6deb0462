import SocketGraph.Proofs.Gateways
import SocketGraph.Proofs.Shadowing

/-! The surroundings of a frame: the linked scenes that it is in, from the innermost to the outermost, and the
host outside of them all. During a call the provider of the host stands right above the frames that were open
before, and scenes are linked from that frame and from frames above it alone. So whoever is asked on a frame,
the question goes from scene to scene until a gateway pairs the socket or the host is reached. -/
namespace SocketGraph

/-- How the frame at a height stands during a call: the one right above the outer frame of the call carries the
provider of the host; any other one carries nothing, or it is bound to a gateway further below. -/
def Frame.Stands (base : Nat) (host : Option Provider) (i : Nat) (f : Frame) : Prop :=
  if i = base + 1 then f.permeable = true ∧ f.provider = host.map .host
  else f.permeable = true ∧ f.provider = none ∨
    f.permeable = false ∧ ∃ b, f.provider = some (.gateway b) ∧ b.caller < i

namespace FrameStack

variable {base i j : Nat} {host : Option Provider} {s t : FrameStack} {b : Binding}

/-- The binding of the linked scene that a frame belongs to, which the root of the frame carries. -/
def binding? (s : FrameStack) (i : Nat) : Option Binding :=
  match (s.frame? (s.root i)).bind Frame.provider with
  | some (.gateway b) => some b
  | _ => none

/-- The bindings of the linked scenes around a frame, the innermost first, each with the frame that it is met
on: the frame of a gateway belongs to the next scene. -/
def enclosing (s : FrameStack) (i : Nat) : List (Nat × Binding) :=
  match s.binding? i with
  | none => []
  | some b => (i, b) :: if b.caller < i then s.enclosing b.caller else []
termination_by i

theorem binding?_eq_some_iff : s.binding? i = some b ↔
    ∃ f, s.frame? (s.root i) = some f ∧ f.provider = some (.gateway b) := by
  unfold binding?
  rcases hf : s.frame? (s.root i) with _ | f
  · simp
  · rcases hp : f.provider with _ | p | b' <;> simp [hp]

theorem isPermeable_of_frame? {f : Frame} (hf : s.frame? i = some f) (h : f.permeable = true) :
    s.isPermeable i = true := by
  rw [isPermeable, hf]
  exact h

/-- A frame that lets walks on belongs to the same scene as the frame below it. -/
theorem binding?_succ (hi : i + 1 < s.height) (h : s.isPermeable (i + 1) = true) :
    s.binding? (i + 1) = s.binding? i := by
  rw [binding?, root_succ hi, if_pos h, binding?]

/-- The frames during a call whose outer frame is at some height. -/
def Staffed (base : Nat) (host : Option Provider) (s : FrameStack) : Prop :=
  ∀ i f, s.frame? i = some f → f.Stands base host i

/-- The frames up to the inner one of a call share their contents, and gateways work on frames above the outer
one alone. -/
structure Grounded (base : Nat) (s : FrameStack) : Prop where
  shared : ∀ j, 0 < j → j ≤ base + 1 → j < s.height → s.isPermeable j = true
  caller : ∀ j f b, s.frame? j = some f → f.provider = some (.gateway b) → base < b.caller

namespace Staffed

theorem exists_frame? (hs : s.Staffed base host) (hi : i < s.height) :
    ∃ f, s.frame? i = some f ∧ f.Stands base host i := by
  obtain ⟨f, hf⟩ := FrameStack.exists_frame? hi
  exact ⟨f, hf, hs i f hf⟩

theorem congr (h : s.fittings = t.fittings) (hs : s.Staffed base host) : t.Staffed base host := by
  intro i f hf
  obtain ⟨g, hg, hprovider, hpermeable⟩ := frame?_of_fittings h hf
  have hstands := hs i g hg
  unfold Frame.Stands at hstands ⊢
  rwa [hprovider, hpermeable] at hstands

theorem bound (hs : s.Staffed base host) : s.Bound := by
  intro i f b hf hb
  have hstands := hs i f hf
  unfold Frame.Stands at hstands
  split_ifs at hstands
  · rw [hb] at hstands
    cases host <;> exact nomatch hstands.2
  · rcases hstands with ⟨-, hnone⟩ | ⟨hclosed, b', hb', hlt⟩
    · exact nomatch hb.symm.trans hnone
    · obtain ⟨⟩ := hb.symm.trans hb'
      exact ⟨hlt, hclosed⟩

theorem push {f : Frame} (hs : s.Staffed base host) (hf : f.Stands base host s.height) :
    (s.push f).Staffed base host := by
  intro i g hg
  rcases frame?_push_cases hg with ⟨-, hg⟩ | ⟨rfl, rfl⟩
  · exact hs i g hg
  · exact hf

theorem push_open (hs : s.Staffed base host) (h : s.height ≠ base + 1) :
    (s.push (.fresh true none)).Staffed base host := by
  refine hs.push ?_
  rw [Frame.Stands, if_neg h]
  exact .inl ⟨rfl, rfl⟩

theorem push_host (hs : s.Staffed base host) (h : s.height = base + 1) :
    (s.push (.fresh true (host.map .host))).Staffed base host := by
  refine hs.push ?_
  rw [Frame.Stands, if_pos h]
  exact ⟨rfl, rfl⟩

theorem push_gateway (hs : s.Staffed base host) (h : s.height ≠ base + 1) (hb : b.caller < s.height) :
    (s.push (.fresh false (some (.gateway b)))).Staffed base host := by
  refine hs.push ?_
  rw [Frame.Stands, if_neg h]
  exact .inr ⟨rfl, b, rfl, hb⟩

theorem pop (hs : s.Staffed base host) : s.pop.Staffed base host := by
  intro i f hf
  rw [frame?_pop] at hf
  split_ifs at hf
  exact hs i f hf

theorem of_bracketed (hs : s.Bracketed) (h : s.height ≤ base + 1) : s.Staffed base host := by
  intro i f hf
  have hi := lt_height_of_frame? hf
  have hshape : f.shape = .bracket := hs.frame? hf
  rw [Frame.Stands, if_neg (by omega)]
  exact .inl ⟨congrArg Frame.Shape.permeable hshape, congrArg Frame.Shape.provider hshape⟩

end Staffed

namespace Grounded

theorem congr (h : s.fittings = t.fittings) (hs : s.Grounded base) : t.Grounded base := by
  refine ⟨fun j hj hj' hlt => ?_, fun j f b hf hb => ?_⟩
  · rw [← isPermeable_of_outline (outline_of_view h)]
    exact hs.shared j hj hj' (height_of_view h ▸ hlt)
  · obtain ⟨g, hg, hprovider, -⟩ := frame?_of_fittings h hf
    exact hs.caller j g b hg (hprovider.trans hb)

theorem push {f : Frame} (hs : s.Grounded base) (hopen : f.permeable = true ∨ base + 1 < s.height)
    (hf : ∀ b, f.provider = some (.gateway b) → base < b.caller) : (s.push f).Grounded base := by
  refine ⟨fun j hj hj' hlt => ?_, fun j g b hg hb => ?_⟩
  · rw [height_push] at hlt
    rw [isPermeable_push]
    split_ifs with htop
    · exact hopen.resolve_right (by omega)
    · exact hs.shared j hj hj' (by omega)
  · rcases frame?_push_cases hg with ⟨-, hg⟩ | ⟨-, rfl⟩
    · exact hs.caller j g b hg hb
    · exact hf b hb

theorem push_open (hs : s.Grounded base) : (s.push (.fresh true none)).Grounded base :=
  hs.push (.inl rfl) nofun

theorem push_host (hs : s.Grounded base) (host : Option Provider) :
    (s.push (.fresh true (host.map .host))).Grounded base := by
  refine hs.push (.inl rfl) fun b hb => ?_
  cases host <;> exact nomatch hb

theorem push_gateway (hs : s.Grounded base) (h : base + 1 < s.height) (hb : base < b.caller) :
    (s.push (.fresh false (some (.gateway b)))).Grounded base := by
  refine hs.push (.inr h) ?_
  rintro _ ⟨⟩
  exact hb

theorem pop (hs : s.Grounded base) : s.pop.Grounded base := by
  refine ⟨fun j hj hj' hlt => ?_, fun j f b hf hb => ?_⟩
  · rw [height_pop] at hlt
    have hopen := hs.shared j hj hj' (by omega)
    rw [isPermeable] at hopen ⊢
    rwa [frame?_pop, if_pos (by omega)]
  · rw [frame?_pop] at hf
    split_ifs at hf
    exact hs.caller j f b hf hb

theorem of_bracketed (hs : s.Bracketed) : s.Grounded base := by
  refine ⟨fun j _ _ hlt => ?_, fun j f b hf hb => ?_⟩
  · obtain ⟨f, hf⟩ := exists_frame? hlt
    exact isPermeable_of_frame? hf (congrArg Frame.Shape.permeable (hs.frame? hf))
  · exact nomatch hb.symm.trans (congrArg Frame.Shape.provider (hs.frame? hf))

/-- A frame that no permeable one stands on is one of the call. -/
theorem lt_of_apart (hs : s.Grounded base) (hheight : base + 1 < s.height)
    (hapart : s.isPermeable (i + 1) = false) : base < i := by
  by_contra hle
  have hopen := hs.shared (i + 1) (Nat.succ_pos i) (by omega) (by omega)
  exact nomatch hapart.symm.trans hopen

end Grounded

section
variable (hstaffed : s.Staffed base host) (hgrounded : s.Grounded base)
include hstaffed hgrounded

/-- The gateway of the scene that a frame belongs to works further below, on a frame of the call. -/
theorem caller_of_binding? (hi : i < s.height) (hb : s.binding? i = some b) :
    base < b.caller ∧ b.caller < i := by
  obtain ⟨f, hf, hprovider⟩ := binding?_eq_some_iff.1 hb
  have hlower : b.caller < s.root i := (hstaffed.bound _ f b hf hprovider).1
  exact ⟨hgrounded.caller _ f b hf hprovider,
    Nat.lt_of_lt_of_le hlower (root_le hi)⟩

/-- Whoever answers on a frame is the gateway of the scene that the frame belongs to; outside of all scenes it
is the host on the frames of the call, and nobody below them. -/
theorem provider?_of_binding? (hi : i < s.height) : s.provider? i =
    match s.binding? i with
    | some b => some (.gateway b)
    | none => if base < i then host.map .host else none := by
  induction i with
  | zero =>
    obtain ⟨f, hf, hstands⟩ := hstaffed.exists_frame? hi
    rw [Frame.Stands, if_neg (Nat.succ_ne_zero base).symm] at hstands
    rcases hstands with ⟨-, hnone⟩ | ⟨-, b, -, hlt⟩
    · rw [provider?, readThrough_zero, binding?, root_zero, hf, if_neg (Nat.not_lt_zero base)]
      simp [hnone]
    · exact absurd hlt (Nat.not_lt_zero _)
  | succ i ih =>
    obtain ⟨f, hf, hstands⟩ := hstaffed.exists_frame? hi
    have hi' : i < s.height := Nat.lt_of_succ_lt hi
    have hlower : s.readThrough i Frame.provider = _ := ih hi'
    rw [provider?, readThrough_succ _ hi, hf, Option.bind_some]
    unfold Frame.Stands at hstands
    split_ifs at hstands with hcall
    · obtain ⟨hpermeable, hprovider⟩ := hstands
      obtain rfl : i = base := by omega
      have hopen := isPermeable_of_frame? hf hpermeable
      -- no gateway works below the frames of the call, so the outer frame belongs to no scene
      have hnone : s.binding? i = none := by
        by_contra hsome
        obtain ⟨b, hb⟩ := Option.ne_none_iff_exists'.1 hsome
        have hcaller := caller_of_binding? hstaffed hgrounded hi' hb
        omega
      simp only [hnone, Nat.lt_irrefl, if_false] at hlower
      rw [hprovider, binding?_succ hi hopen, hnone, hlower, ite_self, Option.or_none]
      simp
    · rcases hstands with ⟨hpermeable, hprovider⟩ | ⟨hclosed, b, hprovider, -⟩
      · have hopen := isPermeable_of_frame? hf hpermeable
        have hbase : base < i ↔ base < i + 1 := by omega
        rw [hprovider, if_pos hopen, Option.none_or, binding?_succ hi hopen, hlower]
        simp only [hbase]
      · have hroot : s.root (i + 1) = i + 1 := by
          rw [root_succ hi, if_neg]
          simp [isPermeable, hf, hclosed]
        have hb : s.binding? (i + 1) = some b := binding?_eq_some_iff.2 ⟨f, by rwa [hroot], hprovider⟩
        rw [hb, hprovider]
        rfl

/-- The scenes around a frame are the one that it belongs to and those around the frame of its gateway. -/
theorem enclosing_of_binding? (hi : i < s.height) : s.enclosing i =
    match s.binding? i with
    | some b => (i, b) :: s.enclosing b.caller
    | none => [] := by
  rw [enclosing]
  cases hb : s.binding? i with
  | none => rfl
  | some b => simp only [if_pos (caller_of_binding? hstaffed hgrounded hi hb).2]

end

/-! The gateways around a frame, on any stack whose bindings lead downwards. -/

/-- A gateway is at work on a frame of the scene around, or of one further out. -/
def Around (s : FrameStack) (i j : Nat) : Prop := ∃ x ∈ s.enclosing i, x.2.caller = j

namespace Bound

variable {k : Nat}

theorem caller_lt_root (hs : s.Bound) (hb : s.binding? i = some b) : b.caller < s.root i := by
  obtain ⟨f, hf, hprovider⟩ := binding?_eq_some_iff.1 hb
  exact (hs _ f b hf hprovider).1

/-- A gateway that answers on a frame is the one of the scene that the frame belongs to. -/
theorem binding?_of_provider? (hs : s.Bound) (hb : s.provider? i = some (.gateway b)) : s.binding? i = some b := by
  obtain ⟨j, hj, f, hf, hprovider⟩ := exists_of_readThrough hb
  have hclosed : s.isPermeable j = false := by
    rw [isPermeable, hf]
    exact (hs j f b hf hprovider).2
  -- a frame that ends walks is the root of every walk that comes to it
  have hroot : j = s.root i := by
    obtain ⟨-, -, hpermeable⟩ := mem_lineage.1 (root_mem_lineage (mem_lineage.1 hj).1)
    by_contra hne
    have hlt : s.root i < j := Nat.lt_of_le_of_ne (root_le_of_mem_lineage hj) (Ne.symm hne)
    exact Bool.false_ne_true (hclosed.symm.trans (hpermeable j hlt (le_of_mem_lineage hj)))
  exact binding?_eq_some_iff.2 ⟨f, hroot ▸ hf, hprovider⟩

theorem enclosing_eq (hs : s.Bound) (hi : i < s.height) (hb : s.binding? i = some b) :
    s.enclosing i = (i, b) :: s.enclosing b.caller := by
  have hlt : b.caller < i := Nat.lt_of_lt_of_le (hs.caller_lt_root hb) (root_le hi)
  rw [enclosing, hb]
  simp only [if_pos hlt]

theorem around_iff (hs : s.Bound) (hi : i < s.height) :
    s.Around i j ↔ ∃ b, s.binding? i = some b ∧ (j = b.caller ∨ s.Around b.caller j) := by
  cases hb : s.binding? i with
  | none =>
    have hnone : s.enclosing i = [] := by rw [enclosing, hb]
    simp [Around, hnone]
  | some b =>
    simp only [Around, hs.enclosing_eq hi hb, List.mem_cons, Option.some.injEq, exists_eq_left']
    constructor
    · rintro ⟨x, rfl | hx, rfl⟩
      · exact .inl rfl
      · exact .inr ⟨x, hx, rfl⟩
    · rintro (rfl | ⟨x, hx, rfl⟩)
      · exact ⟨(i, b), .inl rfl, rfl⟩
      · exact ⟨x, .inr hx, rfl⟩

/-- The gateways around a frame are at work below its root. -/
theorem lt_root_of_around (hs : s.Bound) (hi : i < s.height) (hj : s.Around i j) : j < s.root i := by
  induction i using Nat.strong_induction_on with
  | _ i ih =>
    obtain ⟨b, hb, hj⟩ := (hs.around_iff hi).1 hj
    have hcaller := hs.caller_lt_root hb
    rcases hj with rfl | hj
    · exact hcaller
    · have hlt : b.caller < i := Nat.lt_of_lt_of_le hcaller (root_le hi)
      have hlower := ih b.caller hlt (hlt.trans hi) hj
      exact hlower.trans (Nat.lt_of_le_of_lt (root_le (hlt.trans hi)) hcaller)

/-- Whoever is asked around a frame is bound to one of the scenes around. -/
theorem mem_enclosing (hs : s.Bound) (hi : i < s.height) (hj : j = i ∨ s.Around i j) (hb : s.binding? j = some b) :
    (j, b) ∈ s.enclosing i := by
  induction i using Nat.strong_induction_on with
  | _ i ih =>
    rcases hj with rfl | hj
    · rw [hs.enclosing_eq hi hb]
      exact List.mem_cons_self
    · obtain ⟨b', hb', hj⟩ := (hs.around_iff hi).1 hj
      have hlt : b'.caller < i := Nat.lt_of_lt_of_le (hs.caller_lt_root hb') (root_le hi)
      rw [hs.enclosing_eq hi hb']
      exact List.mem_cons_of_mem _ (ih b'.caller hlt (hlt.trans hi) hj)

/-- Of two gateways around a frame the outer one is at work below the root of the inner one. -/
theorem lt_root_of_lt (hs : s.Bound) (hi : i < s.height) (hj : s.Around i j) (hk : s.Around i k) (hlt : j < k) :
    j < s.root k := by
  induction i using Nat.strong_induction_on with
  | _ i ih =>
    obtain ⟨b, hb, hj⟩ := (hs.around_iff hi).1 hj
    obtain ⟨b', hb', hk⟩ := (hs.around_iff hi).1 hk
    obtain rfl : b = b' := Option.some.inj (hb.symm.trans hb')
    have hcaller : b.caller < i := Nat.lt_of_lt_of_le (hs.caller_lt_root hb) (root_le hi)
    have hpresent := hcaller.trans hi
    have hroot := root_le hpresent
    rcases hj with rfl | hj <;> rcases hk with rfl | hk
    · exact absurd hlt (Nat.lt_irrefl _)
    · have := hs.lt_root_of_around hpresent hk
      omega
    · exact hs.lt_root_of_around hpresent hj
    · exact ih b.caller hcaller hpresent hj hk

/-- The gateways around a frame share no frames. -/
theorem lineages_apart (hs : s.Bound) (hi : i < s.height) (hj : s.Around i j) (hk : s.Around i k) (hne : j ≠ k) :
    ∀ m ∈ s.lineage j, m ∉ s.lineage k := by
  intro m hm hm'
  have hmj := le_of_mem_lineage hm
  have hmk := le_of_mem_lineage hm'
  have hrootj := root_le_of_mem_lineage hm
  have hrootk := root_le_of_mem_lineage hm'
  rcases Nat.lt_or_gt_of_ne hne with hlt | hlt
  · have := hs.lt_root_of_lt hi hj hk hlt
    omega
  · have := hs.lt_root_of_lt hi hk hj hlt
    omega

end Bound

end FrameStack

/-- Whatever is done during a call, no frame but one carries the provider of the host. -/
def Upkeep.staffed (scene : Scene) (base : Nat) (host : Option Provider) : Upkeep scene .history where
  keeps r r' := r'.state.stack.fittings = r.state.stack.fittings ∧
    (base + 1 < r.state.stack.height → r.state.stack.Staffed base host →
      Run.Stays (FrameStack.Staffed base host) r r')
  refl r := ⟨rfl, fun _ hr => .refl hr⟩
  trans h h' := by
    refine ⟨h'.1.trans h.1, fun hheight hr => ?_⟩
    have hstays := h.2 hheight hr
    exact hstays.trans (h'.2 (by rwa [FrameStack.height_of_view h.1]) hstays.now)
  height h := FrameStack.height_of_view h.1
  emit r _ := ⟨rfl, fun _ hr => .of_eq hr rfl⟩
  note r s := ⟨rfl, fun _ hr => .note hr s⟩
  count r _ := ⟨rfl, fun _ hr => .of_eq hr rfl⟩
  effect r i a script := by
    have hfittings := script.fittings_effect i a r.state
    exact ⟨hfittings, fun _ hr => .change _ (hr.congr hfittings.symm)⟩
  input := by
    rintro r r' i a socket v ⟨hfittings, hstays⟩ - - -
    have hput : (r'.state.stack.putInput i ⟨a.node, socket⟩ v).fittings = r'.state.stack.fittings :=
      FrameStack.fittings_of_shape (FrameStack.shape_putInput ..)
    refine ⟨hput.trans hfittings, fun hheight hr => ?_⟩
    have hstays := hstays hheight hr
    exact hstays.trans (.change _ (hstays.now.congr hput.symm))
  nested h := ⟨h.1, fun hheight hr => by
    have hstays := h.2 hheight hr
    exact .trans (.change .deeper hr) (.trans hstays (.change .shallower hstays.now))⟩
  active := by
    rintro r r' i a c - ⟨hfittings, hstays⟩
    have hentered : (r.state.enter i a).stack.fittings = r.state.stack.fittings :=
      FrameStack.fittings_enter _ i a
    have hleft : (r'.state.leave i).stack.fittings = r'.state.stack.fittings :=
      FrameStack.fittings_leave _ i
    refine ⟨hleft.trans (hfittings.trans hentered), fun hheight hr => ?_⟩
    have henter : (r.state.enter i a).stack.Staffed base host := hr.congr hentered.symm
    have hstays := hstays ((EngineState.height_enter r.state i a).symm ▸ hheight) henter
    have hleave := hstays.now.congr hleft.symm
    exact .trans (.change (·.enter i a) henter) (.trans hstays (.change (·.leave i) hleave))
  linked := by
    rintro r r' i p hi ⟨hfittings, hstays⟩
    refine ⟨EngineState.view_closeBoth hfittings, fun hheight hr => ?_⟩
    have houter := hr.push_gateway (b := ⟨i, p⟩) (by omega) hi
    have hinner := houter.push_open (by rw [FrameStack.height_push]; omega)
    refine .scope houter hinner (fun _ hs => hs.pop) (hstays ?_ hinner)
    change base + 1 < ((r.state.stack.push _).push _).height
    rw [FrameStack.height_push, FrameStack.height_push]
    omega
  called := by
    rintro r r' ⟨hfittings, hstays⟩
    refine ⟨EngineState.view_closeBoth hfittings, fun hheight hr => ?_⟩
    have houter := hr.push_open (by omega)
    have hinner := houter.push_open (by rw [FrameStack.height_push]; omega)
    refine .scope houter hinner (fun _ hs => hs.pop) (hstays ?_ hinner)
    change base + 1 < ((r.state.stack.push _).push _).height
    rw [FrameStack.height_push, FrameStack.height_push]
    omega

/-- A part of a run that is on the frames of a call. -/
def Role.Above (base : Nat) : Role → Prop
  | .asked => True
  | .delivering i => base < i
  | .working g => base < g.frame

theorem Role.Same.above {role role' : Role} (h : role.Same role') {base : Nat} (hrole : role.Above base) :
    role'.Above base := by
  cases role <;> cases role' <;> simp_all [Same, Role.Above]

/-- A handler is started on a frame that no permeable one stands on. -/
def Moment.StartsApart (m : Moment) : Prop :=
  ∀ i a, m.step = .started i a → m.state.stack.isPermeable (i + 1) = false

namespace Moment

variable {I : FrameStack → Prop} {calls : CallStack} {st st' : EngineState} {outer inner : Frame}
  {ms : List Moment}

/-- What holds of the frames all the time that two more of them are open. -/
theorem forall_scope (houter : I (st.push outer).stack) (hinner : I ((st.push outer).push inner).stack)
    (hms : ∀ m ∈ ms, I m.state.stack) (hend : I st'.stack) (hpop : ∀ s, I s → I s.pop) :
    ∀ m ∈ opening calls st outer inner ++ ms ++ closing calls st', I m.state.stack := by
  refine List.forall_mem_append.2 ⟨List.forall_mem_append.2 ⟨?_, hms⟩, ?_⟩
  · exact List.forall_mem_cons.2 ⟨houter, List.forall_mem_singleton.2 hinner⟩
  · exact List.forall_mem_cons.2 ⟨hpop _ hend, List.forall_mem_singleton.2 (hpop _ (hpop _ hend))⟩

/-- What holds of the frames all the time that a handler works. -/
theorem forall_handled {i : Nat} {a : Activation} (g : Invocation) (outcome : Outcome Unit) (hst : I st.stack)
    (hms : ∀ m ∈ ms, I m.state.stack) (hend : I st'.stack) :
    ∀ m ∈ handled calls st i a ms g st' outcome, I m.state.stack :=
  List.forall_mem_append.2 ⟨List.forall_mem_cons.2 ⟨hst, hms⟩, List.forall_mem_singleton.2 hend⟩

end Moment

/-- During a call gateways work on frames of the call alone. -/
theorem Course.grounded {scene : Scene} {calls : CallStack} {role role' : Role} {st st' : EngineState}
    {ms : List Moment} {base : Nat} (h : Course scene calls role st ms role' st')
    (hst : st.stack.Grounded base) (hheight : base + 1 < st.stack.height) (hrole : role.Above base)
    (hapart : ∀ m ∈ ms, m.StartsApart) : ∀ m ∈ ms, m.state.stack.Grounded base := by
  induction h with
  | rest => exact nofun
  | seq first _ ih ih' =>
    obtain ⟨hfirst, hsecond⟩ := List.forall_mem_append.1 hapart
    refine List.forall_mem_append.2 ⟨ih hst hheight hrole hfirst, ?_⟩
    exact ih' (hst.congr first.fittings.symm) (first.height ▸ hheight) (first.same.above hrole) hsecond
  | skipped | paired | delivered | idle => exact List.forall_mem_singleton.2 hst
  | kept =>
    exact List.forall_mem_singleton.2
      (hst.congr (FrameStack.fittings_of_shape (FrameStack.shape_putInput ..)).symm)
  | declined calls st i a =>
    have hentered : (st.enter i a).stack.Grounded base := hst.congr (FrameStack.fittings_enter _ i a).symm
    exact List.forall_mem_cons.2 ⟨hentered, List.forall_mem_cons.2 ⟨hentered, List.forall_mem_cons.2
      ⟨hentered, List.forall_mem_singleton.2 hst⟩⟩⟩
  | @updated calls st st' i a g ms outcome _ _ work ih =>
    have hentered : (st.enter i a).stack.Grounded base := hst.congr (FrameStack.fittings_enter _ i a).symm
    have hended : st'.stack.Grounded base := hentered.congr work.fittings.symm
    have hleft : (st'.leave i).stack.Grounded base := hended.congr (FrameStack.fittings_leave _ i).symm
    have hentered' : base + 1 < (st.enter i a).stack.height := (st.height_enter i a).symm ▸ hheight
    have hi : base < i := hentered.lt_of_apart hentered'
      (hapart ⟨(st.enter i a).deeper, calls, .started i a⟩ (by simp [Moment.handled]) i a rfl)
    have hwork := ih hentered hentered' hi fun m hm => hapart m (by simp [Moment.handled, hm])
    refine List.forall_mem_append.2 ⟨List.forall_mem_append.2 ⟨?_, ?_⟩, ?_⟩
    · exact List.forall_mem_cons.2 ⟨hentered, List.forall_mem_singleton.2 hentered⟩
    · exact Moment.forall_handled g outcome hentered hwork hended
    · exact List.forall_mem_cons.2 ⟨hended, List.forall_mem_singleton.2 hleft⟩
  | @triggered _ st st' i a g ms outcome _ _ work ih =>
    have hentered : (st.enter i a).stack.Grounded base := hst.congr (FrameStack.fittings_enter _ i a).symm
    have hended : st'.stack.Grounded base := hentered.congr work.fittings.symm
    have hleft : (st'.leave i).stack.Grounded base := hended.congr (FrameStack.fittings_leave _ i).symm
    have hwork := ih hentered ((st.height_enter i a).symm ▸ hheight) hrole fun m hm =>
      hapart m (by simp [Moment.handled, hm])
    refine List.forall_mem_append.2 ⟨List.forall_mem_cons.2 ⟨hentered, ?_⟩, List.forall_mem_singleton.2 hleft⟩
    exact Moment.forall_handled g outcome hentered hwork hended
  | wrote calls g st script =>
    have hwrote := hst.congr (script.fittings_effect g.frame g.activation st).symm
    exact List.forall_mem_cons.2 ⟨hst, List.forall_mem_singleton.2 hwrote⟩
  | inner _ ih => exact ih hst hheight trivial hapart
  | @linked _ g st st' ms p course ih =>
    have houter : (st.stack.push _).Grounded base := hst.push_gateway (b := ⟨g.frame, p⟩) hheight hrole
    have hinner : (st.openScene g.frame p).stack.Grounded base := houter.push_open
    have hheight' : base + 1 < (st.openScene g.frame p).stack.height := by
      rw [EngineState.height_openScene]
      omega
    have hmoments := ih hinner hheight' trivial fun m hm => hapart m (by simp [hm])
    exact Moment.forall_scope houter hinner hmoments (hinner.congr course.fittings.symm) fun _ hs => hs.pop
  | @signalled _ g st st' ms p provider _ course ih =>
    have houter : (st.stack.push _).Grounded base := hst.push_gateway (b := ⟨g.frame, p⟩) hheight hrole
    have hinner : (st.openScene g.frame p).stack.Grounded base := houter.push_open
    have hcall : ((st.openScene g.frame p).deeper.openCall provider).stack.Grounded base :=
      hinner.push_open.push_host provider
    have hheight' : base + 1 < ((st.openScene g.frame p).deeper.openCall provider).stack.height := by
      rw [EngineState.height_openCall, EngineState.stack_deeper, EngineState.height_openScene]
      omega
    have hrole' : base < (st.openScene g.frame p).stack.height + 1 := by
      rw [EngineState.height_openScene]
      omega
    have hmoments := ih hcall hheight' hrole' fun m hm => hapart m (by simp [Moment.propagating, hm])
    have hended : st'.stack.Grounded base := hcall.congr course.fittings.symm
    have hclosed : st'.closeBoth.shallower.stack.Grounded base := hended.pop.pop
    refine Moment.forall_scope houter hinner (List.forall_mem_cons.2 ⟨hinner, ?_⟩) hclosed fun _ hs => hs.pop
    refine List.forall_mem_append.2 ⟨?_, List.forall_mem_singleton.2 hclosed⟩
    exact Moment.forall_scope hinner.push_open hcall hmoments hended fun _ hs => hs.pop

/-- All that a call of the host does, it does on frames of its own. -/
theorem HostCourse.grounded {scene : Scene} {calls : CallStack} {st st' : EngineState} {ms : List Moment}
    (h : HostCourse scene calls st ms st') (hst : st.stack.Bracketed) (hapart : ∀ m ∈ ms, m.StartsApart) :
    ∀ m ∈ ms, m.state.stack.Grounded st.stack.height := by
  have hgrounded : st.stack.Grounded st.stack.height := .of_bracketed hst
  cases h with
  | idle => exact nofun
  | opened => exact List.forall_mem_singleton.2 hgrounded.push_open
  | closed => exact List.forall_mem_singleton.2 hgrounded.pop
  | pulled provider course =>
    have hcall : (st.openCall provider).stack.Grounded st.stack.height := hgrounded.push_open.push_host provider
    have hheight : st.stack.height + 1 < (st.openCall provider).stack.height := by simp
    have hmoments := course.grounded hcall hheight trivial fun m hm => hapart m (by simp [hm])
    exact Moment.forall_scope hgrounded.push_open hcall hmoments (hcall.congr course.fittings.symm)
      fun _ hs => hs.pop
  | @pushed provider ms st' course =>
    have hcall : (st.deeper.openCall provider).stack.Grounded st.stack.height :=
      hgrounded.push_open.push_host provider
    have hheight : st.stack.height + 1 < (st.deeper.openCall provider).stack.height := by simp
    have hmoments := course.grounded hcall hheight (Nat.lt_succ_self _) fun m hm =>
      hapart m (by simp [Moment.propagating, hm])
    have hended : st'.stack.Grounded st.stack.height := hcall.congr course.fittings.symm
    have hclosed : st'.closeBoth.shallower.stack.Grounded st.stack.height := hended.pop.pop
    refine List.forall_mem_cons.2 ⟨hgrounded, ?_⟩
    refine List.forall_mem_append.2 ⟨?_, List.forall_mem_singleton.2 hclosed⟩
    exact Moment.forall_scope hgrounded.push_open hcall hmoments hended fun _ hs => hs.pop

/-- The provider that a call of the host brings along, if it does. -/
def HostCall.provider? : HostCall → Option Provider
  | .requestValue _ _ p | .updateNode _ p | .triggerSignal _ _ p => p
  | _ => none

section
variable {α : Type} (scene : Scene) {r : Run History}

theorem snd_reportFailure (node : NodeId) (socket : String) (x : Action History (Outcome α)) :
    ((x >>= reportFailure .history node socket) r).2 = (x r).2 := by
  rw [Action.bind_apply]
  cases (x r).1 <;> rfl

theorem snd_requestValue (node : NodeId) (socket : String) (host : Option Provider) :
    (scene.requestValue .history node socket host r).2 =
      match scene.tables.exposed.socket? node socket with
      | none => r
      | some _ => (Action.callScope .history host
          (fun i => (scene.hostCalls .history).evaluate i node (some socket)) r).2 := by
  unfold Scene.requestValue
  cases scene.tables.exposed.socket? node socket with
  | none => rfl
  | some _ =>
    dsimp only
    rw [Action.log_bind_apply, snd_reportFailure, Errand.snd_callScope_bind]
    · rfl
    · rintro i (_ | _) r <;> rfl

theorem snd_updateNode (node : NodeId) (host : Option Provider) :
    (scene.updateNode .history node host r).2 = (Action.callScope .history host
      (fun i => (scene.hostCalls .history).evaluate i node none) r).2 :=
  snd_reportFailure node "*" _

theorem stays_staffed_callScope {body : Nat → Action History α} (host : Option Provider)
    (hbody : ∀ base j, (Upkeep.staffed scene base host).Keeps j (body j)) (hr : r.state.stack.Bracketed) :
    Run.Stays (FrameStack.Staffed r.state.stack.height host) r
      (Action.callScope .history host body r).2 := by
  let r' := (r.change .history (·.push (.fresh true none))).change .history
    (·.push (.fresh true (host.map .host)))
  have houter : (r.state.stack.push (.fresh true none)).Staffed r.state.stack.height host :=
    .of_bracketed hr.push (Nat.le_of_eq (FrameStack.height_push ..))
  have hinner : r'.state.stack.Staffed r.state.stack.height host :=
    houter.push_host (FrameStack.height_push ..)
  have hheight : r.state.stack.height + 1 < r'.state.stack.height := by
    change _ < ((r.state.stack.push _).push _).height
    simp
  have hrun := (hbody r.state.stack.height r'.state.stack.top r' (FrameStack.top_lt_height_push _ _)).2
    hheight hinner
  exact .scope houter hinner (fun _ hs => hs.pop) hrun

theorem stays_staffed_propagateAt (levels : Nat) (socket : String) (sources : List NodeId)
    (host : Option Provider) (hr : r.state.stack.Bracketed) :
    Run.Stays (FrameStack.Staffed r.state.stack.height host) r
      (propagateAt scene .history (scene.calls .history levels) socket sources host r).2 := by
  have hstart : r.state.stack.Staffed r.state.stack.height host := .of_bracketed hr (Nat.le_succ _)
  cases hrefused : refused? scene r.state sources with
  | some source =>
    rw [propagateAt_of_refused socket sources host r hrefused]
    exact .refl hstart
  | none =>
    rw [propagateAt, Action.state_bind_apply, hrefused]
    have hlevels := stays_staffed_callScope scene host
      (fun base j => Upkeep.keeps_levels ((Upkeep.staffed scene base host).serves_calls levels) j
        scene.limits.signalLevels (frontier scene socket sources)) (r := r.change .history .deeper) hr
    exact .trans (.change .deeper hstart) (.trans hlevels (.change .shallower hlevels.now))

variable {scene} (hr : r.state.stack.Bracketed)
include hr

theorem stays_staffed_evaluate (node : NodeId) (requested : Option String) (host : Option Provider) :
    Run.Stays (FrameStack.Staffed r.state.stack.height host) r (Action.callScope .history host
      (fun i => (scene.hostCalls .history).evaluate i node requested) r).2 :=
  stays_staffed_callScope scene host (fun base j =>
    ((Upkeep.staffed scene base host).serves_calls (scene.limits.allowance + 1)).evaluate j node requested) hr

theorem stays_staffed_requestValue (node : NodeId) (socket : String) (host : Option Provider) :
    Run.Stays (FrameStack.Staffed r.state.stack.height host) r
      (scene.requestValue .history node socket host r).2 := by
  rw [snd_requestValue]
  split
  · exact .refl (.of_bracketed hr (Nat.le_succ _))
  · exact stays_staffed_evaluate hr node (some socket) host

theorem stays_staffed_updateNode (node : NodeId) (host : Option Provider) :
    Run.Stays (FrameStack.Staffed r.state.stack.height host) r
      (scene.updateNode .history node host r).2 := by
  rw [snd_updateNode]
  exact stays_staffed_evaluate hr node none host

theorem stays_staffed_triggerSignal (socket : String) (source : Option SignalSource) (host : Option Provider) :
    Run.Stays (FrameStack.Staffed r.state.stack.height host) r
      (scene.triggerSignal .history socket source host r).2 := by
  cases source with
  | none => exact .refl (.of_bracketed hr (Nat.le_succ _))
  | some source => exact stays_staffed_propagateAt scene scene.limits.allowance socket _ host hr

end

/-- A call of the host on open brackets brings along its own provider and no other one. -/
theorem HostCall.stays_staffed_perform (call : HostCall) {s : Session History} {tables : Tables}
    {st : EngineState} (hactive : s.engine.active = some (tables, st)) (hst : st.stack.Bracketed) :
    ∃ new, (call.perform .history s).2.seen.moments = new ++ s.seen.moments ∧
      ∀ m ∈ new, m.state.stack.Staffed st.stack.height call.provider? := by
  have hisActive : s.engine.isActive = true := by rw [Engine.isActive, hactive]; rfl
  have hstart : st.stack.Staffed st.stack.height call.provider? := .of_bracketed hst (Nat.le_succ _)
  cases call with
  | bind source =>
    change ∃ new, (Host.bind source s).2.seen.moments = _ ∧ _
    rw [Host.bind_apply, if_pos hisActive]
    exact ⟨[], rfl, List.forall_mem_nil _⟩
  | activate files =>
    exact ⟨[], congrArg History.moments (seen_activate files s), List.forall_mem_nil _⟩
  | terminate => exact ⟨[], congrArg History.moments (seen_terminate s), List.forall_mem_nil _⟩
  | beginCycle =>
    change ∃ new, (Host.changeState .history _ .openFrame s).2.seen.moments = _ ∧ _
    rw [Host.changeState_apply, hactive]
    refine ⟨[_], rfl, List.forall_mem_singleton.2 ?_⟩
    exact .of_bracketed hst.push (Nat.le_of_eq (FrameStack.height_push ..))
  | endCycle =>
    change ∃ new, (Host.changeState .history _ .closeFrame s).2.seen.moments = _ ∧ _
    rw [Host.changeState_apply, hactive]
    exact ⟨[_], rfl, List.forall_mem_singleton.2 hstart.pop⟩
  | requestValue node socket host =>
    change ∃ new, (Host.requestValue .history node socket host s).2.seen.moments = _ ∧ _
    rw [Host.requestValue, Host.whileActive_apply, hactive]
    exact (stays_staffed_requestValue (r := ⟨st, s.counters, s.seen⟩) hst node socket host).since
  | updateNode node host =>
    change ∃ new, (Host.updateNode .history node host s).2.seen.moments = _ ∧ _
    rw [Host.updateNode, Host.whileActive_apply, hactive]
    exact (stays_staffed_updateNode (r := ⟨st, s.counters, s.seen⟩) hst node host).since
  | triggerSignal socket source host =>
    change ∃ new, (Host.triggerSignal .history socket source host s).2.seen.moments = _ ∧ _
    rw [Host.triggerSignal, Host.whileActive_apply, hactive]
    exact (stays_staffed_triggerSignal (r := ⟨st, s.counters, s.seen⟩) hst socket source host).since

end SocketGraph
