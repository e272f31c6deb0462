import SocketGraph.Proofs.Lookups
import SocketGraph.Proofs.Retained
import SocketGraph.Proofs.Settled
import SocketGraph.Proofs.Upkeep

/-! Gateways that only forward. What a linked scene keeps of an input that no gateway pairs is the answer of
the host at the end of the gateways, as long as frames with an answer of the host are not put above those of
a linked scene. -/
namespace SocketGraph
namespace FrameStack

variable {s t : FrameStack} {i j : Nat} {l : Link} {passed : Nat} {p : Option Provider}

theorem view_comp {β γ : Type} {g : Frame → β} (k : β → γ) (h : s.view g = t.view g) :
    s.view (fun f => k (g f)) = t.view fun f => k (g f) := by
  simpa [view, Function.comp_def] using congrArg (List.map (Prod.map id k)) h

theorem provider?_of_fittings (h : s.fittings = t.fittings) (i : Nat) : s.provider? i = t.provider? i :=
  readThrough_of_view h id i

namespace Forwards

theorem congr (h : s.fittings = t.fittings) (hs : s.Forwards l i passed p) : t.Forwards l i passed p := by
  induction hs with
  | nobody provider => exact .nobody (provider?_of_fittings h _ ▸ provider)
  | host provider => exact .host (provider?_of_fittings h _ ▸ provider)
  | gateway provider unpaired _ ih => exact .gateway (provider?_of_fittings h _ ▸ provider) unpaired ih

/-- What a frame forwards depends on who answers on it. -/
theorem of_provider? (h : s.provider? j = s.provider? i) (hs : s.Forwards l i passed p) :
    s.Forwards l j passed p := by
  cases hs with
  | nobody provider => exact .nobody (h.trans provider)
  | host provider => exact .host (h.trans provider)
  | gateway provider unpaired rest => exact .gateway (h.trans provider) unpaired rest

/-- A new frame on top is not asked by the frames below. -/
theorem push_iff {f : Frame} (hs : s.Bound) (hi : i < s.height) :
    (s.push f).Forwards l i passed p ↔ s.Forwards l i passed p := by
  have hprovider {i : Nat} (hi : i < s.height) : (s.push f).provider? i = s.provider? i :=
    readThrough_push f _ hi
  constructor
  · intro h
    induction h with
    | nobody provider => exact .nobody (hprovider hi ▸ provider)
    | host provider => exact .host (hprovider hi ▸ provider)
    | gateway provider unpaired _ ih =>
      rw [hprovider hi] at provider
      exact .gateway provider unpaired (ih (Nat.lt_trans (hs.caller_lt provider) hi))
  · intro h
    induction h with
    | nobody provider => exact .nobody (hprovider hi ▸ provider)
    | host provider => exact .host (hprovider hi ▸ provider)
    | gateway provider unpaired _ ih =>
      exact .gateway (hprovider hi ▸ provider) unpaired (ih (Nat.lt_trans (hs.caller_lt provider) hi))

/-- Wherever no gateway pairs a socket, the gateways lead to the host or to nobody. -/
theorem exists_of_unpaired (hs : s.Bound)
    (hunpaired : ∀ j f b, s.frame? j = some f → f.provider = some (.gateway b) →
      b.pairings.socketFor? l = none) (i : Nat) : ∃ passed p, s.Forwards l i passed p := by
  induction i using Nat.strong_induction_on with
  | h i ih =>
    rcases hprovider : s.provider? i with _ | p | b
    · exact ⟨0, none, .nobody hprovider⟩
    · exact ⟨0, some p, .host hprovider⟩
    · obtain ⟨j, -, f, hf, hb⟩ := exists_of_readThrough hprovider
      obtain ⟨passed, p, hforwards⟩ := ih b.caller (hs.caller_lt hprovider)
      exact ⟨passed + 1, p, .gateway hprovider (hunpaired j f b hf hb) hforwards⟩

end Forwards

/-- A frame of a stack with a new one on top is one of those below or the new one. -/
theorem frame?_push_cases {f g : Frame} (h : (s.push f).frame? j = some g) :
    j < s.height ∧ s.frame? j = some g ∨ j = s.height ∧ g = f := by
  rw [frame?_push] at h
  split_ifs at h with hj
  · exact .inr ⟨hj, (Option.some.inj h).symm⟩
  · exact .inl ⟨lt_height_of_frame? h, h⟩

/-- A walk that gets past a new frame goes on as one from the frame below. -/
theorem mem_lineage_top_of_push {f : Frame} (h : j ∈ (s.push f).lineage s.height) (hj : j < s.height) :
    f.permeable = true ∧ j ∈ s.lineage s.top := by
  obtain ⟨-, -, hopen⟩ := mem_lineage.1 h
  have htop : s.top + 1 = s.height := by
    unfold top
    omega
  refine ⟨?_, mem_lineage.2 ⟨by omega, by omega, fun k hjk hk => ?_⟩⟩
  · have hpermeable := hopen s.height hj (Nat.le_refl _)
    rwa [isPermeable_push, if_pos rfl] at hpermeable
  · have hpermeable := hopen k hjk (by omega)
    rwa [isPermeable_push, if_neg (by omega)] at hpermeable

theorem frame?_of_fittings (h : s.fittings = t.fittings) {f : Frame} (hf : t.frame? i = some f) :
    ∃ g, s.frame? i = some g ∧ g.provider = f.provider ∧ g.permeable = f.permeable := by
  obtain ⟨g, hg⟩ := exists_frame? (height_of_view h ▸ lt_height_of_frame? hf)
  have hprovider : (s.frame? i).map Frame.provider = (t.frame? i).map Frame.provider := frame?_of_view h i
  have hpermeable : s.isPermeable i = t.isPermeable i := isPermeable_of_outline (outline_of_view h) i
  refine ⟨g, hg, ?_, ?_⟩
  · simpa [hf, hg] using hprovider
  · simpa [isPermeable, hf, hg] using hpermeable

theorem Bound.of_fittings (h : s.fittings = t.fittings) (hs : s.Bound) : t.Bound :=
  hs.of_frames fun _ _ hf => frame?_of_fittings h hf

theorem Bound.isPermeable_of_provider (hs : s.Bound) {f : Frame} {b : Binding} (hf : s.frame? i = some f)
    (hb : f.provider = some (.gateway b)) : s.isPermeable i = false := by
  rw [isPermeable, hf]
  exact (hs i f b hf hb).2

/-- A gateway answers for all frames of a lineage, down to the frame that is bound to it. -/
theorem Bound.provider?_of_mem_lineage (hs : s.Bound) {b : Binding} (hb : s.provider? i = some (.gateway b))
    (hj : j ∈ s.lineage i) : s.provider? j = some (.gateway b) := by
  induction i with
  | zero =>
    obtain rfl : j = 0 := Nat.le_zero.1 (le_of_mem_lineage hj)
    exact hb
  | succ i ih =>
    have hi : i + 1 < s.height := (mem_lineage.1 hj).1
    rw [lineage_succ hi] at hj
    rcases List.mem_cons.1 hj with rfl | hj
    · exact hb
    · split_ifs at hj with hpermeable
      · refine ih ?_ hj
        obtain ⟨f, hf⟩ := exists_frame? hi
        rw [provider?, readThrough_succ _ hi, hf, Option.bind_some, if_pos hpermeable] at hb
        rcases hprovider : f.provider with _ | p | b'
        · rwa [hprovider, Option.none_or] at hb
        · rw [hprovider] at hb
          cases hb
        · rw [hs.isPermeable_of_provider hf hprovider] at hpermeable
          cases hpermeable
      · cases hj

end FrameStack

/-- What is known of the frames while nodes of a component are evaluated for an input that gateways may only
forward: gateways answer for whole lineages, the nodes that are active are made from the component, and
linked scenes keep for the input what the host has answered. -/
structure FrameStack.Relays (info : NodeInfo) (c : Component) (l : Link) (s : FrameStack) : Prop where
  bound : s.Bound
  sheltered : ∀ i j b, j ∈ s.lineage i → s.provider? j = some (.gateway b) →
    s.provider? i = some (.gateway b)
  made : ∀ i a, a ∈ s.activeOn i → a.node = l.node → a.sockets = c.sockets ∧ a.attributes = info.attributes
  inputs : ∀ i b v passed p, s.provider? i = some (.gateway b) → s.ownInput? i l = some v →
    s.Forwards l i passed p → answer? p l = some v

namespace FrameStack.Relays

variable {info : NodeInfo} {c : Component} {l : Link} {s t : FrameStack} {i : Nat}

/-- What a walk finds in a linked scene is the answer of the host. -/
theorem input? (hs : s.Relays info c l) {b : Binding} {v : Value} {passed : Nat} {p : Option Provider}
    (hb : s.provider? i = some (.gateway b)) (hv : s.input? i l = some v)
    (hp : s.Forwards l i passed p) : answer? p l = some v := by
  obtain ⟨j, hj, f, hf, hv⟩ := exists_of_readThrough hv
  have hgateway : s.provider? j = some (.gateway b) := hs.bound.provider?_of_mem_lineage hb hj
  refine hs.inputs j b v passed p hgateway ?_ (hp.of_provider? (hgateway.trans hb.symm))
  rw [ownInput?, hf]
  exact hv

/-- Without bindings nothing has been forwarded. -/
theorem of_unbound (hprovider : ∀ i f b, s.frame? i = some f → f.provider ≠ some (.gateway b))
    (hidle : ∀ i f, s.frame? i = some f → f.active = []) : s.Relays info c l := by
  have hnone (i : Nat) (b : Binding) : s.provider? i ≠ some (.gateway b) := by
    intro hb
    obtain ⟨j, -, f, hf, hb⟩ := exists_of_readThrough hb
    exact hprovider j f b hf hb
  refine ⟨fun i f b hf hb => absurd hb (hprovider i f b hf), fun _ j b _ hb => absurd hb (hnone j b),
    fun i a ha => ?_, fun i b _ _ _ hb => absurd hb (hnone i b)⟩
  cases hf : s.frame? i with
  | none => simp [activeOn, hf] at ha
  | some f => simp [activeOn, hf, hidle i f hf] at ha

theorem of_brackets (hs : s.Bracketed) : s.Relays info c l := by
  refine of_unbound (fun i f b hf hb => ?_) fun i f hf => congrArg Frame.Shape.active (hs.frame? hf)
  exact nomatch hb.symm.trans (congrArg Frame.Shape.provider (hs.frame? hf))

/-- The frames of a call of the host. -/
theorem of_call (hs : s.Bracketed) (p : Option Provider) :
    (s.push (.fresh true (p.map .host))).Relays info c l := by
  have hframe {i : Nat} {f : Frame} (hf : (s.push (.fresh true (p.map .host))).frame? i = some f) :
      f.provider = p.map .host ∧ f.active = [] ∨ f.shape = .bracket := by
    rcases frame?_push_cases hf with ⟨-, hf⟩ | ⟨-, rfl⟩
    · exact .inr (hs.frame? hf)
    · exact .inl ⟨rfl, rfl⟩
  refine of_unbound (fun i f b hf hb => ?_) fun i f hf => ?_
  · rcases hframe hf with ⟨hp, -⟩ | hshape
    · rw [hp] at hb
      cases p <;> exact nomatch hb
    · exact nomatch hb.symm.trans (congrArg Frame.Shape.provider hshape)
  · rcases hframe hf with ⟨-, hidle⟩ | hshape
    · exact hidle
    · exact congrArg Frame.Shape.active hshape

/-- Frames on which the same providers answer and which have the same inputs. -/
theorem congr (hs : s.Relays info c l)
    (hview : t.view (fun f => (f.provider, f.inputs)) = s.view fun f => (f.provider, f.inputs))
    (hmade : ∀ i a, a ∈ t.activeOn i → a.node = l.node →
      a.sockets = c.sockets ∧ a.attributes = info.attributes) : t.Relays info c l := by
  have hfittings : t.fittings = s.fittings := view_comp Prod.fst hview
  have hprovider (i : Nat) : t.provider? i = s.provider? i := provider?_of_fittings hfittings i
  have hown (i : Nat) : t.ownInput? i l = s.ownInput? i l := by
    have hinputs := congrArg (Option.bind · (·.get? l.node l.socket))
      (frame?_of_view (view_comp Prod.snd hview) i)
    simpa [ownInput?, Option.bind_map, Function.comp_def] using hinputs
  refine ⟨hs.bound.of_fittings hfittings.symm, fun i j b hj hb => ?_, hmade,
    fun i b v passed p hb hv hp => ?_⟩
  · rw [lineage_of_outline (outline_of_view hfittings)] at hj
    rw [hprovider] at hb ⊢
    exact hs.sheltered i j b hj hb
  · rw [hprovider] at hb
    rw [hown] at hv
    exact hs.inputs i b v passed p hb hv (hp.congr hfittings)

/-- A change of single frames that leaves providers and inputs alone, and makes no node active. -/
theorem modify (hs : s.Relays info c l) {change : Frame → Frame}
    (hpermeable : ∀ f, (change f).permeable = f.permeable)
    (hkept : ∀ f, ((change f).provider, (change f).inputs) = (f.provider, f.inputs))
    (hactive : ∀ f a, a ∈ (change f).active → ∃ b ∈ f.active, b.node = a.node ∧ b.sockets = a.sockets ∧
      b.attributes = a.attributes) (i : Nat) : (s.modify i change).Relays info c l := by
  refine hs.congr (view_modify hpermeable hkept) fun j a ha hnode => ?_
  rw [activeOn, frame?_modify] at ha
  split_ifs at ha
  · cases hf : s.frame? j with
    | none =>
      rw [hf] at ha
      cases ha
    | some f =>
      rw [hf] at ha
      obtain ⟨b, hb, hbnode, hsockets, hattributes⟩ := hactive f a ha
      rw [← hsockets, ← hattributes]
      exact hs.made j b (by rw [activeOn, hf]; exact hb) (hbnode.trans hnode)
  · exact hs.made j a ha hnode

theorem writeThrough (hs : s.Relays info c l) {change : Frame → Frame}
    (hshape : ∀ f, (change f).shape = f.shape) (hinputs : ∀ f, (change f).inputs = f.inputs) (i : Nat) :
    (s.writeThrough i change).Relays info c l := by
  have hview : (s.writeThrough i change).view (fun f => (f.provider, f.inputs)) =
      s.view fun f => (f.provider, f.inputs) :=
    view_writeThrough (fun f => congrArg Frame.Shape.permeable (hshape f)) fun f =>
      Prod.ext (congrArg Frame.Shape.provider (hshape f)) (hinputs f)
  refine hs.congr hview fun j a ha hnode => ?_
  rw [activeOn_congr (shape_writeThrough hshape)] at ha
  exact hs.made j a ha hnode

theorem leave (hs : s.Relays info c l) (i : Nat) : (s.leave i).Relays info c l := by
  refine hs.modify ?_ ?_ ?_ i <;> intro f
  · rfl
  · rfl
  · exact fun a ha => ⟨a, List.mem_of_mem_tail ha, rfl, rfl, rfl⟩

theorem enter (hs : s.Relays info c l) {a : Activation}
    (ha : a.node = l.node → a.sockets = c.sockets ∧ a.attributes = info.attributes) (i : Nat) :
    (s.enter i a).Relays info c l := by
  refine hs.congr (view_modify (fun _ => rfl) fun _ => rfl) fun j b hb hnode => ?_
  rcases Nat.lt_or_ge i s.height with hi | hi
  · rw [activeOn_enter s hi] at hb
    split_ifs at hb
    · rcases List.mem_cons.1 hb with rfl | hb
      · exact ha hnode
      · exact hs.made j b hb hnode
    · exact hs.made j b hb hnode
  · rw [enter_of_height_le hi] at hb
    exact hs.made j b hb hnode

/-- A new frame that shares what the frame below has, or is bound to a gateway, has kept nothing yet. -/
theorem push (hs : s.Relays info c l) {permeable : Bool} {provider : Option FrameProvider}
    (hprovider : provider = none ∨ permeable = false)
    (hbound : ∀ b, provider = some (.gateway b) → permeable = false ∧ b.caller < s.height) :
    (s.push (.fresh permeable provider)).Relays info c l := by
  have hbelow {j : Nat} (hj : j < s.height) :
      (s.push (.fresh permeable provider)).provider? j = s.provider? j := readThrough_push _ _ hj
  refine ⟨hs.bound.push hbound, fun i j b hj hb => ?_, fun i a ha hnode => ?_,
    fun i b v passed p hb hv hp => ?_⟩
  · obtain ⟨hi, hji, -⟩ := mem_lineage.1 hj
    rw [height_push] at hi
    rcases Nat.lt_or_ge i s.height with hi' | hi'
    · rw [lineage_push _ hi'] at hj
      rw [hbelow (by omega)] at hb
      rw [hbelow hi']
      exact hs.sheltered i j b hj hb
    · obtain rfl : i = s.height := by omega
      rcases Nat.eq_or_lt_of_le hji with rfl | hlt
      · exact hb
      · -- the walk goes on below the new frame, which has no provider of its own then
        obtain ⟨rfl, htop⟩ : permeable = true ∧ j ∈ s.lineage s.top := mem_lineage_top_of_push hj hlt
        obtain rfl : provider = none := hprovider.resolve_right nofun
        rw [hbelow hlt] at hb
        rw [provider?, readThrough_push_height]
        exact hs.sheltered s.top j b htop hb
  · obtain ⟨f, hf⟩ : ∃ f, (s.push (.fresh permeable provider)).frame? i = some f := by
      rw [activeOn] at ha
      cases hf : (s.push (.fresh permeable provider)).frame? i with
      | none =>
        rw [hf] at ha
        cases ha
      | some f => exact ⟨f, rfl⟩
    rw [activeOn, hf] at ha
    rcases frame?_push_cases hf with ⟨-, hf⟩ | ⟨-, rfl⟩
    · exact hs.made i a (by rw [activeOn, hf]; exact ha) hnode
    · cases ha
  · obtain ⟨f, hf, hv⟩ := Option.bind_eq_some_iff.1 hv
    rcases frame?_push_cases hf with ⟨hi, hf⟩ | ⟨-, rfl⟩
    · rw [hbelow hi] at hb
      have hown : s.ownInput? i l = some v := by
        rw [ownInput?, hf]
        exact hv
      exact hs.inputs i b v passed p hb hown ((Forwards.push_iff hs.bound hi).1 hp)
    · cases hv

theorem push_open (hs : s.Relays info c l) : (s.push (.fresh true none)).Relays info c l :=
  hs.push (.inl rfl) nofun

theorem push_gateway (hs : s.Relays info c l) {b : Binding} (hb : b.caller < s.height) :
    (s.push (.fresh false (some (.gateway b)))).Relays info c l := by
  refine hs.push (.inr rfl) ?_
  rintro _ ⟨⟩
  exact ⟨rfl, hb⟩

theorem of_push {f : Frame} (hs : (s.push f).Relays info c l) : s.Relays info c l := by
  have hbound : s.Bound := by
    have hpop := hs.bound.pop
    rwa [pop_push] at hpop
  have hbelow {j : Nat} (hj : j < s.height) : (s.push f).provider? j = s.provider? j :=
    readThrough_push _ _ hj
  have hlt {j : Nat} {g : Frame} (hg : s.frame? j = some g) : (s.push f).frame? j = some g :=
    (frame?_push_of_lt f (lt_height_of_frame? hg)).trans hg
  refine ⟨hbound, fun i j b hj hb => ?_, fun i a ha hnode => ?_, fun i b v passed p hb hv hp => ?_⟩
  · have hi := (mem_lineage.1 hj).1
    have hji := le_of_mem_lineage hj
    rw [← hbelow (by omega)] at hb ⊢
    exact hs.sheltered i j b (lineage_push f hi ▸ hj) hb
  · refine hs.made i a ?_ hnode
    rw [activeOn] at ha ⊢
    cases hg : s.frame? i with
    | none =>
      rw [hg] at ha
      cases ha
    | some g =>
      rw [hlt hg]
      rwa [hg] at ha
  · obtain ⟨g, hg, hv⟩ := Option.bind_eq_some_iff.1 hv
    have hi := lt_height_of_frame? hg
    refine hs.inputs i b v passed p (hbelow hi ▸ hb) ?_ ((Forwards.push_iff hbound hi).2 hp)
    rw [ownInput?, hlt hg]
    exact hv

theorem pop (hs : s.Relays info c l) : s.pop.Relays info c l := by
  rcases Nat.eq_zero_or_pos s.height with hempty | hpos
  · have hsame : s.pop = s := by
      refine FrameStack.ext_frame? fun j => ?_
      rw [frame?_pop, if_neg (by omega), frame?_eq_none_iff.2 (by omega)]
    rwa [hsame]
  · obtain ⟨f, hf⟩ := exists_push_pop hpos
    exact of_push (hf ▸ hs)

/-- An input is kept: another one, or one with the answer of the host wherever a gateway answers. -/
theorem putInput (hs : s.Relays info c l) {l' : Link} {v : Value}
    (hv : l' = l → ∀ b passed p, s.provider? i = some (.gateway b) → s.Forwards l i passed p →
      answer? p l = some v) : (s.putInput i l' v).Relays info c l := by
  have hshape : (s.putInput i l' v).shape = s.shape := shape_putInput ..
  have hfittings := fittings_of_shape hshape
  have hprovider (j : Nat) : (s.putInput i l' v).provider? j = s.provider? j := provider?_congr hshape j
  refine ⟨hs.bound.congr hshape.symm, fun i j b hj hb => ?_, fun j a ha hnode => ?_,
    fun j b w passed p hb hw hp => ?_⟩
  · rw [lineage_congr hshape] at hj
    rw [hprovider] at hb ⊢
    exact hs.sheltered i j b hj hb
  · exact hs.made j a (activeOn_congr hshape j ▸ ha) hnode
  · rw [hprovider] at hb
    have hforwards : s.Forwards l j passed p := hp.congr hfittings
    rw [ownInput?_putInput] at hw
    split_ifs at hw with hwritten
    · -- the gateway that answers for this frame answers for the one that is written to
      obtain ⟨hj, rfl⟩ := hwritten
      obtain rfl := Option.some.inj hw
      have hgateway : s.provider? i = some (.gateway b) := hs.sheltered i j b hj hb
      exact hv rfl b passed p hgateway (hforwards.of_provider? (hgateway.trans hb.symm))
    · exact hs.inputs j b w passed p hb hw hforwards

/-- What the first operation of a script writes leaves providers and inputs alone. -/
theorem effect {st : EngineState} (hs : st.stack.Relays info c l) (i : Nat) (a : Activation)
    (script : Script) : (script.effect i a st).stack.Relays info c l := by
  have hmark (j : Nat) (target : MarkTarget) :
      (st.stack.mark j target a.node a.component).Relays info c l := by
    refine hs.modify ?_ ?_ ?_ j <;> intro f
    · rfl
    · rfl
    · exact fun b hb => ⟨b, hb, rfl, rfl, rfl⟩
  cases script with
  | push | expose =>
    refine hs.writeThrough ?_ ?_ i <;> intro f <;> rfl
  | exposeSignal socket next =>
    rw [Script.effect]
    split_ifs
    · refine hs.writeThrough ?_ ?_ i <;> intro f <;> rfl
    · exact hs
  | forward socket next =>
    rw [Script.effect]
    split_ifs
    · refine hs.modify ?_ ?_ ?_ i <;> intro f
      · rfl
      · rfl
      · intro b hb
        cases hactive : f.active with
        | nil => simp [Frame.updateActive, hactive] at hb
        | cons d rest =>
          rw [Frame.updateActive, hactive, List.modifyHead_cons] at hb
          rcases List.mem_cons.1 hb with rfl | hb
          · exact ⟨d, List.mem_cons_self, by simp, (d.sockets_sent [socket]).symm,
              (d.attributes_sent [socket]).symm⟩
          · exact ⟨b, List.mem_cons_of_mem _ hb, rfl, rfl, rfl⟩
    · exact hs
  | mark target scope next =>
    cases scope with
    | frame => exact hmark i target
    | root => exact hmark _ target
    | forever => exact hs
  | _ => exact hs

end FrameStack.Relays
end SocketGraph
