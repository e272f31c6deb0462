import SocketGraph.Proofs.HostCourse

/-! What an active engine remembers between the calls of its host. Marks that last forever are made by
the operations of handlers alone, and none of them is ever taken back. -/
namespace SocketGraph

/-- The target of the mark forever that the first operation of a script makes. -/
def Script.eternal? : Script → Option MarkTarget
  | .mark target .forever _ => some target
  | _ => none

/-- The mark forever that a handler makes, with the node and the component that it is made for. -/
def Moment.eternal? : Moment → Option (MarkTarget × NodeId × String) :=
  told fun _ a script => script.eternal?.map fun target => (target, a.node, a.component)

namespace Marks

/-- Add what some marks cover. -/
def addAll (m : Marks) (made : List (MarkTarget × NodeId × String)) : Marks :=
  made.foldl (fun m e => m.add e.1 e.2.1 e.2.2) m

/-- Some marks are among others. -/
def Within (m m' : Marks) : Prop := m.nodes ⊆ m'.nodes ∧ m.components ⊆ m'.components

theorem within_add (m : Marks) (target : MarkTarget) (node : NodeId) (component : String) :
    m.Within (m.add target node component) := by
  cases target with
  | node => exact ⟨fun _ h => List.mem_insert_iff.2 (.inr h), List.Subset.refl _⟩
  | component => exact ⟨List.Subset.refl _, fun _ h => List.mem_insert_iff.2 (.inr h)⟩
  | both =>
    exact ⟨fun _ h => List.mem_insert_iff.2 (.inr h), fun _ h => List.mem_insert_iff.2 (.inr h)⟩

theorem within_addAll (m : Marks) (made : List (MarkTarget × NodeId × String)) :
    m.Within (m.addAll made) := by
  induction made generalizing m with
  | nil => exact ⟨List.Subset.refl _, List.Subset.refl _⟩
  | cons e made ih =>
    obtain ⟨hnodes, hcomponents⟩ := ih (m.add e.1 e.2.1 e.2.2)
    have hadd := m.within_add e.1 e.2.1 e.2.2
    exact ⟨List.Subset.trans hadd.1 hnodes, List.Subset.trans hadd.2 hcomponents⟩

theorem addAll_append (m : Marks) (made made' : List (MarkTarget × NodeId × String)) :
    m.addAll (made ++ made') = (m.addAll made).addAll made' := List.foldl_append

end Marks

theorem Script.forever_effect (i : Nat) (a : Activation) (st : EngineState) (script : Script)
    (calls : CallStack) : (script.effect i a st).forever =
      st.forever.addAll ([⟨st, calls, .performed i a script⟩].filterMap Moment.eternal?) := by
  cases script with
  | exposeSignal | forward =>
    simp only [effect]
    split_ifs <;> rfl
  | mark target scope next => cases scope <;> rfl
  | _ => rfl

/-- The marks that last forever are those that have been made. -/
theorem Course.forever {scene : Scene} {calls : CallStack} {role role' : Role} {st st' : EngineState}
    {ms : List Moment} (h : Course scene calls role st ms role' st') :
    st'.forever = st.forever.addAll (ms.filterMap Moment.eternal?) := by
  induction h with
  | seq _ _ ih ih' => rw [ih', ih, List.filterMap_append, Marks.addAll_append]
  | updated _ _ _ _ ih | triggered _ _ _ _ ih =>
    -- to start a handler and to finish it makes no marks
    refine ih.trans (congrArg (Marks.addAll _) ?_)
    simp [Moment.eternal?, List.filterMap_cons]
  | idle calls g st script effect =>
    have hforever := script.forever_effect g.frame g.activation st (g :: calls)
    rwa [effect] at hforever
  | wrote calls g st script => exact script.forever_effect g.frame g.activation st (g :: calls)
  | inner _ ih => exact ih
  | linked _ _ ih | signalled _ _ _ _ ih =>
    refine ih.trans (congrArg (Marks.addAll _) ?_)
    simp [Moment.eternal?, Moment.openingScene]
  | _ => rfl

theorem HostCourse.forever {scene : Scene} {calls : CallStack} {st st' : EngineState} {ms : List Moment}
    (h : HostCourse scene calls st ms st') :
    st'.forever = st.forever.addAll (ms.filterMap Moment.eternal?) := by
  cases h with
  | pulled provider course | pushed provider course =>
    refine course.forever.trans (congrArg (Marks.addAll _) ?_)
    simp [Moment.eternal?, Moment.openingCall]
  | _ => rfl

/-- A session that has gone on from another one with the same tables: what is remembered now has been
remembered before or is told of. -/
structure Session.Remembers (s s' : Session History) (tables : Tables) (st : EngineState)
    (ms : List Moment) (st' : EngineState) : Prop where
  registry : s'.engine.registry = s.engine.registry
  limits : s'.engine.limits = s.engine.limits
  active : s'.engine.active = some (tables, st')
  moments : s'.seen.moments = ms.reverse ++ s.seen.moments
  forever : st'.forever = st.forever.addAll (ms.filterMap Moment.eternal?)

/-- Nothing is forgotten as long as the engine is active, whatever the host calls for. -/
theorem HostCall.remembers_performAll {s : Session History} {tables : Tables} {st : EngineState}
    (hactive : s.engine.active = some (tables, st)) (calls : List HostCall)
    (hcalls : ∀ call ∈ calls, call ≠ .terminate) :
    ∃ ms st', s.Remembers (performAll .history calls s).2 tables st ms st' := by
  induction calls generalizing s st with
  | nil => exact ⟨[], st, rfl, rfl, hactive, rfl, rfl⟩
  | cons call rest ih =>
    obtain ⟨hcall, hrest⟩ := List.forall_mem_cons.1 hcalls
    obtain ⟨hregistry, hlimits, ms, st₁, hactive₁, hseen, hcourse⟩ :=
      continues_perform call hactive hcall
    obtain ⟨ms', st', h⟩ := ih hactive₁ hrest
    refine ⟨ms ++ ms', st', h.registry.trans hregistry, h.limits.trans hlimits, h.active, ?_, ?_⟩
    · refine h.moments.trans ?_
      rw [hseen, List.reverse_append, List.append_assoc]
    · rw [h.forever, hcourse.forever, List.filterMap_append, Marks.addAll_append]

end SocketGraph
