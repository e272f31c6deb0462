import SocketGraph.Proofs.Layout

/-! The index of exposed sockets. What is indexed are the exposed sockets that the registered components of
the nodes declare: the last of those with one key can be requested under it, and every output of signals
makes its node a source. Neither depends on the order in which the nodes were added. -/
namespace SocketGraph

/-- The last item that a list in strict order has is the one that all others come before. -/
theorem getLast?_eq_some_iff_of_pairwise {α : Type} {before : α → α → Prop}
    (hasymm : ∀ a b, before a b → ¬ before b a) {items : List α} (h : items.Pairwise before) {a : α} :
    items.getLast? = some a ↔ a ∈ items ∧ ∀ b ∈ items, b = a ∨ before b a := by
  induction items using List.reverseRecOn with
  | nil => simp
  | append_singleton items last =>
    have hlast : ∀ b ∈ items, before b last := fun b hb =>
      (List.pairwise_append.1 h).2.2 b hb last List.mem_cons_self
    rw [List.getLast?_concat, Option.some.injEq]
    constructor
    · rintro rfl
      exact ⟨by simp, fun b hb => (List.mem_append.1 hb).elim (fun hb => .inr (hlast b hb))
        fun hb => .inl (List.mem_singleton.1 hb)⟩
    · rintro ⟨ha, hall⟩
      rcases List.mem_append.1 ha with ha | ha
      · rcases hall last (by simp) with heq | hbefore
        · exact heq
        · exact absurd (hlast a ha) (hasymm _ _ hbefore)
      · exact (List.mem_singleton.1 ha).symm

namespace Table
variable {α : Type}

/-- Entries that are alone with their keys are what a table made of them holds. -/
theorem get?_ofList_eq_some_iff {entries : List (String × α)} (h : (entries.map Prod.fst).Nodup)
    {key : String} {a : α} : (ofList entries).get? key = some a ↔ (key, a) ∈ entries := by
  induction entries using List.reverseRecOn with
  | nil => simp [ofList]
  | append_singleton entries e ih =>
    obtain ⟨k, v⟩ := e
    simp only [List.map_append, List.map_cons, List.map_nil] at h
    obtain ⟨hentries, -, hdisjoint⟩ := List.nodup_append.1 h
    rw [ofList_concat, get?_insert, List.mem_append, List.mem_singleton, Prod.mk.injEq, ← ih hentries]
    by_cases hkey : key = k
    · have hnone : (ofList entries).get? key ≠ some a := fun hget =>
        hdisjoint key (List.mem_map_of_mem (ih hentries |>.1 hget)) k List.mem_cons_self hkey
      simp [hkey, hkey ▸ hnone, eq_comm]
    · simp [hkey]

/-- The order of such entries does not matter. -/
theorem ofList_perm {entries entries' : List (String × α)} (hperm : entries.Perm entries')
    (h : (entries.map Prod.fst).Nodup) : ofList entries = ofList entries' := by
  have h' : (entries'.map Prod.fst).Nodup := (hperm.map Prod.fst).nodup_iff.1 h
  refine ext_get? fun key => Option.ext fun a => ?_
  rw [get?_ofList_eq_some_iff h, get?_ofList_eq_some_iff h', hperm.mem_iff]

end Table

/-- A socket that a component declares, with a node of the component and the place of the declaration. -/
structure Declaration where
  node : NodeId
  component : String
  place : Nat
  socket : Socket

namespace Declaration

/-- The component of the node is registered and declares the socket, in its place, as an exposed one. -/
def Exposed (d : Declaration) (registry : Registry) (x : Executable) : Prop :=
  ∃ info c, x.node? d.node = some info ∧ info.component = d.component ∧
    registry.get? d.component = some c ∧ c.sockets[d.place]? = some d.socket ∧ d.socket.exposed = true

/-- Whether the socket is an output of signals, which makes the node a source. -/
def isSource (d : Declaration) : Bool := d.socket.isOutput && d.socket.isSignal

def key (d : Declaration) : String := socketKey d.node d.socket.name

/-- What is entered for a socket that can be requested. -/
def exposedSocket (d : Declaration) : ExposedSocket :=
  ⟨d.node, d.socket.name, d.socket.typeTag, d.component⟩

/-- The ascending order of nodes and, for one node, of places. -/
def Before (d d' : Declaration) : Prop := d.node < d'.node ∨ d.node = d'.node ∧ d.place < d'.place

/-- The socket is exposed and can be requested under a key. -/
def RequestedBy (d : Declaration) (registry : Registry) (x : Executable) (key : String) : Prop :=
  d.Exposed registry x ∧ d.isSource = false ∧ d.key = key

/-- The socket is exposed and makes its node a source for a socket of a component. -/
def SourceFor (d : Declaration) (registry : Registry) (x : Executable) (component socket : String) : Prop :=
  d.Exposed registry x ∧ d.isSource = true ∧ d.component = component ∧ d.socket.name = socket

theorem Before.asymm (d d' : Declaration) (h : d.Before d') : ¬ d'.Before d := by
  rcases h with h | ⟨h, hplace⟩
  · rintro (h' | ⟨h', -⟩)
    · exact String.lt_asymm h h'
    · exact String.lt_irrefl _ (h' ▸ h)
  · rintro (h' | ⟨-, hplace'⟩)
    · exact String.lt_irrefl _ (h ▸ h')
    · omega

/-- The exposed sockets that the component of a node declares. -/
def ofNode (registry : Registry) (node : NodeId) (info : NodeInfo) : List Declaration :=
  match registry.get? info.component with
  | none => []
  | some c => (c.sockets.zipIdx.filter (·.1.exposed)).map fun s => ⟨node, info.component, s.2, s.1⟩

/-- The exposed sockets of all nodes, node by node. -/
def all (registry : Registry) (x : Executable) : List Declaration :=
  x.nodes.entries.flatMap fun e => ofNode registry e.1 e.2

variable {registry : Registry} {x : Executable} {node : NodeId} {info : NodeInfo} {d : Declaration}

theorem mem_ofNode : d ∈ ofNode registry node info ↔ d.node = node ∧ d.component = info.component ∧
    ∃ c, registry.get? info.component = some c ∧ c.sockets[d.place]? = some d.socket ∧
      d.socket.exposed = true := by
  obtain ⟨node', component, place, socket⟩ := d
  rw [ofNode]
  cases registry.get? info.component with
  | none => simp
  | some c =>
    simp only [List.mem_map, List.mem_filter, Prod.exists, List.mem_zipIdx_iff_getElem?, mk.injEq]
    grind

theorem mem_all : d ∈ all registry x ↔ d.Exposed registry x := by
  simp only [all, List.mem_flatMap, mem_ofNode, Prod.exists, Exposed, Executable.node?,
    Table.get?_eq_some_iff]
  grind

theorem pairwise_ofNode (registry : Registry) (node : NodeId) (info : NodeInfo) :
    (ofNode registry node info).Pairwise Before := by
  rw [ofNode]
  split
  · exact .nil
  · rename_i c _
    refine List.pairwise_map.2 (List.Pairwise.filter _ ?_)
    have hplaces : (c.sockets.zipIdx.map Prod.snd).Pairwise (· < ·) := by
      rw [List.zipIdx_map_snd]
      exact List.pairwise_lt_range'
    exact (List.pairwise_map.1 hplaces).imp fun hlt => .inr ⟨rfl, hlt⟩

/-- They are listed in ascending order. -/
theorem pairwise_all (registry : Registry) (x : Executable) : (all registry x).Pairwise Before := by
  refine List.pairwise_flatMap.2 ⟨fun e _ => pairwise_ofNode registry e.1 e.2, ?_⟩
  refine x.nodes.ascending.imp fun {e e'} hlt d hd d' hd' => .inl ?_
  rwa [(mem_ofNode.1 hd).1, (mem_ofNode.1 hd').1]

/-- The declarations that are requested by a key. -/
def requestedBy (registry : Registry) (x : Executable) (key : String) : List Declaration :=
  (all registry x).filter fun d => !d.isSource && d.key = key

/-- The declarations that make nodes sources for a socket of a component. -/
def sourcesFor (registry : Registry) (x : Executable) (component socket : String) : List Declaration :=
  (all registry x).filter fun d => d.isSource && d.component = component && d.socket.name = socket

theorem mem_requestedBy {key : String} : d ∈ requestedBy registry x key ↔ d.RequestedBy registry x key := by
  simp [requestedBy, mem_all, RequestedBy]

theorem mem_sourcesFor {component socket : String} :
    d ∈ sourcesFor registry x component socket ↔ d.SourceFor registry x component socket := by
  simp [sourcesFor, mem_all, SourceFor, and_assoc]

theorem pairwise_requestedBy (registry : Registry) (x : Executable) (key : String) :
    (requestedBy registry x key).Pairwise Before := (pairwise_all registry x).filter _

theorem pairwise_sourcesFor (registry : Registry) (x : Executable) (component socket : String) :
    (sourcesFor registry x component socket).Pairwise Before := (pairwise_all registry x).filter _

/-- The node of an exposed socket has a registered component. -/
theorem Exposed.ne_node (h : d.Exposed registry x) (hnode : x.node? node = some info)
    (hcomponent : registry.get? info.component = none) : d.node ≠ node := by
  rintro rfl
  obtain ⟨info', c, hnode', hname, hc, -⟩ := h
  obtain rfl := Option.some.inj (hnode.symm.trans hnode')
  rw [hname, hc] at hcomponent
  exact Option.some_ne_none c hcomponent

end Declaration

/-- Whether a call adds to the index. -/
def BuildCall.indexes : BuildCall → Bool
  | .expose _ _ | .trigger _ _ _ | .indexExposed => true
  | _ => false

namespace Builder

variable {registry : Registry} {calls : List BuildCall}

/-! Entries. -/

/-- The socket that an entry makes requestable under a key. -/
def IndexEntry.socket? (key : String) : IndexEntry → Option ExposedSocket
  | .socket s => if socketKey s.node s.socket = key then some s else none
  | .trigger _ _ _ => none

/-- The socket of a component that an entry adds a signal source to, with that source. -/
def IndexEntry.source? (component : String) : IndexEntry → Option (String × NodeId)
  | .socket _ => none
  | .trigger component' name source => if component' = component then some (name, source) else none

/-- Under a key stands the socket that was entered last. -/
theorem sockets_foldl_addEntry (entries : List IndexEntry) (b : Builder) (key : String) :
    (entries.foldl addEntry b).tables.exposed.sockets.get? key =
      (entries.filterMap (IndexEntry.socket? key)).getLast?.or (b.tables.exposed.sockets.get? key) := by
  induction entries using List.reverseRecOn with
  | nil => rfl
  | append_singleton entries entry ih =>
    rw [List.foldl_append, List.filterMap_append]
    cases entry with
    | socket s =>
      refine (Table.get?_insert _ _ key s).trans ?_
      by_cases hkey : socketKey s.node s.socket = key
      · simp [IndexEntry.socket?, hkey]
      · rw [if_neg (Ne.symm hkey), ih]
        simp [IndexEntry.socket?, hkey]
    | trigger component name source =>
      refine Eq.trans ih ?_
      simp [IndexEntry.socket?]

theorem listsSources_foldl_addEntry {b : Builder} {component : String} {sources : List (String × NodeId)}
    (h : b.tables.exposed.ListsSources component sources) (entries : List IndexEntry) :
    (entries.foldl addEntry b).tables.exposed.ListsSources component
      (sources ++ entries.filterMap (IndexEntry.source? component)) := by
  induction entries generalizing b sources with
  | nil => simpa using h
  | cons entry rest ih =>
    cases entry with
    | socket s =>
      have hsocket : (b.addEntry (.socket s)).tables.exposed.ListsSources component sources :=
        ⟨h.some_iff, h.listed⟩
      exact ih hsocket
    | trigger component' name source =>
      have hrest := ih (listsSources_trigger h component' name source)
      rw [List.foldl_cons, addEntry]
      by_cases hcomponent : component' = component <;>
        simpa [IndexEntry.source?, List.filterMap_cons, hcomponent] using hrest

/-- The entries of a node are those of the sockets that its component declares. -/
theorem nodeEntries_eq_map (registry : Registry) (node : NodeId) (info : NodeInfo) :
    nodeEntries registry node info =
      (Declaration.ofNode registry node info).map fun d => indexEntry d.node d.component d.socket := by
  rw [nodeEntries, Declaration.ofNode]
  cases registry.get? info.component with
  | none => rfl
  | some c =>
    have hsockets : c.sockets.filter Socket.exposed = (c.sockets.zipIdx.filter (·.1.exposed)).map Prod.fst := by
      conv_lhs => rw [← List.zipIdx_map_fst 0 c.sockets, List.filter_map]
      rfl
    dsimp only
    rw [hsockets, List.map_map, List.map_map]
    rfl

theorem indexExposed_eq_foldl (b : Builder) : b.indexExposed registry =
    ((Declaration.all registry b.tables.executable).map fun d =>
      indexEntry d.node d.component d.socket).foldl addEntry b := by
  rw [indexExposed, Declaration.all, List.map_flatMap]
  simp only [nodeEntries_eq_map]

/-! The index of a builder that has none yet. -/

/-- What a list of declarations is mapped to if only some of them count. -/
theorem filterMap_eq_map_filter {β : Type} {f : Declaration → Option β} {counts : Declaration → Bool}
    {g : Declaration → β} (h : ∀ d, f d = if counts d then some (g d) else none) (ds : List Declaration) :
    ds.filterMap f = (ds.filter counts).map g := by
  rw [← List.filterMap_eq_map, List.filterMap_filter]
  exact List.filterMap_congr fun d _ => h d

/-- Under a key stands the last of the declarations that are requested by it. -/
theorem sockets_indexExposed {b : Builder} (hb : b.tables.exposed = .empty) (key : String) :
    (b.indexExposed registry).tables.exposed.sockets.get? key =
      (Declaration.requestedBy registry b.tables.executable key).getLast?.map Declaration.exposedSocket := by
  have hempty : b.tables.exposed.sockets.get? key = none := by rw [hb]; rfl
  rw [indexExposed_eq_foldl, sockets_foldl_addEntry, hempty, Option.or_none, List.filterMap_map,
    filterMap_eq_map_filter, List.getLast?_map]
  · rfl
  · intro d
    rw [Function.comp, indexEntry, Declaration.isSource]
    cases d.socket.isOutput && d.socket.isSignal
    · by_cases hkey : d.key = key <;> simp_all [IndexEntry.socket?, Declaration.key, Declaration.exposedSocket]
    · rfl

theorem sockets_indexExposed_eq_some_iff {b : Builder} (hb : b.tables.exposed = .empty) {key : String}
    {s : ExposedSocket} : (b.indexExposed registry).tables.exposed.sockets.get? key = some s ↔
      ∃ d : Declaration, d.RequestedBy registry b.tables.executable key ∧
        (∀ d' : Declaration, d'.RequestedBy registry b.tables.executable key → d' = d ∨ d'.Before d) ∧
        d.exposedSocket = s := by
  rw [sockets_indexExposed hb, Option.map_eq_some_iff]
  refine exists_congr fun d => ?_
  rw [getLast?_eq_some_iff_of_pairwise Declaration.Before.asymm (Declaration.pairwise_requestedBy _ _ key)]
  simp only [Declaration.mem_requestedBy, and_assoc]

theorem isSome_sockets_indexExposed {b : Builder} (hb : b.tables.exposed = .empty) (key : String) :
    ((b.indexExposed registry).tables.exposed.sockets.get? key).isSome ↔
      ∃ d : Declaration, d.RequestedBy registry b.tables.executable key := by
  rw [sockets_indexExposed hb, Option.isSome_map, List.getLast?_isSome]
  simp only [← Declaration.mem_requestedBy]
  exact ⟨List.exists_mem_of_ne_nil _, fun ⟨_, hd⟩ => List.ne_nil_of_mem hd⟩

theorem triggerNodes_indexExposed {b : Builder} (hb : b.tables.exposed = .empty) (component socket : String) :
    (b.indexExposed registry).tables.exposed.triggerNodes component socket =
      (Declaration.sourcesFor registry b.tables.executable component socket).map Declaration.node := by
  have hempty : b.tables.exposed.ListsSources component [] := by
    rw [hb]
    exact ⟨by simp [ExposedIndex.empty], fun _ => rfl⟩
  rw [indexExposed_eq_foldl, ExposedIndex.triggerNodes, (listsSources_foldl_addEntry hempty _).listed,
    Table.getD_listing?, List.nil_append, Table.listedAt, List.filterMap_map, List.filterMap_filterMap,
    filterMap_eq_map_filter]
  · rfl
  · intro d
    rw [Function.comp, indexEntry, Declaration.isSource]
    cases d.socket.isOutput && d.socket.isSignal
    · rfl
    · by_cases hcomponent : d.component = component <;> simp [IndexEntry.source?, hcomponent]

/-- Calls that do not add to the index leave it as it is. -/
theorem exposed_foldl_apply (hcalls : ∀ call ∈ calls, call.indexes = false) (b : Builder) :
    (calls.foldl (apply registry) b).tables.exposed = b.tables.exposed := by
  induction calls generalizing b with
  | nil => rfl
  | cons call rest ih =>
    obtain ⟨hcall, hrest⟩ := List.forall_mem_cons.1 hcalls
    refine (ih hrest _).trans ?_
    cases call with
    | expose | trigger | indexExposed => exact nomatch hcall
    | _ => rfl

/-- The index depends on the nodes alone. -/
theorem exposed_indexExposed {b b' : Builder} (h : b.tables.exposed = b'.tables.exposed)
    (hnodes : b.tables.executable.nodes = b'.tables.executable.nodes) :
    (b.indexExposed registry).tables.exposed = (b'.indexExposed registry).tables.exposed := by
  rw [indexExposed, indexExposed, hnodes]
  generalize List.flatMap _ _ = entries
  induction entries generalizing b b' with
  | nil => exact h
  | cons entry rest ih =>
    refine ih ?_ ?_
    · cases entry <;> simp [addEntry, trigger, changeExposed, h]
    · simpa [executable_addEntry] using hnodes

/-- After one indexing a key has an entry exactly if some exposed socket is requested by it, and the entry
is that of the last one in ascending order; the sources for a socket are the nodes of the outputs of signals
of this name, each output once, in ascending order; nodes without a registered component are in no entry, and
it does not matter in which order distinct nodes were added. -/
theorem index_of_declarations (registry : Registry) (calls : List BuildCall)
    (hcalls : ∀ call ∈ calls, call.indexes = false) :
    let b := calls.foldl (apply registry) start
    let x := b.tables.executable
    let index := (b.indexExposed registry).tables.exposed
    (∀ key, (index.sockets.get? key).isSome ↔ ∃ d : Declaration, d.RequestedBy registry x key) ∧
    (∀ key s, index.sockets.get? key = some s ↔ ∃ d : Declaration, d.RequestedBy registry x key ∧
      (∀ d' : Declaration, d'.RequestedBy registry x key → d' = d ∨ d'.Before d) ∧ d.exposedSocket = s) ∧
    (∀ component socket, ∃ ds : List Declaration,
      index.triggerNodes component socket = ds.map Declaration.node ∧ ds.Pairwise Declaration.Before ∧
        ∀ d, d ∈ ds ↔ d.SourceFor registry x component socket) ∧
    (∀ node info, x.node? node = some info → registry.get? info.component = none →
      (∀ key s, index.sockets.get? key = some s → s.node ≠ node) ∧
        ∀ component socket, node ∉ index.triggerNodes component socket) ∧
    ∀ calls' : List BuildCall, (∀ call ∈ calls', call.indexes = false) →
      (calls'.filterMap BuildCall.added?).Perm (calls.filterMap BuildCall.added?) →
      ((calls.filterMap BuildCall.added?).map Prod.fst).Nodup →
      ((calls'.foldl (apply registry) start).indexExposed registry).tables.exposed = index := by
  intro b x index
  have hempty : b.tables.exposed = .empty := exposed_foldl_apply hcalls start
  refine ⟨isSome_sockets_indexExposed hempty, fun key s => sockets_indexExposed_eq_some_iff hempty,
    fun component socket => ⟨_, triggerNodes_indexExposed hempty component socket,
      Declaration.pairwise_sourcesFor _ _ component socket, fun d => Declaration.mem_sourcesFor⟩,
    fun node info hnode hcomponent => ⟨fun key s hs => ?_, fun component socket hmem => ?_⟩,
    fun calls' hcalls' hperm hnodup => ?_⟩
  · obtain ⟨d, hd, -, rfl⟩ := (sockets_indexExposed_eq_some_iff hempty).1 hs
    exact hd.1.ne_node hnode hcomponent
  · rw [triggerNodes_indexExposed hempty] at hmem
    obtain ⟨d, hd, rfl⟩ := List.mem_map.1 hmem
    exact (Declaration.mem_sourcesFor.1 hd).1.ne_node hnode hcomponent rfl
  · refine exposed_indexExposed ((exposed_foldl_apply hcalls' start).trans hempty.symm) ?_
    rw [nodes_foldl_apply, nodes_foldl_apply, Table.ofList_perm hperm.symm hnodup]

/-- Components with an input of signals and a value on one name, and with two outputs of signals on one name.
-/
def indexRegistry : Registry := .ofComponents
  [⟨"IN", [⟨"go", signalType, .output, true, false, none⟩, ⟨"go", signalType, .output, true, false, none⟩],
    none, none⟩,
    ⟨"OUT", [⟨"go", signalType, .input, true, false, none⟩, ⟨"go", "Any", .output, true, false, none⟩,
      ⟨"hidden", "Any", .input, false, false, none⟩], none, none⟩]

/-- Calls that add two sources in descending order, a node of the other component, and one of none. -/
def indexCalls : List BuildCall :=
  [.node "b" "IN" .null, .node "orphan" "LOST" .null, .node "out" "OUT" .null, .node "a" "IN" .null]

theorem index_of_declarations_indexCalls :
    (∀ call ∈ indexCalls, call.indexes = false) ∧
      (let index := ((indexCalls.foldl (apply indexRegistry) start).indexExposed indexRegistry).tables.exposed
      index.sockets.get? "out:go" = some ⟨"out", "go", "Any", "OUT"⟩ ∧
        (index.sockets.get? "out:hidden").isSome = false ∧
        index.triggerNodes "IN" "go" = ["a", "a", "b", "b"] ∧
        ((indexCalls.reverse.foldl (apply indexRegistry) start).indexExposed indexRegistry).tables.exposed =
          index) := by
  have hcalls : ∀ call ∈ indexCalls, call.indexes = false := by decide
  obtain ⟨-, -, -, -, horder⟩ := index_of_declarations indexRegistry indexCalls hcalls
  refine ⟨hcalls, by decide +kernel, by decide +kernel, by decide +kernel, ?_⟩
  exact horder indexCalls.reverse (by decide) (by decide +kernel) (by decide +kernel)

end Builder
end SocketGraph
