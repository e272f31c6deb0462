import Mathlib.Data.List.Induction
import SocketGraph.Proofs.Keys

/-! What a sequence of calls lays out. A node is the one added last under its identifier, edges and signal
sources are listed in the order of the calls, and the pairings of a gateway are gathered from all calls,
made before or after the gateway is added, into one attribute. -/
namespace SocketGraph

namespace Table
variable {α : Type}

/-- What a list of entries has at a key, in order. -/
def listedAt (key : String) (entries : List (String × α)) : List α :=
  entries.filterMap fun e => if e.1 = key then some e.2 else none

theorem mem_listedAt {key : String} {entries : List (String × α)} {a : α} :
    a ∈ listedAt key entries ↔ (key, a) ∈ entries := by
  simp [listedAt, Prod.exists]

theorem listedAt_concat (key : String) (entries : List (String × α)) (e : String × α) :
    listedAt key (entries ++ [e]) = listedAt key entries ++ if e.1 = key then [e.2] else [] := by
  rw [listedAt, List.filterMap_append]
  split_ifs with hkey <;> simp [hkey, listedAt]

theorem ofList_concat (entries : List (String × α)) (e : String × α) :
    ofList (entries ++ [e]) = (ofList entries).insert e.1 e.2 := by
  rw [ofList, List.foldl_append]
  rfl

/-- A table made of a list has the last value of each key. -/
theorem get?_ofList (entries : List (String × α)) (key : String) :
    (ofList entries).get? key = (listedAt key entries).getLast? := by
  induction entries using List.reverseRecOn with
  | nil => rfl
  | append_singleton entries e ih =>
    rw [ofList_concat, get?_insert, ih, listedAt_concat]
    by_cases hkey : e.1 = key
    · simp [hkey]
    · simp [hkey, Ne.symm hkey]

theorem get?_modifyD (t : Table α) (key key' : String) (default : α) (f : α → α) :
    (t.modifyD key default f).get? key' =
      if key' = key then some (f ((t.get? key).getD default)) else t.get? key' :=
  get?_insert t key key' _

/-- What a table holds at a key that some things are listed under. -/
def listing? : List α → Option (List α)
  | [] => none
  | listed => some listed

@[simp] theorem listing?_concat (listed : List α) (a : α) :
    listing? (listed ++ [a]) = some (listed ++ [a]) := by
  cases listed <;> rfl

@[simp] theorem getD_listing? (listed : List α) : (listing? listed).getD [] = listed := by
  cases listed <;> rfl

/-- What is added at a key comes after what is listed there. -/
theorem get?_modifyD_append {t : Table (List α)} {key : String} {listed : List α}
    (h : t.get? key = listing? listed) (key' : String) (a : α) :
    (t.modifyD key' [] (· ++ [a])).get? key = listing? (listed ++ if key' = key then [a] else []) := by
  rw [Table.get?_modifyD]
  by_cases hkey : key' = key
  · subst hkey
    simp [h]
  · simp [hkey, Ne.symm hkey, h]

end Table

/-- The signal sources of a component are listed by their sockets, if there are any. -/
structure ExposedIndex.ListsSources (x : ExposedIndex) (component : String)
    (sources : List (String × NodeId)) : Prop where
  some_iff : (x.triggers.get? component).isSome ↔ sources ≠ []
  listed (socket : String) : (x.triggers.get? component).bind (·.get? socket) =
    Table.listing? (Table.listedAt socket sources)

namespace BuildCall

/-- The node that a call adds, with its identifier. -/
def added? : BuildCall → Option (NodeId × NodeInfo)
  | .node id component attributes => some (id, ⟨component, Builder.attributesOf attributes⟩)
  | _ => none

/-- The socket of a gateway that a call pairs, with its target. -/
def paired? (gateway : NodeId) : BuildCall → Option (String × Link)
  | .pair gateway' socket target => if gateway' = gateway then some (socket, target) else none
  | _ => none

/-- The socket of a component that a call adds a signal source to, with that source. -/
def source? (component : String) : BuildCall → Option (String × NodeId)
  | .trigger component' socket source =>
    if component' = component then some (socket, source) else none
  | _ => none

/-- Whether a call pairs a socket of a gateway that is none of the nodes added by some calls. -/
def isLost (calls : List BuildCall) : BuildCall → Bool
  | .pair gateway _ _ => (Table.listedAt gateway (calls.filterMap added?)).isEmpty
  | _ => false

end BuildCall

namespace Builder

variable {registry : Registry} {calls : List BuildCall}

/-- What holds before any call, and is kept by each call together with what the call adds to a list,
holds after all calls with all that they add. -/
theorem holds_foldl_apply {α : Type} (Holds : Builder → List α → Prop) {added? : BuildCall → Option α}
    (hstart : Holds start []) (hstep : ∀ call ∈ calls, ∀ b listed, Holds b listed →
      Holds (b.apply registry call) ((added? call).elim listed fun a => listed ++ [a])) :
    Holds (calls.foldl (apply registry) start) (calls.filterMap added?) := by
  induction calls using List.reverseRecOn with
  | nil => exact hstart
  | append_singleton calls call ih =>
    have hcalls := ih fun c hc => hstep c (List.mem_append_left _ hc)
    have hcall := hstep call (List.mem_append_right _ List.mem_cons_self) _ _ hcalls
    rw [List.foldl_append, List.filterMap_append, List.filterMap_cons]
    cases h : added? call <;> simpa [h] using hcall

/-! Nodes and edges. -/

/-- The nodes are those added, the last one of each identifier. -/
theorem nodes_foldl_apply (calls : List BuildCall) :
    (calls.foldl (apply registry) start).tables.executable.nodes =
      Table.ofList (calls.filterMap BuildCall.added?) := by
  refine holds_foldl_apply (fun b added => b.tables.executable.nodes = .ofList added) rfl
    fun call _ b added h => ?_
  cases call with
  | node id component attributes =>
    rw [BuildCall.added?, Option.elim_some, Table.ofList_concat, ← h]
    rfl
  | indexExposed =>
    rw [apply, indexExposed, executable_foldl_addEntry]
    exact h
  | _ => exact h

theorem valueEdges_foldl_apply (calls : List BuildCall) (key : String) :
    (calls.foldl (apply registry) start).tables.executable.valueEdges.get? key =
      Table.listing? (calls.filterMap (BuildCall.producer? (·.key = key))) := by
  refine holds_foldl_apply
    (fun b listed => b.tables.executable.valueEdges.get? key = Table.listing? listed) rfl
    fun call _ b listed h => ?_
  cases call with
  | connect producer consumer =>
    refine (Table.get?_modifyD_append h consumer.key producer).trans ?_
    by_cases hkey : consumer.key = key <;> simp [BuildCall.producer?, hkey]
  | indexExposed =>
    rw [apply, indexExposed, executable_foldl_addEntry]
    exact h
  | _ => exact h

theorem signalEdges_foldl_apply (calls : List BuildCall) (key : String) :
    (calls.foldl (apply registry) start).tables.executable.signalEdges.get? key =
      Table.listing? (calls.filterMap (BuildCall.consumer? (·.key = key))) := by
  refine holds_foldl_apply
    (fun b listed => b.tables.executable.signalEdges.get? key = Table.listing? listed) rfl
    fun call _ b listed h => ?_
  cases call with
  | connectSignal producer consumer =>
    refine (Table.get?_modifyD_append h producer.key consumer).trans ?_
    by_cases hkey : producer.key = key <;> simp [BuildCall.consumer?, hkey]
  | indexExposed =>
    rw [apply, indexExposed, executable_foldl_addEntry]
    exact h
  | _ => exact h

/-! Signal sources. -/

theorem listsSources_trigger {b : Builder} {component : String} {sources : List (String × NodeId)}
    (h : b.tables.exposed.ListsSources component sources) (component' socket' : String) (source : NodeId) :
    (b.trigger component' socket' source).tables.exposed.ListsSources component
      (sources ++ if component' = component then [(socket', source)] else []) := by
  have hget : (b.trigger component' socket' source).tables.exposed.triggers.get? component = _ :=
    Table.get?_modifyD b.tables.exposed.triggers component' component .empty _
  by_cases hcomponent : component' = component
  · subst hcomponent
    rw [if_pos rfl] at hget
    refine ⟨by simp [hget], fun socket => ?_⟩
    have hlisted : ((b.tables.exposed.triggers.get? component').getD .empty).get? socket =
        Table.listing? (Table.listedAt socket sources) := by
      rw [← h.listed]
      cases b.tables.exposed.triggers.get? component' <;> rfl
    rw [hget, if_pos rfl, Table.listedAt_concat]
    exact Table.get?_modifyD_append hlisted socket' source
  · rw [if_neg (Ne.symm hcomponent)] at hget
    rw [if_neg hcomponent, List.append_nil]
    exact ⟨hget ▸ h.some_iff, fun socket => hget ▸ h.listed socket⟩

theorem listsSources_foldl_apply (hcalls : .indexExposed ∉ calls) (component : String) :
    (calls.foldl (apply registry) start).tables.exposed.ListsSources component
      (calls.filterMap (BuildCall.source? component)) := by
  refine holds_foldl_apply (fun b sources => b.tables.exposed.ListsSources component sources)
    ⟨by simp [start, Tables.empty, ExposedIndex.empty], fun _ => rfl⟩ fun call hcall b sources h => ?_
  cases call with
  | trigger component' socket source =>
    have hadd : (b.apply registry (.trigger component' socket source)).tables.exposed.ListsSources
        component _ := listsSources_trigger h component' socket source
    by_cases hcomponent : component' = component <;> simpa [BuildCall.source?, hcomponent] using hadd
  | indexExposed => exact absurd hcall hcalls
  | _ => exact ⟨h.some_iff, h.listed⟩

/-! Pairings. -/

theorem pairings_foldl_addEntry (entries : List IndexEntry) (b : Builder) :
    (entries.foldl addEntry b).pairings = b.pairings := by
  induction entries generalizing b with
  | nil => rfl
  | cons entry rest ih =>
    refine (ih _).trans ?_
    cases entry <;> rfl

theorem pairings_foldl_apply (calls : List BuildCall) (gateway : NodeId) :
    (calls.foldl (apply registry) start).pairings.get? gateway =
      (Table.listing? (calls.filterMap (BuildCall.paired? gateway))).map Table.ofList := by
  refine holds_foldl_apply
    (fun b listed => b.pairings.get? gateway = (Table.listing? listed).map Table.ofList) rfl
    fun call _ b listed h => ?_
  cases call with
  | pair gateway' socket target =>
    refine (Table.get?_modifyD _ gateway' gateway _ _).trans ?_
    by_cases hgateway : gateway' = gateway
    · subst hgateway
      have hlisted : (b.pairings.get? gateway').getD .empty = Table.ofList listed := by
        rw [h]
        cases listed <;> rfl
      simp [BuildCall.paired?, hlisted, Table.ofList_concat]
    · rw [BuildCall.paired?, if_neg hgateway, if_neg (Ne.symm hgateway)]
      exact h
  | indexExposed =>
    rw [apply, indexExposed, pairings_foldl_addEntry]
    exact h
  | _ => exact h

/-- A node with the pairings that were made of its sockets, the last one of each socket. Without any it is
left as it is. -/
def withPairings (info : NodeInfo) : List (String × Link) → NodeInfo
  | [] => info
  | pairs =>
    { info with
      attributes := info.attributes.insert Gateway.pairingAttribute (pairingValue (.ofList pairs)) }

theorem get?_attach (nodes : Table NodeInfo) (e : NodeId × Pairings) (id : NodeId) :
    (attach nodes e).get? id = (nodes.get? id).map fun info =>
      if e.1 = id then
        { info with attributes := info.attributes.insert Gateway.pairingAttribute (pairingValue e.2) }
      else info := by
  rw [attach]
  by_cases hid : e.1 = id
  · subst hid
    cases h : nodes.get? e.1 <;> simp [h]
  · cases h : nodes.get? e.1 <;> simp [hid, Ne.symm hid, Table.get?_insert]

/-- Every node is given the pairings that stand under its identifier. -/
theorem get?_foldl_attach {entries : List (NodeId × Pairings)}
    (h : entries.Pairwise (fun a b => a.1 < b.1)) (nodes : Table NodeInfo) (id : NodeId) :
    (entries.foldl attach nodes).get? id = (nodes.get? id).map fun info =>
      (Table.lookup id entries).elim info fun p =>
        { info with attributes := info.attributes.insert Gateway.pairingAttribute (pairingValue p) } := by
  induction entries generalizing nodes with
  | nil => simp [Table.lookup]
  | cons e rest ih =>
    obtain ⟨he, hrest⟩ := List.pairwise_cons.1 h
    rw [List.foldl_cons, ih hrest, get?_attach, Option.map_map]
    congr 1
    funext info
    by_cases hid : e.1 = id
    · subst hid
      simp [Table.lookup, Table.lookup_eq_none he]
    · simp [Table.lookup, hid]

/-- A node of the finished tables is the one added last, with the pairings of all calls. -/
theorem node?_run_eq (calls : List BuildCall) (id : NodeId) : (run registry calls).executable.node? id =
    (Table.listedAt id (calls.filterMap BuildCall.added?)).getLast?.map
      (withPairings · (calls.filterMap (BuildCall.paired? id))) := by
  let b := calls.foldl (apply registry) start
  have hbuilt : (run registry calls).executable.node? id = _ :=
    get?_foldl_attach b.pairings.ascending b.tables.executable.nodes id
  have hnodes : b.tables.executable.nodes = _ := nodes_foldl_apply calls
  have hpairings : Table.lookup id b.pairings.entries = _ := pairings_foldl_apply calls id
  rw [hbuilt, hnodes, hpairings, Table.get?_ofList]
  cases calls.filterMap (BuildCall.paired? id) <;> rfl

/-! Pairings of nodes that are never added. -/

theorem tables_addEntry {b b' : Builder} (h : b.tables = b'.tables) (entry : IndexEntry) :
    (b.addEntry entry).tables = (b'.addEntry entry).tables := by
  cases entry <;> simp [addEntry, trigger, changeExposed, h]

theorem tables_foldl_addEntry (entries : List IndexEntry) {b b' : Builder} (h : b.tables = b'.tables) :
    (entries.foldl addEntry b).tables = (entries.foldl addEntry b').tables := by
  induction entries generalizing b b' with
  | nil => exact h
  | cons entry rest ih => exact ih (tables_addEntry h entry)

/-- What a call makes of the tables does not depend on the pairings made before. -/
theorem tables_apply {b b' : Builder} (h : b.tables = b'.tables) (call : BuildCall) :
    (b.apply registry call).tables = (b'.apply registry call).tables := by
  cases call with
  | indexExposed =>
    simp only [apply, indexExposed, h]
    exact tables_foldl_addEntry _ h
  | _ => simp [apply, node, connect, connectSignal, pair, expose, trigger, changeExecutable, changeExposed, h]

theorem tables_foldl_filter {keeps : BuildCall → Bool}
    (hkeeps : ∀ call, keeps call = false → ∃ gateway socket target, call = .pair gateway socket target)
    (calls : List BuildCall) {b b' : Builder} (h : b.tables = b'.tables) :
    ((calls.filter keeps).foldl (apply registry) b).tables = (calls.foldl (apply registry) b').tables := by
  induction calls generalizing b b' with
  | nil => exact h
  | cons call rest ih =>
    rw [List.filter_cons]
    cases hcall : keeps call with
    | true => exact ih (tables_apply h call)
    | false =>
      obtain ⟨gateway, socket, target, rfl⟩ := hkeeps call hcall
      exact ih h

/-- What is left out adds nothing to a list. -/
theorem filterMap_filter_of_none {α : Type} {keeps : BuildCall → Bool} {added? : BuildCall → Option α}
    (h : ∀ call, keeps call = false → added? call = none) (calls : List BuildCall) :
    (calls.filter keeps).filterMap added? = calls.filterMap added? := by
  rw [List.filterMap_filter]
  refine List.filterMap_congr fun call _ => ?_
  cases hcall : keeps call with
  | true => simp
  | false => simp [h call hcall]

theorem isLost_iff {call : BuildCall} : call.isLost calls = true ↔ ∃ gateway socket target,
    call = .pair gateway socket target ∧ Table.listedAt gateway (calls.filterMap BuildCall.added?) = [] := by
  cases call <;> simp [BuildCall.isLost]

/-- Pairings of a gateway that is never added leave the finished tables as they are without them. -/
theorem run_filter_isLost (calls : List BuildCall) :
    run registry (calls.filter fun call => !call.isLost calls) = run registry calls := by
  have hlost : ∀ call : BuildCall, (!call.isLost calls) = false → ∃ gateway socket target,
      call = .pair gateway socket target ∧ Table.listedAt gateway (calls.filterMap BuildCall.added?) = [] :=
    fun call h => isLost_iff.1 (by simpa using h)
  have htables : ((calls.filter fun call => !call.isLost calls).foldl (apply registry) start).tables =
      (calls.foldl (apply registry) start).tables := by
    refine tables_foldl_filter (fun call h => ?_) calls rfl
    obtain ⟨gateway, socket, target, hcall, -⟩ := hlost call h
    exact ⟨gateway, socket, target, hcall⟩
  have hnodes : (run registry (calls.filter fun call => !call.isLost calls)).executable.nodes =
      (run registry calls).executable.nodes := by
    refine Table.ext_get? fun id => (node?_run_eq _ id).trans (Eq.trans ?_ (node?_run_eq calls id).symm)
    have hadded : (calls.filter fun call => !call.isLost calls).filterMap BuildCall.added? =
        calls.filterMap BuildCall.added? := by
      refine filterMap_filter_of_none (fun call h => ?_) calls
      obtain ⟨gateway, socket, target, rfl, -⟩ := hlost call h
      rfl
    rw [hadded]
    cases hlisted : Table.listedAt id (calls.filterMap BuildCall.added?) with
    | nil => rfl
    | cons info rest =>
      -- a node that is added keeps all of its pairings
      rw [filterMap_filter_of_none (fun call h => ?_) calls]
      obtain ⟨gateway, socket, target, rfl, hgateway⟩ := hlost call h
      refine if_neg ?_
      rintro rfl
      exact List.cons_ne_nil _ _ (hlisted.symm.trans hgateway)
  have hrun (calls : List BuildCall) : run registry calls =
      { (calls.foldl (apply registry) start).tables with
        executable.nodes := (run registry calls).executable.nodes } := rfl
  rw [hrun (calls.filter _), htables, hnodes]
  rfl

/-- The attribute of the pairings holds the last target of each socket. -/
theorem get?_withPairings (info : NodeInfo) {pairs : List (String × Link)} (h : pairs ≠ []) :
    ∃ p : Pairings, (withPairings info pairs).attributes.get? Gateway.pairingAttribute =
        some (pairingValue p) ∧
      ∀ socket, p.get? socket = (Table.listedAt socket pairs).getLast? := by
  refine ⟨.ofList pairs, ?_, Table.get?_ofList pairs⟩
  cases pairs with
  | nil => exact absurd rfl h
  | cons pair rest => exact Table.get?_insert_self _ _ _

theorem isSome_node?_run (calls : List BuildCall) (id : NodeId) :
    ((run registry calls).executable.node? id).isSome ↔
      ∃ component attributes, .node id component attributes ∈ calls := by
  rw [node?_run_eq, Option.isSome_map, List.getLast?_isSome]
  constructor
  · intro h
    obtain ⟨info, hinfo⟩ := List.exists_mem_of_ne_nil _ h
    obtain ⟨call, hcall, hadded⟩ := List.mem_filterMap.1 (Table.mem_listedAt.1 hinfo)
    cases call with
    | node id' component attributes =>
      obtain ⟨rfl, -⟩ := Prod.mk.inj (Option.some.inj hadded)
      exact ⟨component, attributes, hcall⟩
    | _ => exact nomatch hadded
  · rintro ⟨component, attributes, hcall⟩
    exact List.ne_nil_of_mem (Table.mem_listedAt.2 (List.mem_filterMap.2 ⟨_, hcall, rfl⟩))

/-- Calls lay out what they say, and nothing else: under each identifier the node added last, with the
pairings of all calls for it in place of any attribute of that name; at each key the edges whose socket has
it, and for each socket of a component its signal sources, in the order of the calls. -/
theorem run_lays_out (registry : Registry) (calls : List BuildCall) (hcalls : .indexExposed ∉ calls) :
    (∀ id, (run registry calls).executable.node? id =
      (Table.listedAt id (calls.filterMap BuildCall.added?)).getLast?.map
        (withPairings · (calls.filterMap (BuildCall.paired? id)))) ∧
    (∀ id, ((run registry calls).executable.node? id).isSome ↔
      ∃ component attributes, .node id component attributes ∈ calls) ∧
    (∀ id info, (run registry calls).executable.node? id = some info →
      calls.filterMap (BuildCall.paired? id) ≠ [] →
      ∃ p : Pairings, info.attributes.get? Gateway.pairingAttribute = some (pairingValue p) ∧
        ∀ socket, p.get? socket =
          (Table.listedAt socket (calls.filterMap (BuildCall.paired? id))).getLast?) ∧
    (∀ key, (run registry calls).executable.valueEdges.get? key =
      Table.listing? (calls.filterMap (BuildCall.producer? (·.key = key)))) ∧
    (∀ key, (run registry calls).executable.signalEdges.get? key =
      Table.listing? (calls.filterMap (BuildCall.consumer? (·.key = key)))) ∧
    (∀ component, (run registry calls).exposed.ListsSources component
      (calls.filterMap (BuildCall.source? component))) ∧
    run registry (calls.filter fun call => !call.isLost calls) = run registry calls := by
  refine ⟨node?_run_eq calls, isSome_node?_run calls, fun id info hinfo hpairs => ?_,
    valueEdges_foldl_apply calls, signalEdges_foldl_apply calls, listsSources_foldl_apply hcalls,
    run_filter_isLost calls⟩
  rw [node?_run_eq] at hinfo
  obtain ⟨added, -, rfl⟩ := Option.map_eq_some_iff.1 hinfo
  exact get?_withPairings added hpairs

/-- Calls that pair a gateway before and after they add it, and one that is never added. -/
def gatewayCalls : List BuildCall :=
  [.pair "g" "o" ⟨"n", "a"⟩, .node "g" Gateway.name (.object [("gw", .null), ("k", .bool true)]),
    .pair "g" "o" ⟨"n", "r"⟩, .node "n" "N" .null, .pair "ghost" "o" ⟨"n", "r"⟩,
    .connect ⟨"n", "r"⟩ ⟨"m", "x"⟩, .trigger "N" "go" "n", .connect ⟨"g", "o"⟩ ⟨"m", "x"⟩,
    .trigger "N" "go" "g"]

theorem run_lays_out_gatewayCalls :
    .indexExposed ∉ gatewayCalls ∧
      (run .empty gatewayCalls).executable.node? "g" = some ⟨Gateway.name, .ofList
        [("gw", .object [("o", .object [("dk", .string "r"), ("dn", .string "n")])]), ("k", .bool true)]⟩ ∧
      (run .empty gatewayCalls).executable.node? "ghost" = none ∧
      (run .empty gatewayCalls).executable.valueEdges.get? "m:x" = some [⟨"n", "r"⟩, ⟨"g", "o"⟩] ∧
      ((run .empty gatewayCalls).exposed.triggers.get? "N").bind (·.get? "go") = some ["n", "g"] := by
  have hcalls : .indexExposed ∉ gatewayCalls := by simp [gatewayCalls]
  obtain ⟨hnode, -, -, hvalues, -, hsources, -⟩ := run_lays_out .empty gatewayCalls hcalls
  refine ⟨hcalls, (hnode "g").trans (by decide +kernel), (hnode "ghost").trans (by decide +kernel),
    (hvalues "m:x").trans (by decide +kernel), ((hsources "N").listed "go").trans (by decide +kernel)⟩

end Builder
end SocketGraph
