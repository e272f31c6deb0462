import SocketGraph.Proofs.Keys
import SocketGraph.Proofs.Passing

/-! The limit of the nesting is exact. Without linked scenes nothing is refused as long as the paths of
producers are shorter than the limit; chains of any length, laid out call by call, show that nothing more
can be promised. -/
namespace SocketGraph

theorem Registry.get?_registerAll_of_not_mem {cs : List Component} {name : String}
    (h : name ∉ cs.map Component.name) (r : Registry) : (r.registerAll cs).get? name = r.get? name := by
  induction cs generalizing r with
  | nil => rfl
  | cons c cs ih =>
    obtain ⟨hname, hrest⟩ := not_or.1 (mt List.mem_cons.2 h)
    exact (ih hrest _).trans ((Table.get?_insert ..).trans (if_neg hname))

theorem Registry.get?_registerAll {cs : List Component} (hnames : (cs.map Component.name).Nodup) {c : Component}
    (hc : c ∈ cs) (r : Registry) : (r.registerAll cs).get? c.name = some c := by
  induction cs generalizing r with
  | nil => exact nomatch hc
  | cons c' cs ih =>
    obtain ⟨hfirst, hrest⟩ := List.nodup_cons.1 hnames
    rcases List.mem_cons.1 hc with rfl | hc
    · exact (get?_registerAll_of_not_mem hfirst _).trans (get?_register_self r c)
    · exact ih hrest hc _

/-- A component is found in the registry that it is listed for, if no other one has its name. -/
theorem Registry.get?_ofComponents {cs : List Component} (hnames : (cs.map Component.name).Nodup) {c : Component}
    (hc : c ∈ cs) : (ofComponents cs).get? c.name = some c := get?_registerAll hnames hc .empty

/-- Two sockets without colons in their names have one key only if they are one. -/
theorem Link.key_inj {node node' : NodeId} {socket socket' : String} (h : ':' ∉ socket.toList)
    (h' : ':' ∉ socket'.toList) : Link.key ⟨node, socket⟩ = Link.key ⟨node', socket'⟩ ↔ node = node' ∧ socket = socket' := by
  rw [Link.key_eq_iff, Link.mk.injEq, or_iff_left]
  exact not_or.2 ⟨Link.not_overlaps h _, Link.not_overlaps h' _⟩

namespace Builder

variable {registry : Registry} {calls : List BuildCall}

/-- Only calls for nodes change the nodes. -/
theorem nodes_apply (b : Builder) (call : BuildCall) : (b.apply registry call).tables.executable.nodes =
    match call with
    | .node id component attributes => b.tables.executable.nodes.insert id ⟨component, attributesOf attributes⟩
    | _ => b.tables.executable.nodes := by
  cases call with
  | indexExposed => rw [apply, indexExposed, executable_foldl_addEntry]
  | _ => rfl

theorem pairings_apply (b : Builder) {call : BuildCall} (hcall : ∀ gateway socket target, call ≠ .pair gateway socket target) :
    (b.apply registry call).pairings = b.pairings := by
  have hentries (entries : List IndexEntry) (b : Builder) : (entries.foldl addEntry b).pairings = b.pairings := by
    induction entries generalizing b with
    | nil => rfl
    | cons entry rest ih => exact (ih _).trans (by cases entry <;> rfl)
  cases call with
  | pair gateway socket target => exact absurd rfl (hcall gateway socket target)
  | indexExposed => exact hentries _ b
  | _ => rfl

/-- A node is what it was laid out as, if it was always laid out alike. -/
theorem node?_foldl {id : NodeId} {component : String} {attributes : Value}
    (honly : ∀ component' attributes', .node id component' attributes' ∈ calls →
      component' = component ∧ attributes' = attributes) (b : Builder)
    (h : .node id component attributes ∈ calls ∨
      b.tables.executable.node? id = some ⟨component, attributesOf attributes⟩) :
    (calls.foldl (apply registry) b).tables.executable.node? id = some ⟨component, attributesOf attributes⟩ := by
  induction calls generalizing b with
  | nil => exact h.resolve_left List.not_mem_nil
  | cons call rest ih =>
    refine ih (fun c a hmem => honly c a (List.mem_cons_of_mem _ hmem)) _ ?_
    by_cases hrest : .node id component attributes ∈ rest
    · exact .inl hrest
    · refine .inr ?_
      rw [Executable.node?, nodes_apply]
      cases call with
      | node id' component' attributes' =>
        by_cases hid : id = id'
        · subst hid
          obtain ⟨rfl, rfl⟩ := honly component' attributes' List.mem_cons_self
          exact Table.get?_insert_self ..
        · rw [Table.get?_insert, if_neg hid]
          exact h.resolve_left (by simp [hrest, hid])
      | _ => exact h.resolve_left (by simp [hrest])

theorem pairings_foldl (hcalls : ∀ gateway socket target, .pair gateway socket target ∉ calls) (b : Builder) :
    (calls.foldl (apply registry) b).pairings = b.pairings := by
  induction calls generalizing b with
  | nil => rfl
  | cons call rest ih =>
    rw [List.foldl_cons, ih fun g s t hmem => hcalls g s t (List.mem_cons_of_mem _ hmem)]
    exact pairings_apply b fun g s t hcall => hcalls g s t (hcall ▸ List.mem_cons_self)

/-- Without pairings the nodes are finished as they are laid out. -/
theorem node?_run {id : NodeId} {component : String} {attributes : Value}
    (hcalls : ∀ gateway socket target, .pair gateway socket target ∉ calls)
    (hmem : .node id component attributes ∈ calls)
    (honly : ∀ component' attributes', .node id component' attributes' ∈ calls →
      component' = component ∧ attributes' = attributes) :
    (run registry calls).executable.node? id = some ⟨component, attributesOf attributes⟩ := by
  have hpairings : (calls.foldl (apply registry) start).pairings = .empty := pairings_foldl hcalls start
  rw [run, build, hpairings]
  exact node?_foldl honly start (.inl hmem)

/-- What some calls expose, and what others expose after them. -/
theorem exposed_append {calls' : List BuildCall} {l : Link} (b : Builder) :
    Exposed registry b l (calls ++ calls') ↔
      Exposed registry b l calls ∨ Exposed registry (calls.foldl (apply registry) b) l calls' := by
  induction calls generalizing b with
  | nil => simp [Exposed]
  | cons call rest ih => rw [List.cons_append, Exposed, Exposed, ih, or_assoc, List.foldl_cons]

end Builder

/-- The output at the end of a chain of passing nodes, which are listed from there back to the entry. -/
def passOutput (entry : NodeId) : List NodeId → Link
  | [] => ⟨entry, "output"⟩
  | node :: _ => ⟨node, "out"⟩

/-- The calls that lay out passing nodes, each after the one that feeds it. -/
def passCalls (entry : NodeId) : List NodeId → List BuildCall
  | [] => []
  | node :: rest =>
    passCalls entry rest ++ [.node node passComponent.name (.object []), .connect (passOutput entry rest) ⟨node, "in"⟩]

/-- The calls that lay out a chain from an entry to an exit. -/
def chainCalls (entry exit : NodeId) (nodes : List NodeId) : List BuildCall :=
  [.node entry (entryName "Number") (.object []), .node exit (exitName "Number") (.object [])] ++
    passCalls entry nodes ++ [.connect (passOutput entry nodes) ⟨exit, "input"⟩]

/-- The components of such chains. -/
def chainComponents : List Component :=
  (passComponent :: exposedPackage ["Number"]).map NodeComponent.component

/-- A chain from an entry to an exit, with an index of its exposed sockets. -/
def chainTables (entry exit : NodeId) (nodes : List NodeId) : Tables :=
  Builder.run (.ofComponents chainComponents) (chainCalls entry exit nodes ++ [.indexExposed])

section
variable {entry exit node : NodeId} {nodes : List NodeId}

theorem node_mem_passCalls {component : String} {attributes : Value} :
    .node node component attributes ∈ passCalls entry nodes ↔
      node ∈ nodes ∧ component = passComponent.name ∧ attributes = .object [] := by
  induction nodes with
  | nil => simp [passCalls]
  | cons node' rest ih =>
    simp [passCalls, ih]
    grind

theorem pair_not_mem_passCalls (gateway : NodeId) (socket : String) (target : Link) :
    .pair gateway socket target ∉ passCalls entry nodes := by
  induction nodes with
  | nil => simp [passCalls]
  | cons node' rest ih => simp [passCalls, ih]

/-- A chain has a node for its entry, one for its exit and the passing ones. -/
theorem node_mem_chainCalls {component : String} {attributes : Value} :
    .node node component attributes ∈ chainCalls entry exit nodes ↔
      attributes = .object [] ∧ (node = entry ∧ component = entryName "Number" ∨
        node = exit ∧ component = exitName "Number" ∨ node ∈ nodes ∧ component = passComponent.name) := by
  simp only [chainCalls, List.mem_append, node_mem_passCalls, List.mem_cons, BuildCall.node.injEq, List.not_mem_nil]
  grind

/-- Among these calls only those for a passing node connect to its input. -/
theorem producers_passCalls_of_not_mem {socket : String} (hsocket : ':' ∉ socket.toList)
    (h : node ∉ nodes ∨ socket ≠ "in") :
    (passCalls entry nodes).filterMap (BuildCall.producer? (·.key = Link.key ⟨node, socket⟩)) = [] := by
  induction nodes with
  | nil => rfl
  | cons node' rest ih =>
    have hkey : Link.key ⟨node', "in"⟩ ≠ Link.key ⟨node, socket⟩ := by
      rw [Ne, Link.key_inj (by decide) hsocket]
      grind
    rw [passCalls, List.filterMap_append, ih (by grind)]
    simp [BuildCall.producer?, hkey]

theorem producers_passCalls {before rest : List NodeId} (hnodes : (before ++ node :: rest).Nodup) :
    (passCalls entry (before ++ node :: rest)).filterMap (BuildCall.producer? (·.key = Link.key ⟨node, "in"⟩)) =
      [passOutput entry rest] := by
  induction before with
  | nil =>
    have hrest : node ∉ rest := (List.nodup_cons.1 hnodes).1
    rw [List.nil_append, passCalls, List.filterMap_append,
      producers_passCalls_of_not_mem (by decide) (.inl hrest)]
    simp [List.filterMap_cons, BuildCall.producer?]
  | cons node' before ih =>
    obtain ⟨hfirst, hnodes⟩ := List.nodup_cons.1 hnodes
    have hkey : Link.key ⟨node', "in"⟩ ≠ Link.key ⟨node, "in"⟩ := by
      rw [Ne, Link.key_inj (by decide) (by decide)]
      grind
    rw [List.cons_append, passCalls, List.filterMap_append, ih hnodes]
    simp [BuildCall.producer?, hkey]

theorem distinct_of_nodup (hnodes : (exit :: nodes ++ [entry]).Nodup) :
    nodes.Nodup ∧ exit ∉ nodes ∧ exit ≠ entry ∧ entry ∉ nodes := by
  simp only [List.cons_append, List.nodup_cons, List.nodup_append, List.mem_append, List.mem_singleton] at hnodes
  grind

/-- In a chain of distinct nodes each node is of one component. -/
theorem node?_chainTables (hnodes : (exit :: nodes ++ [entry]).Nodup) :
    let x := (chainTables entry exit nodes).executable
    x.node? entry = some ⟨entryName "Number", .empty⟩ ∧ x.node? exit = some ⟨exitName "Number", .empty⟩ ∧
      ∀ node ∈ nodes, x.node? node = some ⟨passComponent.name, .empty⟩ := by
  have hpairs (gateway : NodeId) (socket : String) (target : Link) :
      .pair gateway socket target ∉ chainCalls entry exit nodes ++ [.indexExposed] := by
    simp [chainCalls, pair_not_mem_passCalls]
  have hdistinct := distinct_of_nodup hnodes
  have hmem {node : NodeId} {component : String} {attributes : Value} :
      .node node component attributes ∈ chainCalls entry exit nodes ++ [.indexExposed] ↔
        .node node component attributes ∈ chainCalls entry exit nodes := by simp
  refine ⟨Builder.node?_run hpairs (hmem.2 (node_mem_chainCalls.2 ⟨rfl, .inl ⟨rfl, rfl⟩⟩)) ?_,
    Builder.node?_run hpairs (hmem.2 (node_mem_chainCalls.2 ⟨rfl, .inr (.inl ⟨rfl, rfl⟩)⟩)) ?_,
    fun node hnode => Builder.node?_run hpairs (hmem.2 (node_mem_chainCalls.2 ⟨rfl, .inr (.inr ⟨hnode, rfl⟩)⟩)) ?_⟩ <;>
  · intro component attributes h
    rw [hmem, node_mem_chainCalls] at h
    grind

/-- The inputs of a chain of distinct nodes are fed along the chain. -/
theorem producers_chainTables (hnodes : (exit :: nodes ++ [entry]).Nodup) :
    let x := (chainTables entry exit nodes).executable
    x.producers exit "input" = [passOutput entry nodes] ∧
      ∀ before node rest, nodes = before ++ node :: rest → x.producers node "in" = [passOutput entry rest] := by
  obtain ⟨hdistinct, -⟩ := distinct_of_nodup hnodes
  constructor
  · refine (Builder.producers_run _ ⟨exit, "input"⟩).trans ?_
    rw [chainCalls, List.filterMap_append, List.filterMap_append, List.filterMap_append,
      producers_passCalls_of_not_mem (by decide) (.inr (by decide))]
    simp [List.filterMap_cons, BuildCall.producer?]
  · rintro before node rest rfl
    have hexit : Link.key ⟨exit, "input"⟩ ≠ Link.key ⟨node, "in"⟩ := by
      rw [Ne, Link.key_inj (by decide) (by decide)]
      simp
    refine (Builder.producers_run _ ⟨node, "in"⟩).trans ?_
    rw [chainCalls, List.filterMap_append, List.filterMap_append, List.filterMap_append, producers_passCalls hdistinct]
    simp [List.filterMap_cons, BuildCall.producer?, hexit]

theorem made_chainComponents : ∀ c ∈ passComponent :: exposedPackage ["Number"],
    (Registry.ofComponents chainComponents).get? c.name = some c.component := by
  intro c hc
  have hnames : (chainComponents.map Component.name).Nodup := by decide +kernel
  exact Registry.get?_ofComponents hnames (List.mem_map_of_mem hc)

/-- A chain of distinct nodes passes on what the host provides at its entry. -/
theorem passes_chainTables (hnodes : (exit :: nodes ++ [entry]).Nodup) (limits : Limits) :
    (⟨chainTables entry exit nodes, .ofComponents chainComponents, limits⟩ : Scene).Passes entry
      (passOutput entry nodes) (nodes ++ [entry]) := by
  obtain ⟨hentry, -, hpass⟩ := node?_chainTables hnodes
  obtain ⟨-, hfed⟩ := producers_chainTables hnodes
  have hsuffix (before rest : List NodeId) (h : nodes = before ++ rest) :
      (⟨chainTables entry exit nodes, .ofComponents chainComponents, limits⟩ : Scene).Passes entry
        (passOutput entry rest) (rest ++ [entry]) := by
    induction rest generalizing before with
    | nil => exact .entry hentry (made_chainComponents (entryComponent "Number") (by simp [exposedPackage]))
    | cons node rest ih =>
      refine .pass (hpass node (by simp [h])) (made_chainComponents _ List.mem_cons_self) (hfed before node rest h) ?_
      exact ih (before ++ [node]) (by simp [h])
  exact hsuffix [] nodes rfl

theorem exposed_chainTables (hnodes : (exit :: nodes ++ [entry]).Nodup) :
    ((chainTables entry exit nodes).exposed.socket? exit "input").isSome := by
  refine (Builder.socket?_run _ ⟨exit, "input"⟩).2 ⟨⟨exit, "input"⟩, ?_, rfl⟩
  refine (Builder.exposed_append _).2 (.inr (.inl ⟨⟨exitName "Number", .empty⟩, (exitComponent "Number").component, _, ?_,
    made_chainComponents (exitComponent "Number") (by simp [exposedPackage]), List.mem_singleton_self _, rfl, ?_, rfl⟩))
  · have hmem : .node exit (exitName "Number") (.object []) ∈ chainCalls entry exit nodes :=
      node_mem_chainCalls.2 ⟨rfl, .inr (.inl ⟨rfl, rfl⟩)⟩
    refine Builder.node?_foldl (fun component attributes h => ?_) _ (.inl hmem)
    have hdistinct := distinct_of_nodup hnodes
    rw [node_mem_chainCalls] at h
    grind
  · decide

end

/-- A call for a value or an update of a node on an engine at rest, without linked scenes and with all paths of
producers from the node shorter than the limit, is nowhere nested as deep as the limit; so no handler is refused
for its depth, and unless one says so of itself the call does not fail for it. And the limit is exact: what the
host provides at the entry of a chain comes out at its exit if the chain is shorter than the limit, and
otherwise the node is refused with which the chain becomes as long as the limit. -/
theorem nesting_limit_exact :
    (∀ (s : Session History) (tables : Tables) (st : EngineState), s.engine.active = some (tables, st) → st.Resting →
      (∀ c a, (s.engine.scene tables).Instance c a → c.Links (fun _ _ => False) a) →
      ∀ node, (∀ path, tables.executable.Path (node :: path) →
        (node :: path).length < s.engine.limits.recursionDepth) → ∀ socket p,
        let updated := Host.updateNode .history node p s
        let requested := Host.requestValue .history node socket p s
        (∀ run ∈ [updated.2, requested.2], ∃ new, run.seen.moments = new ++ s.seen.moments ∧
          ∀ m ∈ new, m.state.nesting < s.engine.limits.recursionDepth) ∧
        ((∀ c a, (s.engine.scene tables).Instance c a → c.Candid a) →
          ¬ updated.1.Refused ∧ ¬ requested.1.Refused)) ∧
    (∀ {ω : Type} (watch : Watcher ω) (s : Session ω) (entry exit : NodeId) (nodes : List NodeId),
      (exit :: nodes ++ [entry]).Nodup → s.engine.registry = .ofComponents chainComponents →
      s.engine.active = some (chainTables entry exit nodes, .fresh) →
      ∀ (p : Provider) (v : Value), p.answer "output" entry = some v →
        let limit := s.engine.limits.recursionDepth
        let answer := (Host.requestValue watch exit "input" (some p) s).1
        (nodes.length + 2 < limit → answer = .ok (some v)) ∧
          (1 ≤ limit → limit ≤ nodes.length + 2 → ∃ node, (exit :: nodes ++ [entry])[limit - 1]? = some node ∧
            answer = .error (.tooDeep node limit))) := by
  constructor
  · intro s tables st hactive hresting hlinks node hnode socket p
    have hbelow : tables.executable.StaysBelow s.engine.limits.recursionDepth 0 node := fun path hpath => by
      rw [Nat.zero_add]
      exact hnode path hpath
    obtain ⟨hupdated, hanswer⟩ := allows_updateNode (r := ⟨st, s.counters, s.seen⟩) hlinks id hbelow hresting p
    obtain ⟨hrequested, hanswer'⟩ :=
      allows_requestValue (r := ⟨st, s.counters, s.seen⟩) hlinks id hbelow hresting socket p
    rw [Host.updateNode, Host.requestValue, Host.whileActive_apply, Host.whileActive_apply, hactive]
    exact ⟨List.forall_mem_cons.2 ⟨hupdated, List.forall_mem_singleton.2 hrequested⟩, fun hcandid => ⟨hanswer hcandid, hanswer' hcandid⟩⟩
  · intro ω watch s entry exit nodes hnodes hregistry hactive p v hv
    obtain ⟨-, hexit, -⟩ := node?_chainTables hnodes
    have hscene : s.engine.scene (chainTables entry exit nodes) =
        ⟨chainTables entry exit nodes, .ofComponents chainComponents, s.engine.limits⟩ := by
      rw [Engine.scene, hregistry]
    have hrequest : ((s.engine.scene (chainTables entry exit nodes)).requestValue watch exit "input" (some p)
        ⟨.fresh, s.counters, s.seen⟩).1 = passed s.engine.limits.recursionDepth 0 (exit :: (nodes ++ [entry])) v :=
      requestValue_of_passes (by decide) (exposed_chainTables hnodes) hexit
        (hregistry ▸ made_chainComponents (exitComponent "Number") (by simp [exposedPackage]))
        (producers_chainTables hnodes).1 (hscene ▸ passes_chainTables hnodes _) hv rfl .empty rfl
    have hlength : 0 + (exit :: (nodes ++ [entry])).length = nodes.length + 2 := by simp
    rw [Host.requestValue, Host.whileActive_apply, hactive]
    rw [passed, hlength] at hrequest
    refine ⟨fun hlimit => hrequest.trans (if_pos hlimit), fun hone hlimit => ?_⟩
    have hindex : s.engine.limits.recursionDepth - 1 < (exit :: (nodes ++ [entry])).length := by omega
    refine ⟨_, List.getElem?_eq_getElem hindex, hrequest.trans ?_⟩
    rw [if_neg (by omega), Nat.zero_add, List.getD_eq_getElem?_getD, List.getElem?_eq_getElem hindex]
    rfl

theorem candid_sharedComponents {c : Component} {a : Activation}
    (hc : (sharedSession.engine.scene sharedTables).Instance c a) : c.Candid a := by
  obtain ⟨info, cause, -, hget, -⟩ := hc
  have hmem := Registry.mem_of_get?_ofComponents hget
  simp only [sharedComponents, List.mem_cons, List.not_mem_nil, or_false] at hmem
  rcases hmem with rfl | rfl
  · exact fun _ h => Option.some.inj h ▸ not_false
  · exact fun _ h => Option.some.inj h ▸ fun _ _ _ _ => not_false

/-- The sink is fed by the source, and nothing feeds the source. -/
theorem length_of_path_sharedTables {path : List NodeId} (h : sharedTables.executable.Path ("out" :: path)) :
    ("out" :: path).length ≤ 2 := by
  match path, h with
  | [], _ | [_], _ => simp
  | node :: node' :: rest, h =>
    obtain ⟨⟨k, hfirst⟩, hrest⟩ := List.isChain_cons_cons.1 h
    obtain ⟨⟨k', hsecond⟩, -⟩ := List.isChain_cons_cons.1 hrest
    exact absurd (congrArg Link.node (feedsFrom_sharedTables hfirst).1) (feedsFrom_sharedTables hsecond).2

/-- A chain with one node to pass. -/
def passingSession (recursionDepth : Nat) : Session History :=
  ⟨⟨.ofComponents chainComponents, ⟨recursionDepth, 20⟩, none, some (chainTables "src" "out" ["p"], .fresh)⟩,
    .empty, [], []⟩

/-- A sink with a source is two nodes deep. A chain of three nodes passes on a value under a limit of four, and
is refused at its entry under a limit of three. -/
theorem nesting_limit_exact_passing :
    let p : Provider := ⟨fun _ _ => some (.int 42), false⟩
    ¬ (Host.updateNode .history "out" none sharedSession).1.Refused ∧
      (Host.requestValue .history "out" "input" (some p) (passingSession 4)).1 = .ok (some (.int 42)) ∧
      (Host.requestValue .history "out" "input" (some p) (passingSession 3)).1 = .error (.tooDeep "src" 3) := by
  intro p
  obtain ⟨hfits, hchain⟩ := nesting_limit_exact
  refine ⟨?_, ?_, ?_⟩
  · obtain ⟨-, hanswers⟩ := hfits sharedSession sharedTables .fresh rfl ⟨.empty, rfl⟩
      (fun _ _ => links_sharedComponents) "out" (fun path hpath => (length_of_path_sharedTables hpath).trans_lt
        (by decide)) "r" none
    exact (hanswers fun _ _ => candid_sharedComponents).1
  · exact (hchain .history (passingSession 4) "src" "out" ["p"] (by decide) rfl rfl p (.int 42) rfl).1 (by decide)
  · obtain ⟨-, hrefused⟩ := hchain .history (passingSession 3) "src" "out" ["p"] (by decide) rfl rfl p (.int 42) rfl
    obtain ⟨node, hnode, hanswer⟩ := hrefused (by decide) (by decide)
    obtain rfl : "src" = node := Option.some.inj hnode
    exact hanswer

end SocketGraph
