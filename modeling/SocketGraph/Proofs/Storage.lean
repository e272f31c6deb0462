import SocketGraph.Proofs.Layout

/-! Stored tables. What is written of a payload is read back as it was. In particular a gateway reads the
pairings that the calls have made, be the tables stored in between or not. -/
namespace SocketGraph

theorem Value.ofTableWith_self (t : Table Value) : Value.ofTableWith (fun v => v) t = .ofTable t := by
  cases t
  simp [Value.ofTableWith, Table.map]

namespace Decode

variable {α : Type} {write : α → Value} {item : Value → Decoded α}

theorem mapM_map_of_ok {β γ : Type} {write : α → β} {read : β → Decoded γ} {f : α → γ}
    (h : ∀ a, read (write a) = .ok (f a)) (items : List α) :
    (items.map write).mapM read = .ok (items.map f) := by
  induction items with
  | nil => rfl
  | cons a rest ih =>
    rw [List.map_cons, List.mapM_cons, h, ih]
    rfl

@[simp] theorem text_string (s : String) : text .values (.string s) = .ok s := rfl

@[simp] theorem value_values (v : Value) : value .values v = .ok v := rfl

/-- A list is read back if its items are. -/
theorem list_ofListWith (h : ∀ a, item (write a) = .ok a) (items : List α) :
    list .values item (.ofListWith write items) = .ok items :=
  (mapM_map_of_ok h items).trans (congrArg _ (List.map_id items))

/-- A table is read back if its values are. -/
theorem table_ofTableWith (h : ∀ a, item (write a) = .ok a) (t : Table α) :
    table .values item (.ofTableWith write t) = .ok t := by
  have hentries : (t.map write).entries.mapM (entry item) = .ok t.entries := by
    refine (mapM_map_of_ok (f := id) (fun e => ?_) t.entries).trans (congrArg _ (List.map_id _))
    rw [entry, h]
    rfl
  change Except.map Table.ofList ((t.map write).entries.mapM (entry item)) = .ok t
  rw [hentries]
  exact congrArg _ (Table.ofList_entries t)

theorem table_ofTable (t : Table Value) : table .values (value .values) (.ofTable t) = .ok t := by
  rw [← Value.ofTableWith_self]
  exact table_ofTableWith value_values t

/-! Records. A record is read field by field, and each field is read back. -/

theorem link_toValue (l : Link) : link .values l.toValue = .ok l := rfl

theorem exposedSocket_toValue (s : ExposedSocket) : exposedSocket .values s.toValue = .ok s := rfl

theorem nodeInfo_toValue (info : NodeInfo) : nodeInfo .values info.toValue = .ok info := by
  change (table .values (value .values) (.ofTable info.attributes)).bind
    (fun attributes => .ok ⟨info.component, attributes⟩) = .ok info
  rw [table_ofTable]
  rfl

theorem executable_toValue (x : Executable) : executable .values x.toValue = .ok x := by
  have hlinks : ∀ links : List Link, list .values (link .values) (.ofListWith Link.toValue links) = .ok links :=
    list_ofListWith link_toValue
  change (table .values (nodeInfo .values) (.ofTableWith NodeInfo.toValue x.nodes)).bind (fun nodes =>
    (table .values (list .values (link .values)) (.ofTableWith (.ofListWith Link.toValue) x.valueEdges)).bind
      fun valueEdges =>
    (table .values (list .values (link .values)) (.ofTableWith (.ofListWith Link.toValue) x.signalEdges)).bind
      fun signalEdges => .ok ⟨nodes, valueEdges, signalEdges⟩) = .ok x
  rw [table_ofTableWith nodeInfo_toValue, table_ofTableWith hlinks, table_ofTableWith hlinks]
  rfl

theorem exposedIndex_toValue (x : ExposedIndex) : exposedIndex .values x.toValue = .ok x := by
  have htexts : ∀ texts : List String, list .values (text .values) (.texts texts) = .ok texts :=
    fun texts => list_ofListWith text_string texts
  change (table .values (exposedSocket .values) (.ofTableWith ExposedSocket.toValue x.sockets)).bind
    (fun sockets => (table .values (table .values (list .values (text .values)))
      (.ofTableWith (.ofTableWith Value.texts) x.triggers)).bind
    fun triggers => .ok ⟨sockets, triggers⟩) = .ok x
  rw [table_ofTableWith exposedSocket_toValue, table_ofTableWith (table_ofTableWith htexts)]
  rfl

theorem optional_object {fields : List (String × Value)} {a : α} (h : item (.object fields) = .ok a) :
    optional .values item (.object fields) = .ok (some a) := by
  change (item (.object fields)).map some = _
  rw [h]
  rfl

end Decode

/-- What is written of a payload is read back as that payload. -/
theorem Payload.ofValue_toValue (p : Payload) : Payload.ofValue p.toValue = .ok p := by
  have hexposed (x : ExposedIndex) :
      Decode.optional .values (Decode.exposedIndex .values) x.toValue = .ok (some x) :=
    Decode.optional_object (Decode.exposedIndex_toValue x)
  have hexecutable (x : Executable) :
      Decode.optional .values (Decode.executable .values) x.toValue = .ok (some x) :=
    Decode.optional_object (Decode.executable_toValue x)
  obtain ⟨exposed, executable⟩ := p
  cases exposed with
  | none =>
    cases executable with
    | none => rfl
    | some x =>
      change (Decode.optional .values (Decode.executable .values) x.toValue).bind
        (fun executable => .ok (Payload.mk none executable)) = _
      rw [hexecutable]
      rfl
  | some y =>
    cases executable with
    | none =>
      change (Decode.optional .values (Decode.exposedIndex .values) y.toValue).bind
        (fun exposed => .ok (Payload.mk exposed none)) = _
      rw [hexposed]
      rfl
    | some x =>
      change (Decode.optional .values (Decode.exposedIndex .values) y.toValue).bind (fun exposed =>
        (Decode.optional .values (Decode.executable .values) x.toValue).bind
          fun executable => .ok (Payload.mk exposed executable)) = _
      rw [hexposed, hexecutable]
      rfl

/-- Tables that are stored and loaded again are what they were. -/
theorem Payload.tables_ofTables (t : Tables) : (Payload.ofTables t).tables = .ok t := rfl

/-- A gateway reads the pairings that were written. -/
theorem Gateway.decodePairings_pairingValue (p : Pairings) :
    Gateway.decodePairings (Builder.pairingValue p) = .ok p :=
  Decode.table_ofTableWith Decode.link_toValue p

/-- A node of some tables reads pairings off its attributes as a gateway does. -/
def Tables.Pairs (t : Tables) (gateway : NodeId) (p : Pairings) : Prop :=
  ∃ info, t.executable.node? gateway = some info ∧ Gateway.pairings info.attributes = .ok p

namespace Builder

/-- A node that was added and paired reads the last target of each of its sockets. -/
theorem pairs_run (registry : Registry) {calls : List BuildCall} {gateway : NodeId}
    (hadded : ∃ component attributes, .node gateway component attributes ∈ calls)
    (hpaired : ∃ socket target, .pair gateway socket target ∈ calls) :
    ∃ p : Pairings, (∀ socket, p.get? socket =
        (Table.listedAt socket (calls.filterMap (BuildCall.paired? gateway))).getLast?) ∧
      (run registry calls).Pairs gateway p := by
  have hsome : ((run registry calls).executable.node? gateway).isSome :=
    (isSome_node?_run calls gateway).2 hadded
  obtain ⟨info, hinfo⟩ := Option.isSome_iff_exists.1 hsome
  obtain ⟨socket, target, hpair⟩ := hpaired
  have hpairs : calls.filterMap (BuildCall.paired? gateway) ≠ [] :=
    List.ne_nil_of_mem (List.mem_filterMap.2 ⟨_, hpair, if_pos rfl⟩)
  have hnode := hinfo
  rw [node?_run_eq] at hnode
  obtain ⟨added, -, rfl⟩ := Option.map_eq_some_iff.1 hnode
  obtain ⟨p, hattribute, hlast⟩ := get?_withPairings added hpairs
  refine ⟨p, hlast, _, hinfo, ?_⟩
  rw [Gateway.pairings, hattribute]
  exact Gateway.decodePairings_pairingValue p

/-- The pairings that calls have made of a gateway, before or after they added it, are read back by it: each
paired socket with its last target, and no other socket; and so they are when the tables are stored and loaded
in between. -/
theorem pairings_read_back (registry : Registry) (calls : List BuildCall) (gateway : NodeId)
    (hadded : ∃ attributes, .node gateway Gateway.name attributes ∈ calls)
    (hpaired : ∃ socket target, .pair gateway socket target ∈ calls) :
    ∃ p : Pairings, (∀ socket, p.get? socket =
        (Table.listedAt socket (calls.filterMap (BuildCall.paired? gateway))).getLast?) ∧
      (run registry calls).Pairs gateway p ∧
      ∃ stored loaded, Payload.ofValue (Payload.ofTables (run registry calls)).toValue = .ok stored ∧
        stored.tables = .ok loaded ∧ loaded.Pairs gateway p := by
  obtain ⟨p, hlast, hpairs⟩ := pairs_run registry ⟨_, hadded⟩ hpaired
  exact ⟨p, hlast, hpairs, _, _, Payload.ofValue_toValue _, Payload.tables_ofTables _, hpairs⟩

theorem pairings_read_back_gatewayCalls :
    (∃ attributes, .node "g" Gateway.name attributes ∈ gatewayCalls) ∧
      (∃ socket target, .pair "g" socket target ∈ gatewayCalls) ∧
      ∃ p : Pairings, p.get? "o" = some ⟨"n", "r"⟩ ∧ p.get? "i" = none ∧
        (run .empty gatewayCalls).Pairs "g" p ∧
        ∃ stored loaded, Payload.ofValue (Payload.ofTables (run .empty gatewayCalls)).toValue = .ok stored ∧
          stored.tables = .ok loaded ∧ loaded.Pairs "g" p := by
  have hadded : ∃ attributes, .node "g" Gateway.name attributes ∈ gatewayCalls :=
    ⟨.object [("gw", .null), ("k", .bool true)], by simp [gatewayCalls]⟩
  have hpaired : ∃ socket target, .pair "g" socket target ∈ gatewayCalls :=
    ⟨"o", ⟨"n", "a"⟩, by simp [gatewayCalls]⟩
  obtain ⟨p, hlast, hpairs, hstored⟩ := pairings_read_back .empty gatewayCalls "g" hadded hpaired
  exact ⟨hadded, hpaired, p, (hlast "o").trans (by decide +kernel), (hlast "i").trans (by decide +kernel),
    hpairs, hstored⟩

end Builder
end SocketGraph
