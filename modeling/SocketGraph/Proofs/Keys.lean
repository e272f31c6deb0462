import Mathlib.Data.List.Basic
import SocketGraph.Engine
import SocketGraph.Tables.Builder

/-! Keys of sockets. A key is read alike for two sockets exactly if the identifier of one node goes on,
after a colon, with what the name of the other socket begins with. Apart from such sockets every entry of
the tables that a sequence of calls lays out is the entry of one socket. -/
namespace SocketGraph

/-- Two lists that are divided by a mark are the same if they are divided in the same place, or if one of
them is divided at a later mark than the other. -/
theorem append_cons_eq_iff {α : Type} {mark : α} {a b c d : List α} :
    a ++ mark :: b = c ++ mark :: d ↔ (a = c ∧ b = d) ∨
      (∃ m, c = a ++ mark :: m ∧ b = m ++ mark :: d) ∨ ∃ m, a = c ++ mark :: m ∧ d = m ++ mark :: b := by
  constructor
  · intro h
    rcases List.append_eq_append_iff.1 h with ⟨rest, hc, hb⟩ | ⟨rest, ha, hd⟩
    · cases rest with
      | nil => exact .inl ⟨by simpa using hc.symm, (List.cons.inj hb).2⟩
      | cons x m =>
        obtain ⟨rfl, rfl⟩ := List.cons.inj hb
        exact .inr (.inl ⟨m, hc, rfl⟩)
    · cases rest with
      | nil => exact .inl ⟨by simpa using ha, (List.cons.inj hd).2.symm⟩
      | cons x m =>
        obtain ⟨rfl, rfl⟩ := List.cons.inj hd
        exact .inr (.inr ⟨m, ha, rfl⟩)
  · rintro (⟨rfl, rfl⟩ | ⟨m, rfl, rfl⟩ | ⟨m, rfl, rfl⟩) <;> simp

namespace Link

/-- The key that a socket has in the tables. -/
def key (l : Link) : String := socketKey l.node l.socket

/-- The identifier of the one node is continued, after a colon, by that of the other, and the continuation
is what the name of the one socket begins with. -/
def Overlaps (l l' : Link) : Prop :=
  ∃ between, l'.node = l.node ++ ":" ++ between ∧ l.socket = between ++ ":" ++ l'.socket

/-- Two sockets have one key if they are one socket, or if they overlap. -/
theorem key_eq_iff {l l' : Link} : l.key = l'.key ↔ l = l' ∨ l.Overlaps l' ∨ l'.Overlaps l := by
  have hlist {a b c : String} : a = b ++ ":" ++ c ↔ a.toList = b.toList ++ ':' :: c.toList := by
    simp [← String.toList_inj]
  have htext {P : List Char → Prop} : (∃ m : String, P m.toList) ↔ ∃ m, P m :=
    ⟨fun ⟨m, h⟩ => ⟨m.toList, h⟩, fun ⟨m, h⟩ => ⟨.ofList m, by simpa using h⟩⟩
  obtain ⟨node, socket⟩ := l
  obtain ⟨node', socket'⟩ := l'
  simp only [key, socketKey, Overlaps, hlist, String.toList_append, Link.mk.injEq]
  rw [htext (P := fun m => node'.toList = node.toList ++ ':' :: m ∧ socket.toList = m ++ ':' :: socket'.toList),
    htext (P := fun m => node.toList = node'.toList ++ ':' :: m ∧ socket'.toList = m ++ ':' :: socket.toList)]
  have hdivided : node.toList ++ ':' :: socket.toList = node'.toList ++ ':' :: socket'.toList ↔ _ :=
    append_cons_eq_iff
  simpa [String.toList_inj] using hdivided

/-- A socket whose name has no colon overlaps no other one. -/
theorem not_overlaps {l : Link} (h : ':' ∉ l.socket.toList) (l' : Link) : ¬ l.Overlaps l' := by
  rintro ⟨between, -, hsocket⟩
  simp [hsocket] at h

end Link

namespace BuildCall

/-- The producer that a call connects to an input. -/
def producer? (input : Link → Prop) [DecidablePred input] : BuildCall → Option Link
  | .connect producer consumer => if input consumer then some producer else none
  | _ => none

/-- The consumer that a call connects to an output of signals. -/
def consumer? (output : Link → Prop) [DecidablePred output] : BuildCall → Option Link
  | .connectSignal producer consumer => if output producer then some consumer else none
  | _ => none

end BuildCall

namespace Builder

variable {registry : Registry}

/-- The sockets that a call exposes when it is made after others: the one that it names, or every exposed
socket, outputs of signals apart, that the component of some node declares. -/
def Exposes (registry : Registry) (b : Builder) (l : Link) : BuildCall → Prop
  | .expose socket _ => socket = l
  | .indexExposed => ∃ info c declared, b.tables.executable.node? l.node = some info ∧
      registry.get? info.component = some c ∧ declared ∈ c.sockets ∧ declared.exposed = true ∧
      ¬ (declared.isOutput = true ∧ declared.isSignal = true) ∧ declared.name = l.socket
  | _ => False

/-- A socket is exposed by one of some calls, which are made one after another. -/
def Exposed (registry : Registry) (b : Builder) (l : Link) : List BuildCall → Prop
  | [] => False
  | call :: rest => Exposes registry b l call ∨ Exposed registry (b.apply registry call) l rest

/-- A socket has an entry because of some call. -/
def Names (registry : Registry) (calls : List BuildCall) (l : Link) : Prop :=
  (∃ producer, .connect producer l ∈ calls) ∨ (∃ consumer, .connectSignal l consumer ∈ calls) ∨
    Exposed registry start l calls

/-! Edges. -/

/-- A list that is kept at a key grows by what is added at that key. -/
theorem getD_modifyD_append {α : Type} (t : Table (List α)) (key key' : String) (x : α) :
    ((t.modifyD key [] (· ++ [x])).get? key').getD [] =
      (t.get? key').getD [] ++ (if key = key' then some x else none).toList := by
  rw [Table.modifyD, Table.get?_insert]
  by_cases hkey : key' = key
  · subst hkey
    simp
  · simp [hkey, Ne.symm hkey]

theorem executable_addEntry (b : Builder) (entry : IndexEntry) :
    (b.addEntry entry).tables.executable = b.tables.executable := by
  cases entry <;> rfl

theorem executable_foldl_addEntry (entries : List IndexEntry) (b : Builder) :
    (entries.foldl addEntry b).tables.executable = b.tables.executable := by
  induction entries generalizing b with
  | nil => rfl
  | cons entry rest ih => exact (ih _).trans (executable_addEntry b entry)

/-- A call adds its producer to the inputs with the key of its consumer, and to no others. -/
theorem producers_apply (b : Builder) (call : BuildCall) (l : Link) :
    (b.apply registry call).tables.executable.producers l.node l.socket =
      b.tables.executable.producers l.node l.socket ++ (call.producer? (·.key = l.key)).toList := by
  cases call with
  | connect producer consumer => exact getD_modifyD_append _ consumer.key l.key producer
  | indexExposed =>
    rw [apply, indexExposed, executable_foldl_addEntry]
    exact (List.append_nil _).symm
  | _ => exact (List.append_nil _).symm

theorem consumers_apply (b : Builder) (call : BuildCall) (l : Link) :
    (b.apply registry call).tables.executable.consumers l.node l.socket =
      b.tables.executable.consumers l.node l.socket ++ (call.consumer? (·.key = l.key)).toList := by
  cases call with
  | connectSignal producer consumer => exact getD_modifyD_append _ producer.key l.key consumer
  | indexExposed =>
    rw [apply, indexExposed, executable_foldl_addEntry]
    exact (List.append_nil _).symm
  | _ => exact (List.append_nil _).symm

/-- What every call adds to a list is what all calls add to it. -/
theorem foldl_apply_eq_append {α : Type} (listed : Builder → List α) (added? : BuildCall → Option α)
    (happly : ∀ b call, listed (b.apply registry call) = listed b ++ (added? call).toList)
    (calls : List BuildCall) (b : Builder) :
    listed (calls.foldl (apply registry) b) = listed b ++ calls.filterMap added? := by
  induction calls generalizing b with
  | nil => simp
  | cons call rest ih =>
    rw [List.foldl_cons, ih, happly, List.append_assoc, List.filterMap_cons]
    cases added? call <;> rfl

/-- The producers of an input are those of all connections to inputs with its key, in order. -/
theorem producers_run (calls : List BuildCall) (l : Link) :
    (run registry calls).executable.producers l.node l.socket =
      calls.filterMap (BuildCall.producer? (·.key = l.key)) :=
  (foldl_apply_eq_append (·.tables.executable.producers l.node l.socket) _
    (fun b call => producers_apply b call l) calls start).trans (List.nil_append _)

/-- The consumers of an output are those of all connections from outputs with its key, in order. -/
theorem consumers_run (calls : List BuildCall) (l : Link) :
    (run registry calls).executable.consumers l.node l.socket =
      calls.filterMap (BuildCall.consumer? (·.key = l.key)) :=
  (foldl_apply_eq_append (·.tables.executable.consumers l.node l.socket) _
    (fun b call => consumers_apply b call l) calls start).trans (List.nil_append _)

/-! The index of exposed sockets. -/

/-- Whether a key has an entry in the index. -/
def Indexed (b : Builder) (key : String) : Prop := (b.tables.exposed.sockets.get? key).isSome

theorem indexed_insert (t : Table ExposedSocket) (key key' : String) (s : ExposedSocket) :
    ((t.insert key s).get? key').isSome ↔ (t.get? key').isSome ∨ key = key' := by
  rw [Table.get?_insert]
  by_cases hkey : key' = key
  · simp [hkey]
  · simp [hkey, Ne.symm hkey]

theorem indexed_foldl_addEntry (entries : List IndexEntry) (b : Builder) (key : String) :
    (entries.foldl addEntry b).Indexed key ↔
      b.Indexed key ∨ ∃ s, .socket s ∈ entries ∧ socketKey s.node s.socket = key := by
  induction entries generalizing b with
  | nil => simp
  | cons entry rest ih =>
    rw [List.foldl_cons, ih]
    cases entry with
    | socket s =>
      have hadd : (b.addEntry (.socket s)).Indexed key ↔ b.Indexed key ∨ socketKey s.node s.socket = key :=
        indexed_insert _ _ _ s
      simp [hadd, or_assoc]
    | trigger component socket node =>
      have hadd : (b.addEntry (.trigger component socket node)).Indexed key ↔ b.Indexed key := .rfl
      simp [hadd]

/-- The sockets among the entries that a node gives rise to. -/
theorem socket_mem_nodeEntries {node : NodeId} {info : NodeInfo} {s : ExposedSocket} :
    .socket s ∈ nodeEntries registry node info ↔
      ∃ c declared, registry.get? info.component = some c ∧ declared ∈ c.sockets ∧
        declared.exposed = true ∧ ¬ (declared.isOutput = true ∧ declared.isSignal = true) ∧
        s = ⟨node, declared.name, declared.typeTag, info.component⟩ := by
  rw [nodeEntries]
  cases registry.get? info.component with
  | none => simp
  | some c =>
    constructor
    · intro h
      obtain ⟨declared, hdeclared, hentry⟩ := List.mem_map.1 h
      obtain ⟨hmem, hexposed⟩ := List.mem_filter.1 hdeclared
      rw [indexEntry] at hentry
      split at hentry
      · exact nomatch hentry
      · rename_i hsignal
        exact ⟨c, declared, rfl, hmem, hexposed, by simpa using hsignal, (IndexEntry.socket.inj hentry).symm⟩
    · rintro ⟨_, declared, ⟨⟩, hmem, hexposed, hsignal, rfl⟩
      refine List.mem_map.2 ⟨declared, List.mem_filter.2 ⟨hmem, hexposed⟩, ?_⟩
      rw [indexEntry, if_neg (by simpa using hsignal)]

/-- After a call a key has an entry if it had one before, or if the call exposes a socket with that key. -/
theorem indexed_apply (b : Builder) (call : BuildCall) (key : String) :
    (b.apply registry call).Indexed key ↔
      b.Indexed key ∨ ∃ l, Exposes registry b l call ∧ l.key = key := by
  cases call with
  | expose socket typeTag =>
    refine (indexed_insert _ socket.key key _).trans (or_congr_right ?_)
    simp [Exposes]
  | indexExposed =>
    refine (indexed_foldl_addEntry _ b key).trans (or_congr_right ?_)
    constructor
    · rintro ⟨s, hs, rfl⟩
      obtain ⟨⟨node, info⟩, hinfo, hs⟩ := List.mem_flatMap.1 hs
      obtain ⟨c, declared, hc, hmem, hexposed, hsignal, rfl⟩ := socket_mem_nodeEntries.1 hs
      exact ⟨⟨node, declared.name⟩,
        ⟨info, c, declared, Table.get?_eq_some_iff.2 hinfo, hc, hmem, hexposed, hsignal, rfl⟩, rfl⟩
    · rintro ⟨⟨node, socket⟩, ⟨info, c, declared, hinfo, hc, hmem, hexposed, hsignal, rfl⟩, rfl⟩
      refine ⟨⟨node, declared.name, declared.typeTag, info.component⟩, ?_, rfl⟩
      exact List.mem_flatMap.2 ⟨(node, info), Table.get?_eq_some_iff.1 hinfo,
        socket_mem_nodeEntries.2 ⟨c, declared, hc, hmem, hexposed, hsignal, rfl⟩⟩
  | _ => simp [Exposes, apply, node, connect, connectSignal, pair, trigger, changeExecutable, changeExposed,
      Indexed]

/-- The keys with an entry are those of the sockets that some call exposed. -/
theorem indexed_foldl_apply (calls : List BuildCall) (b : Builder) (key : String) :
    (calls.foldl (apply registry) b).Indexed key ↔
      b.Indexed key ∨ ∃ l, Exposed registry b l calls ∧ l.key = key := by
  induction calls generalizing b with
  | nil => simp [Exposed]
  | cons call rest ih =>
    rw [List.foldl_cons, ih, indexed_apply, or_assoc]
    simp only [Exposed, or_and_right, exists_or]

theorem socket?_run (calls : List BuildCall) (l : Link) :
    ((run registry calls).exposed.socket? l.node l.socket).isSome ↔
      ∃ l', Exposed registry start l' calls ∧ l'.key = l.key :=
  (indexed_foldl_apply calls start l.key).trans (by simp [Indexed, start, Tables.empty, ExposedIndex.empty])

/-! Sockets that overlap no other one. -/

/-- A socket overlaps none of those that have entries because of some calls. -/
def Apart (registry : Registry) (calls : List BuildCall) (l : Link) : Prop :=
  ∀ l', Names registry calls l' → ¬ l'.Overlaps l ∧ ¬ l.Overlaps l'

/-- Of the sockets that have entries, it is then the only one with its key. -/
theorem key_eq_iff_of_apart {calls : List BuildCall} {l l' : Link} (h : Apart registry calls l)
    (hnames : Names registry calls l') : l'.key = l.key ↔ l' = l := by
  obtain ⟨hleft, hright⟩ := h l' hnames
  simp [Link.key_eq_iff, hleft, hright]

theorem filterMap_producer?_of_apart {calls : List BuildCall} {l : Link} (h : Apart registry calls l) :
    calls.filterMap (BuildCall.producer? (·.key = l.key)) = calls.filterMap (BuildCall.producer? (· = l)) := by
  refine List.filterMap_congr fun call hcall => ?_
  cases call with
  | connect producer consumer =>
    have hkey : consumer.key = l.key ↔ consumer = l := key_eq_iff_of_apart h (.inl ⟨producer, hcall⟩)
    simp only [BuildCall.producer?, hkey]
  | _ => rfl

theorem filterMap_consumer?_of_apart {calls : List BuildCall} {l : Link} (h : Apart registry calls l) :
    calls.filterMap (BuildCall.consumer? (·.key = l.key)) = calls.filterMap (BuildCall.consumer? (· = l)) := by
  refine List.filterMap_congr fun call hcall => ?_
  cases call with
  | connectSignal producer consumer =>
    have hkey : producer.key = l.key ↔ producer = l :=
      key_eq_iff_of_apart h (.inr (.inl ⟨consumer, hcall⟩))
    simp only [BuildCall.consumer?, hkey]
  | _ => rfl

/-- A socket that overlaps none of those that the calls name shares no entry: its producers and its
consumers are those that calls have connected to it itself, in their order, it is in the index if it was
exposed itself, and otherwise a request for its value is refused. -/
theorem entries_of_apart (registry : Registry) (calls : List BuildCall) (l : Link)
    (hapart : Apart registry calls l) :
    (run registry calls).executable.producers l.node l.socket =
        calls.filterMap (BuildCall.producer? (· = l)) ∧
      (run registry calls).executable.consumers l.node l.socket =
        calls.filterMap (BuildCall.consumer? (· = l)) ∧
      (((run registry calls).exposed.socket? l.node l.socket).isSome ↔ Exposed registry start l calls) ∧
      (¬ Exposed registry start l calls → ∀ (ω : Type) (watch : Watcher ω) (registry' : Registry)
        (limits : Limits) (provider : Option Provider) (r : Run ω),
        (Scene.requestValue ⟨run registry calls, registry', limits⟩ watch l.node l.socket provider r).1 =
          .error (.notExposed l.node l.socket)) := by
  have hexposed : ((run registry calls).exposed.socket? l.node l.socket).isSome ↔
      Exposed registry start l calls := by
    rw [socket?_run]
    constructor
    · rintro ⟨l', hl', hkey⟩
      exact (key_eq_iff_of_apart hapart (.inr (.inr hl'))).1 hkey ▸ hl'
    · exact fun hl => ⟨l, hl, rfl⟩
  refine ⟨?_, ?_, hexposed, fun hnot ω watch registry' limits provider r => ?_⟩
  · rw [producers_run, filterMap_producer?_of_apart hapart]
  · rw [consumers_run, filterMap_consumer?_of_apart hapart]
  · have hnone : (run registry calls).exposed.socket? l.node l.socket = none := by
      simpa using mt hexposed.1 hnot
    rw [Scene.requestValue, hnone]
    rfl

/-- Sockets without a colon in their names are apart, whatever colons the identifiers of their nodes have.
-/
theorem apart_of_colon_free {calls : List BuildCall} {l : Link} (hl : ':' ∉ l.socket.toList)
    (hcalls : ∀ l', Names registry calls l' → ':' ∉ l'.socket.toList) : Apart registry calls l :=
  fun l' hl' => ⟨Link.not_overlaps (hcalls l' hl') l, Link.not_overlaps hl l'⟩

/-- Calls that connect an input, an output of signals and an exposed socket of a node with a colon in its
identifier. -/
def colonCalls : List BuildCall :=
  [.connect ⟨"p", "o"⟩ ⟨"a:b", "c"⟩, .connectSignal ⟨"a:b", "d"⟩ ⟨"q", "i"⟩, .expose ⟨"a:b", "c"⟩ "text"]

theorem colon_free_of_names_colonCalls {l : Link} (h : Names .empty colonCalls l) :
    ':' ∉ l.socket.toList := by
  have hsockets : l = ⟨"a:b", "c"⟩ ∨ l = ⟨"a:b", "d"⟩ := by
    rcases h with ⟨producer, h⟩ | ⟨consumer, h⟩ | h
    · exact .inl (by simp_all [colonCalls])
    · exact .inr (by simp_all [colonCalls])
    · exact .inl (by simpa [colonCalls, Exposed, Exposes, eq_comm] using h)
  rcases hsockets with rfl | rfl <;> decide

theorem entries_of_colonCalls :
    (run .empty colonCalls).executable.producers "a:b" "c" = [⟨"p", "o"⟩] ∧
      (run .empty colonCalls).executable.consumers "a:b" "d" = [⟨"q", "i"⟩] ∧
      ((run .empty colonCalls).exposed.socket? "a:b" "c").isSome ∧
      ((run .empty colonCalls).exposed.socket? "a:b" "d").isSome = false := by
  have hapart (l : Link) (hl : ':' ∉ l.socket.toList) : Apart .empty colonCalls l :=
    apart_of_colon_free hl fun l' => colon_free_of_names_colonCalls
  have hinput := entries_of_apart .empty colonCalls ⟨"a:b", "c"⟩ (hapart _ (by decide))
  have houtput := entries_of_apart .empty colonCalls ⟨"a:b", "d"⟩ (hapart _ (by decide))
  refine ⟨hinput.1.trans (by decide), houtput.2.1.trans (by decide), hinput.2.2.1.2 ?_, ?_⟩
  · exact .inr (.inr (.inl rfl))
  · rw [Bool.eq_false_iff]
    intro h
    simpa [Exposed, Exposes, colonCalls] using houtput.2.2.1.1 h

/-- Two sockets that overlap: the producers and the exposure of the one are also those of the other. -/
theorem entries_of_overlapping :
    (run .empty colonCalls).executable.producers "a" "b:c" = [⟨"p", "o"⟩] ∧
      colonCalls.filterMap (BuildCall.producer? (· = ⟨"a", "b:c"⟩)) = [] ∧
      ((run .empty colonCalls).exposed.socket? "a" "b:c").isSome ∧
      ¬ Exposed .empty start ⟨"a", "b:c"⟩ colonCalls := by
  refine ⟨by decide +kernel, by decide, by decide +kernel, ?_⟩
  simp [Exposed, Exposes, colonCalls]

end Builder
end SocketGraph
