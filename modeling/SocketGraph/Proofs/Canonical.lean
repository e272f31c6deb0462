import SocketGraph.Proofs.Storage

/-! Canonical payloads. A payload can be stored in many ways: with fields that nothing reads, with empty tables
left out, with records listed. One of them is the way it is written. -/
namespace SocketGraph

namespace Value

/-! What a value looks like that has been written. The checks are of the value alone, not of how it is read. -/

def isText : Value → Bool
  | .string _ => true
  | _ => false

def isList (item : Value → Bool) : Value → Bool
  | .array items => items.all item
  | _ => false

/-- An object with values of one kind, its keys in strictly ascending order. -/
def isTable (item : Value → Bool) : Value → Bool
  | .object fields => fields.all (fun f => item f.2) && decide (fields.Pairwise fun f g => f.1 < g.1)
  | _ => false

/-- Fields of the given names, in their order and each of its kind, and no others. -/
def areFields : List (String × (Value → Bool)) → List (String × Value) → Bool
  | [], [] => true
  | (name, kind) :: kinds, (key, v) :: fields => key == name && kind v && areFields kinds fields
  | _, _ => false

def isRecord (kinds : List (String × (Value → Bool))) : Value → Bool
  | .object fields => areFields kinds fields
  | _ => false

def isLink : Value → Bool := isRecord [("dk", isText), ("dn", isText)]

def isNodeInfo : Value → Bool := isRecord [("a", isTable fun _ => true), ("c", isText)]

def isExecutable : Value → Bool :=
  isRecord [("i2o", isTable (isList isLink)), ("nd", isTable isNodeInfo), ("o2i", isTable (isList isLink))]

def isExposedSocket : Value → Bool :=
  isRecord [("c", isText), ("k", isText), ("n", isText), ("t", isText)]

def isExposedIndex : Value → Bool :=
  isRecord [("o", isTable (isTable (isList isText))), ("s", isTable isExposedSocket)]

/-- The canonical form of a payload: all fields that are not left out with a table, and nothing else. -/
def isPayload (v : Value) : Bool :=
  [[], [("X", isExecutable)], [("x", isExposedIndex)], [("X", isExecutable), ("x", isExposedIndex)]].any
    fun kinds => isRecord kinds v

/-! Each check accepts exactly what its writer writes. -/

variable {α : Type} {write : α → Value} {item : Value → Bool}

theorem isText_iff {v : Value} : v.isText = true ↔ ∃ s, Value.string s = v := by
  cases v <;> simp [isText]

theorem all_iff {β : Type} {check : β → Bool} {make : α → β} (h : ∀ b, check b = true ↔ ∃ a, make a = b)
    (bs : List β) : bs.all check = true ↔ ∃ as : List α, as.map make = bs := by
  induction bs with
  | nil => simp
  | cons b rest ih =>
    rw [List.all_cons, Bool.and_eq_true, h, ih]
    constructor
    · rintro ⟨⟨a, rfl⟩, as, rfl⟩
      exact ⟨a :: as, rfl⟩
    · rintro ⟨as, has⟩
      obtain ⟨a, as, rfl, rfl, rfl⟩ := List.map_eq_cons_iff.1 has
      exact ⟨⟨a, rfl⟩, as, rfl⟩

theorem isList_iff (h : ∀ v, item v = true ↔ ∃ a, write a = v) (v : Value) :
    v.isList item = true ↔ ∃ as, Value.ofListWith write as = v := by
  cases v with
  | array items => simp [isList, Value.ofListWith, all_iff h]
  | _ => simp [isList, Value.ofListWith]

theorem isTable_iff (h : ∀ v, item v = true ↔ ∃ a, write a = v) (v : Value) :
    v.isTable item = true ↔ ∃ t, Value.ofTableWith write t = v := by
  cases v with
  | object fields =>
    have hfields : ∀ f : String × Value, item f.2 = true ↔ ∃ e : String × α, (e.1, write e.2) = f := by
      rintro ⟨key, v⟩
      simp [h]
    rw [isTable, Bool.and_eq_true, all_iff hfields, decide_eq_true_iff]
    constructor
    · rintro ⟨⟨entries, rfl⟩, hascending⟩
      exact ⟨⟨entries, by simpa only [List.pairwise_map] using hascending⟩, rfl⟩
    · rintro ⟨t, ht⟩
      cases ht
      exact ⟨⟨t.entries, rfl⟩, (t.map write).ascending⟩
  | _ => simp [isTable, Value.ofTableWith, Value.ofTable]

@[simp] theorem areFields_nil {fields : List (String × Value)} : areFields [] fields = true ↔ fields = [] := by
  cases fields <;> simp [areFields]

@[simp] theorem areFields_cons {name : String} {kind : Value → Bool} {kinds : List (String × (Value → Bool))}
    {fields : List (String × Value)} : areFields ((name, kind) :: kinds) fields = true ↔
      ∃ v rest, fields = (name, v) :: rest ∧ kind v = true ∧ areFields kinds rest = true := by
  cases fields with
  | nil => simp [areFields]
  | cons f rest =>
    obtain ⟨key, v⟩ := f
    simp only [areFields, Bool.and_eq_true, beq_iff_eq, List.cons.injEq, Prod.mk.injEq]
    constructor
    · rintro ⟨⟨rfl, hv⟩, hrest⟩
      exact ⟨v, rest, ⟨⟨rfl, rfl⟩, rfl⟩, hv, hrest⟩
    · rintro ⟨_, _, ⟨⟨rfl, rfl⟩, rfl⟩, hv, hrest⟩
      exact ⟨⟨rfl, hv⟩, hrest⟩

theorem isRecord_iff {kinds : List (String × (Value → Bool))} {v : Value} :
    v.isRecord kinds = true ↔ ∃ fields, v = .object fields ∧ areFields kinds fields = true := by
  cases v <;> simp [isRecord]

theorem isLink_iff (v : Value) : v.isLink = true ↔ ∃ l, Link.toValue l = v := by
  simp only [isLink, isRecord_iff, areFields_cons, areFields_nil, isText_iff]
  constructor
  · rintro ⟨_, rfl, _, _, rfl, ⟨socket, rfl⟩, _, _, rfl, ⟨node, rfl⟩, rfl⟩
    exact ⟨⟨node, socket⟩, rfl⟩
  · rintro ⟨l, rfl⟩
    exact ⟨_, rfl, _, _, rfl, ⟨_, rfl⟩, _, _, rfl, ⟨_, rfl⟩, rfl⟩

theorem isNodeInfo_iff (v : Value) : v.isNodeInfo = true ↔ ∃ info, NodeInfo.toValue info = v := by
  have hany : ∀ v : Value, (fun _ => true) v = true ↔ ∃ w : Value, (fun w => w) w = v := by simp
  have hattributes : ∀ v : Value, v.isTable (fun _ => true) = true ↔ ∃ t, Value.ofTable t = v := by
    simpa only [ofTableWith_self] using isTable_iff hany
  simp only [isNodeInfo, isRecord_iff, areFields_cons, areFields_nil, hattributes, isText_iff]
  constructor
  · rintro ⟨_, rfl, _, _, rfl, ⟨attributes, rfl⟩, _, _, rfl, ⟨component, rfl⟩, rfl⟩
    exact ⟨⟨component, attributes⟩, rfl⟩
  · rintro ⟨info, rfl⟩
    exact ⟨_, rfl, _, _, rfl, ⟨_, rfl⟩, _, _, rfl, ⟨_, rfl⟩, rfl⟩

theorem isExecutable_iff (v : Value) : v.isExecutable = true ↔ ∃ x, Executable.toValue x = v := by
  simp only [isExecutable, isRecord_iff, areFields_cons, areFields_nil, isTable_iff (isList_iff isLink_iff),
    isTable_iff isNodeInfo_iff]
  constructor
  · rintro ⟨_, rfl, _, _, rfl, ⟨valueEdges, rfl⟩, _, _, rfl, ⟨nodes, rfl⟩, _, _, rfl, ⟨signalEdges, rfl⟩, rfl⟩
    exact ⟨⟨nodes, valueEdges, signalEdges⟩, rfl⟩
  · rintro ⟨x, rfl⟩
    exact ⟨_, rfl, _, _, rfl, ⟨_, rfl⟩, _, _, rfl, ⟨_, rfl⟩, _, _, rfl, ⟨_, rfl⟩, rfl⟩

theorem isExposedSocket_iff (v : Value) : v.isExposedSocket = true ↔ ∃ s, ExposedSocket.toValue s = v := by
  simp only [isExposedSocket, isRecord_iff, areFields_cons, areFields_nil, isText_iff]
  constructor
  · rintro ⟨_, rfl, _, _, rfl, ⟨component, rfl⟩, _, _, rfl, ⟨socket, rfl⟩, _, _, rfl, ⟨node, rfl⟩, _, _, rfl,
      ⟨typeTag, rfl⟩, rfl⟩
    exact ⟨⟨node, socket, typeTag, component⟩, rfl⟩
  · rintro ⟨s, rfl⟩
    exact ⟨_, rfl, _, _, rfl, ⟨_, rfl⟩, _, _, rfl, ⟨_, rfl⟩, _, _, rfl, ⟨_, rfl⟩, _, _, rfl, ⟨_, rfl⟩, rfl⟩

theorem isExposedIndex_iff (v : Value) : v.isExposedIndex = true ↔ ∃ x, ExposedIndex.toValue x = v := by
  have htexts : ∀ v : Value, v.isList isText = true ↔ ∃ items, Value.texts items = v :=
    isList_iff fun _ => isText_iff
  simp only [isExposedIndex, isRecord_iff, areFields_cons, areFields_nil, isTable_iff (isTable_iff htexts),
    isTable_iff isExposedSocket_iff]
  constructor
  · rintro ⟨_, rfl, _, _, rfl, ⟨triggers, rfl⟩, _, _, rfl, ⟨sockets, rfl⟩, rfl⟩
    exact ⟨⟨sockets, triggers⟩, rfl⟩
  · rintro ⟨x, rfl⟩
    exact ⟨_, rfl, _, _, rfl, ⟨_, rfl⟩, _, _, rfl, ⟨_, rfl⟩, rfl⟩

/-- A payload has one form for each choice of the tables that it has. -/
theorem isPayload_iff (v : Value) : v.isPayload = true ↔ ∃ p, Payload.toValue p = v := by
  simp only [isPayload, List.any_cons, List.any_nil, Bool.or_false, Bool.or_eq_true, isRecord_iff, areFields_cons,
    areFields_nil, isExecutable_iff, isExposedIndex_iff]
  constructor
  · rintro (⟨_, rfl, rfl⟩ | ⟨_, rfl, _, _, rfl, ⟨x, rfl⟩, rfl⟩ | ⟨_, rfl, _, _, rfl, ⟨x, rfl⟩, rfl⟩ |
      ⟨_, rfl, _, _, rfl, ⟨x, rfl⟩, _, _, rfl, ⟨y, rfl⟩, rfl⟩)
    · exact ⟨⟨none, none⟩, rfl⟩
    · exact ⟨⟨none, some x⟩, rfl⟩
    · exact ⟨⟨some x, none⟩, rfl⟩
    · exact ⟨⟨some y, some x⟩, rfl⟩
  · rintro ⟨⟨exposed, executable⟩, rfl⟩
    cases executable with
    | none =>
      cases exposed with
      | none => exact .inl ⟨_, rfl, rfl⟩
      | some y => exact .inr (.inr (.inl ⟨_, rfl, _, _, rfl, ⟨y, rfl⟩, rfl⟩))
    | some x =>
      cases exposed with
      | none => exact .inr (.inl ⟨_, rfl, _, _, rfl, ⟨x, rfl⟩, rfl⟩)
      | some y => exact .inr (.inr (.inr ⟨_, rfl, _, _, rfl, ⟨x, rfl⟩, _, _, rfl, ⟨y, rfl⟩, rfl⟩))

end Value

namespace Payload

/-- What is written of the payload that a value stores. -/
def recoded (v : Value) : Decode.Decoded Value := (ofValue v).map toValue

/-- A value is a payload in canonical form exactly when it is recoded as itself. -/
theorem recoded_eq_self {v : Value} : recoded v = .ok v ↔ v.isPayload = true := by
  rw [Value.isPayload_iff]
  constructor
  · intro h
    cases hp : ofValue v with
    | error problem => simp [recoded, hp, Except.map] at h
    | ok p => exact ⟨p, by simpa [recoded, hp, Except.map] using h⟩
  · rintro ⟨p, rfl⟩
    simp [recoded, ofValue_toValue, Except.map]

/-- What is written of a payload stores that payload. So a value in whatever form is recoded in canonical form,
which stores the same payload and is recoded as itself; and no other value is. -/
theorem recoded_canonical :
    (∀ p : Payload, ofValue p.toValue = .ok p) ∧
    (∀ v p, ofValue v = .ok p → ∃ w, recoded v = .ok w ∧ w.isPayload = true ∧ ofValue w = .ok p ∧
      recoded w = .ok w) ∧
    (∀ v, recoded v = .ok v → v.isPayload = true) := by
  refine ⟨ofValue_toValue, fun v p h => ?_, fun v => recoded_eq_self.1⟩
  have hform : p.toValue.isPayload = true := (Value.isPayload_iff _).2 ⟨p, rfl⟩
  refine ⟨p.toValue, ?_, hform, ofValue_toValue p, recoded_eq_self.2 hform⟩
  simp [recoded, h, Except.map]

/-- A listed payload without exposed sockets, with a field that nothing reads, a listed node without attributes
and a listed link, and without signal edges. -/
def loose : Value :=
  .array [.null, .object [("i2o", .object [("n:a", .array [.array [.string "m", .string "r"]])]),
    ("nd", .object [("n", .array [.string "C"])]), ("zz", .bool true)]]

/-- It is recoded with records for what is listed, with the tables that it leaves out, and without the rest. -/
theorem recoded_canonical_loose :
    ∃ p w, ofValue loose = .ok p ∧ recoded loose = .ok w ∧
      w = .object [("X", .object [("i2o", .object [("n:a",
          .array [.object [("dk", .string "r"), ("dn", .string "m")]])]),
        ("nd", .object [("n", .object [("a", .object []), ("c", .string "C")])]), ("o2i", .object [])])] ∧
      w.isPayload = true ∧ ofValue w = .ok p ∧ recoded w = .ok w := by
  have hloose : ofValue loose = .ok ⟨none, some ⟨.ofList [("n", ⟨"C", .empty⟩)],
      .ofList [("n:a", [⟨"m", "r"⟩])], .empty⟩⟩ := by decide +kernel
  obtain ⟨w, hw, hform, hsame, hself⟩ := recoded_canonical.2.1 loose _ hloose
  refine ⟨_, w, hloose, hw, ?_, hform, hsame, hself⟩
  rw [recoded, hloose] at hw
  cases hw
  decide +kernel

end Payload
end SocketGraph
