import Mathlib.Data.List.Basic
import Mathlib.Data.List.Induction
import Mathlib.Data.List.Forall2
import SocketGraph.CommandLine.Assignment

/-! Values assigned on the command line. A text is cut at the first equals sign, and what is before it at its
last dot; so nodes may have dots in their names, and values may have anything in theirs. -/
namespace SocketGraph.CommandLine

/-- A text that assigns a value: there is an equals sign in it, and a dot before the first one. -/
def Assigns (text : String) : Prop :=
  ∃ target value, text.toList = target ++ '=' :: value ∧ '=' ∉ target ∧ '.' ∈ target

/-- A text that has a mark is cut at the first one. -/
theorem splitFirst_eq_some {mark : Char} {cs before after : List Char} :
    splitFirst mark cs = some (before, after) ↔ cs = before ++ mark :: after ∧ mark ∉ before := by
  constructor
  · induction cs generalizing before with
    | nil => simp [splitFirst]
    | cons c rest ih =>
      by_cases hc : c = mark
      · intro h
        simp only [splitFirst, hc, if_true, Option.some.injEq, Prod.mk.injEq] at h
        obtain ⟨rfl, rfl⟩ := h
        simp [hc]
      · intro h
        simp only [splitFirst, hc, if_false, Option.map_eq_some_iff, Prod.exists, Prod.mk.injEq] at h
        obtain ⟨head, _, hrest, rfl, rfl⟩ := h
        obtain ⟨rfl, hhead⟩ := ih hrest
        simp [hhead, Ne.symm hc]
  · rintro ⟨rfl, h⟩
    exact splitFirst_append h after

namespace Assignment

/-- A target whose parts can be told apart when it is written: the socket has no dot in its name, so the last
dot is the one between them, and neither has an equals sign. -/
structure Separable (target : Link) : Prop where
  node : '=' ∉ target.node.toList
  socket : '=' ∉ target.socket.toList
  single : '.' ∉ target.socket.toList

/-- How an assignment is written: with the JSON text of its value, if that is read back, or with any text that is
no JSON, which is the value then. -/
inductive WrittenAs : Assignment → String → Prop
  | json {a : Assignment} (separable : Separable a.target)
      (back : Json.read (Json.compact a.value) = some a.value) : WrittenAs a a.text
  | plain {target : Link} {raw : String} (separable : Separable target) (other : Json.read raw = none) :
      WrittenAs ⟨target, .string raw⟩ (target.node ++ "." ++ target.socket ++ "=" ++ raw)

/-- What is written before the value is taken apart again, whatever the value is. -/
theorem parse_written {target : Link} (h : Separable target) (raw : String) :
    parse (target.node ++ "." ++ target.socket ++ "=" ++ raw) = .ok ⟨target, parseValue raw.toList⟩ := by
  have hcut : splitFirst '=' (target.node ++ "." ++ target.socket ++ "=" ++ raw).toList =
      some (target.node.toList ++ '.' :: target.socket.toList, raw.toList) := by
    rw [splitFirst_eq_some]
    constructor
    · simp
    · simp [h.node, h.socket]
  rw [parse, hcut]
  dsimp only
  rw [splitLast_append _ h.single]
  simp

theorem parse_of_writtenAs {a : Assignment} {text : String} (h : a.WrittenAs text) : parse text = .ok a := by
  cases h with
  | json separable back =>
    rw [Assignment.text, parse_written separable]
    simp [parseValue, back]
  | plain separable other =>
    rw [parse_written separable]
    simp [parseValue, other]

/-- A text is refused exactly when it assigns nothing. -/
theorem parse_eq_error {text : String} : (∃ failure, parse text = .error failure) ↔ ¬Assigns text := by
  unfold parse
  cases hcut : splitFirst '=' text.toList with
  | none =>
    simp only [Except.error.injEq, exists_eq', true_iff]
    rintro ⟨target, value, htext, -, -⟩
    apply splitFirst_eq_none.1 hcut
    simp [htext]
  | some parts =>
    obtain ⟨target, value⟩ := parts
    have hassigns : Assigns text ↔ '.' ∈ target := by
      constructor
      · rintro ⟨target', value', htext, hbefore, hdot⟩
        rw [splitFirst_eq_some.2 ⟨htext, hbefore⟩] at hcut
        cases hcut
        exact hdot
      · intro hdot
        obtain ⟨htext, hbefore⟩ := splitFirst_eq_some.1 hcut
        exact ⟨target, value, htext, hbefore, hdot⟩
    rw [hassigns, ← splitLast_eq_none]
    cases hlast : splitLast '.' target with
    | none => simp [hlast]
    | some parts => simp [hlast]

end Assignment

theorem mapM_parse_eq_error {texts : List String} :
    (∃ failure, texts.mapM Assignment.parse = .error failure) ↔ ∃ text ∈ texts, ¬Assigns text := by
  induction texts with
  | nil => simp [pure, Except.pure]
  | cons text rest ih =>
    rw [List.mapM_cons, List.exists_mem_cons_iff, ← ih, ← Assignment.parse_eq_error]
    cases Assignment.parse text with
    | error failure => simp [bind, Except.bind]
    | ok a => cases rest.mapM Assignment.parse <;> simp [bind, Except.bind, pure, Except.pure]

theorem mapM_parse_of_writtenAs {as : List Assignment} {texts : List String}
    (h : List.Forall₂ Assignment.WrittenAs as texts) : texts.mapM Assignment.parse = .ok as := by
  induction h with
  | nil => rfl
  | cons head tail ih =>
    rw [List.mapM_cons, Assignment.parse_of_writtenAs head, ih]
    rfl

/-- The values that are assigned to a socket, in their order. -/
def assignedTo (as : List Assignment) (target : Link) : List Value :=
  (as.filter fun a => a.target = target).map Assignment.value

theorem assignedTo_concat (as : List Assignment) (a : Assignment) (target : Link) :
    assignedTo (as ++ [a]) target =
      assignedTo as target ++ if a.target = target then [a.value] else [] := by
  by_cases h : a.target = target <;> simp [assignedTo, h]

theorem get?_foldl_apply (as : List Assignment) (node : NodeId) (socket : String) :
    (as.foldl Assignment.apply .empty).get? node socket = (assignedTo as ⟨node, socket⟩).getLast? := by
  induction as using List.reverseRecOn with
  | nil => rfl
  | append_singleton as a ih =>
    rw [List.foldl_concat, Assignment.apply, ValueMap.get?_add, assignedTo_concat]
    by_cases h : a.target = ⟨node, socket⟩
    · simp [h]
    · have hother : ¬(node = a.target.node ∧ socket = a.target.socket) := by
        rintro ⟨rfl, rfl⟩
        exact h rfl
      simp [h, hother, ih]

/-- Assignments are refused exactly when a text among them assigns nothing. Assignments that are written, each
with parts that can be told apart, make a provider that answers for each socket the value assigned to it last, and
nothing for the others. -/
theorem parseAssignments_exact :
    (∀ texts, (∃ failure, parseAssignments texts = .error failure) ↔ ∃ text ∈ texts, ¬Assigns text) ∧
    (∀ as texts, List.Forall₂ Assignment.WrittenAs as texts →
      ∃ m, parseAssignments texts = .ok m ∧ ∀ node socket,
        m.provider.answer socket node = (assignedTo as ⟨node, socket⟩).getLast?) := by
  constructor
  · intro texts
    rw [← mapM_parse_eq_error, parseAssignments]
    cases texts.mapM Assignment.parse <;> simp [Except.map]
  · intro as texts h
    refine ⟨as.foldl Assignment.apply .empty, ?_, get?_foldl_apply as⟩
    rw [parseAssignments, mapM_parse_of_writtenAs h]
    rfl

/-- The later of two values of a socket counts; a text with dots and equals signs that is no JSON is a value of
its own, and the node before it may have a dot. -/
theorem parseAssignments_exact_replaced :
    List.Forall₂ Assignment.WrittenAs
      [⟨⟨"a", "x"⟩, .int 42⟩, ⟨⟨"scene.in", "output"⟩, .array [.bool true, .string "a.b=1"]⟩,
        ⟨⟨"a", "x"⟩, .string "k=v.w"⟩]
      ["a.x=42", "scene.in.output=[true,\"a.b=1\"]", "a.x=k=v.w"] ∧
    (∃ m, parseAssignments ["a.x=42", "scene.in.output=[true,\"a.b=1\"]", "a.x=k=v.w"] = .ok m ∧
      m.provider.answer "x" "a" = some (.string "k=v.w") ∧
      m.provider.answer "output" "scene.in" = some (.array [.bool true, .string "a.b=1"]) ∧
      m.provider.answer "in.output" "scene" = none) ∧
    ∃ failure, parseAssignments ["a.x=1", "a=x.y"] = .error failure := by
  have hnumber : Assignment.WrittenAs ⟨⟨"a", "x"⟩, .int 42⟩ "a.x=42" :=
    .json ⟨by decide, by decide, by decide⟩ (by decide +kernel)
  have hlist : Assignment.WrittenAs ⟨⟨"scene.in", "output"⟩, .array [.bool true, .string "a.b=1"]⟩
      "scene.in.output=[true,\"a.b=1\"]" :=
    .json ⟨by decide, by decide, by decide⟩ (by decide +kernel)
  have hplain : Assignment.WrittenAs ⟨⟨"a", "x"⟩, .string "k=v.w"⟩ "a.x=k=v.w" :=
    .plain ⟨by decide, by decide, by decide⟩ (by decide +kernel)
  have hwritten := List.Forall₂.cons hnumber (.cons hlist (.cons hplain .nil))
  obtain ⟨m, hm, hanswer⟩ := parseAssignments_exact.2 _ _ hwritten
  refine ⟨hwritten, ⟨m, hm, ?_, ?_, ?_⟩, (parseAssignments_exact.1 _).2 ⟨"a=x.y", by simp, ?_⟩⟩
  · rw [hanswer]; decide
  · rw [hanswer]; decide
  · rw [hanswer]; decide
  · rw [← Assignment.parse_eq_error]
    exact ⟨.noSocket "a", rfl⟩

end SocketGraph.CommandLine
