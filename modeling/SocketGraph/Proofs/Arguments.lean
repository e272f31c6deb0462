import Mathlib.Tactic.SplitIfs
import SocketGraph.CommandLine.Invocation

/-! Arguments and invocations. Reading consumes its arguments from the front, so what a part of the reading
gives is right when the arguments are that part as it is written, followed by those that are left. -/
namespace SocketGraph.CommandLine

/-- What reading on gives is given for a part and the arguments that it leaves. -/
theorem Parsed.bind_eq_ok {α β : Type} {x : Parsed (α × List String)} {f : α × List String → Parsed β} {b : β} :
    (x >>= f) = .ok b ↔ ∃ a rest, x = .ok (a, rest) ∧ f (a, rest) = .ok b := by
  cases x with
  | error failure => simp [bind, Except.bind]
  | ok found =>
    constructor
    · intro h
      exact ⟨found.1, found.2, rfl, h⟩
    · rintro ⟨a, rest, hfound, h⟩
      cases hfound
      exact h

@[simp] theorem Parsed.pure_eq_ok {α : Type} {a b : α} : (pure a : Parsed α) = .ok b ↔ a = b := by
  simp [pure, Except.pure]

theorem next_eq_ok {what : String} {args rest : List String} {arg : String} :
    next what args = .ok (arg, rest) ↔ args = arg :: rest := by
  cases args <;> simp [next]

theorem parseSource_eq_ok {args rest : List String} {source : SignalSource} :
    parseSource args = .ok (source, rest) ↔ args = sourceArguments source ++ rest := by
  simp only [parseSource, Parsed.bind_eq_ok, next_eq_ok]
  constructor
  · rintro ⟨flag, after, rfl, h⟩
    split_ifs at h with hnode hcomponent
    · simp only [Parsed.bind_eq_ok, next_eq_ok, Parsed.pure_eq_ok, Prod.mk.injEq] at h
      obtain ⟨node, after, rfl, rfl, rfl⟩ := h
      simp [sourceArguments, hnode]
    · simp only [Parsed.bind_eq_ok, next_eq_ok, Parsed.pure_eq_ok, Prod.mk.injEq] at h
      obtain ⟨component, after, rfl, rfl, rfl⟩ := h
      simp [sourceArguments, hcomponent]
  · rintro rfl
    cases source with
    | node node =>
      refine ⟨_, _, rfl, ?_⟩
      simp [Parsed.bind_eq_ok, next_eq_ok, -bind_pure_comp]
    | component component =>
      refine ⟨_, _, rfl, ?_⟩
      simp [Parsed.bind_eq_ok, next_eq_ok, -bind_pure_comp]

theorem Command.parse_eq_ok {args rest : List String} {command : Command} :
    Command.parse args = .ok (command, rest) ↔ args = command.arguments ++ rest := by
  simp only [Command.parse, Parsed.bind_eq_ok, next_eq_ok]
  constructor
  · rintro ⟨word, after, rfl, h⟩
    split_ifs at h with hrequest hupdate htrigger
    · simp only [Parsed.bind_eq_ok, next_eq_ok, Parsed.pure_eq_ok, Prod.mk.injEq] at h
      obtain ⟨node, _, rfl, socket, _, rfl, rfl, rfl⟩ := h
      simp [Command.arguments, hrequest]
    · simp only [Parsed.bind_eq_ok, next_eq_ok, Parsed.pure_eq_ok, Prod.mk.injEq] at h
      obtain ⟨node, _, rfl, rfl, rfl⟩ := h
      simp [Command.arguments, hupdate]
    · simp only [Parsed.bind_eq_ok, next_eq_ok, parseSource_eq_ok, Parsed.pure_eq_ok,
        Prod.mk.injEq] at h
      obtain ⟨socket, _, rfl, source, _, rfl, rfl, rfl⟩ := h
      simp [Command.arguments, htrigger]
  · rintro rfl
    cases command with
    | request node socket =>
      refine ⟨_, _, rfl, ?_⟩
      simp only [↓reduceIte, Parsed.bind_eq_ok, next_eq_ok, Parsed.pure_eq_ok]
      exact ⟨node, _, rfl, socket, rest, rfl, rfl⟩
    | update node =>
      refine ⟨_, _, rfl, ?_⟩
      simp [Parsed.bind_eq_ok, next_eq_ok, -bind_pure_comp]
    | trigger socket source =>
      refine ⟨_, _, rfl, ?_⟩
      rw [if_neg (by decide), if_neg (by decide), if_pos rfl]
      simp only [Parsed.bind_eq_ok, next_eq_ok, parseSource_eq_ok, Parsed.pure_eq_ok]
      exact ⟨socket, _, rfl, source, rest, rfl, rfl⟩

/-- A configuration is announced by the first argument alone: where none is given, what comes first announces
none. -/
theorem parseConfig_eq_ok {args rest : List String} {config : Option String} :
    parseConfig args = .ok (config, rest) ↔
      args = configArguments config ++ rest ∧ (config = none → rest.head? ≠ some "--config") := by
  cases args with
  | nil => cases config <;> cases rest <;> simp [parseConfig, configArguments]
  | cons arg args =>
    by_cases harg : arg = "--config"
    · subst harg
      cases args with
      | nil => cases config <;> cases rest <;> simp +contextual [parseConfig, configArguments]
      | cons path args => cases config <;> simp [parseConfig, configArguments]; grind
    · cases config <;> simp [parseConfig, configArguments, harg]; grind

/-- Whether what stands first among the arguments tells whether a configuration is given: the tables of an
invocation without one have another path. -/
def Invocation.Announced (i : Invocation) : Prop := i.config = none → i.tables ≠ "--config"

theorem Invocation.parse_eq_ok {args : List String} {i : Invocation} :
    Invocation.parse args = .ok i ↔ i.arguments = args ∧ i.Announced := by
  obtain ⟨config, tables, command, assignments⟩ := i
  simp only [Invocation.parse, Parsed.bind_eq_ok, next_eq_ok, parseConfig_eq_ok,
    Command.parse_eq_ok, Parsed.pure_eq_ok, Invocation.mk.injEq]
  constructor
  · rintro ⟨config, _, ⟨rfl, hconfig⟩, tables, _, rfl, command, assignments, rfl, rfl, rfl, rfl, rfl⟩
    refine ⟨by simp [Invocation.arguments], fun hnone htables => hconfig hnone ?_⟩
    simpa using htables
  · rintro ⟨rfl, hconfig⟩
    refine ⟨config, _, ⟨?_, ?_⟩, tables, _, rfl, command, assignments, rfl, rfl, rfl, rfl, rfl⟩
    · simp [Invocation.arguments]
    · simpa [Announced] using hconfig

/-- The arguments that are accepted are those of the invocations whose tables do not read as the announcement
of a configuration. Each is accepted as the invocation it writes, with nothing dropped or read twice, and all
others are refused. -/
theorem Invocation.parse_exact :
    (∀ i : Invocation, i.Announced → Invocation.parse i.arguments = .ok i) ∧
    (∀ args i, Invocation.parse args = .ok i → i.arguments = args ∧ i.Announced) ∧
    (∀ args, (∃ failure, Invocation.parse args = .error failure) ↔
      ¬∃ i : Invocation, i.Announced ∧ i.arguments = args) := by
  refine ⟨fun i hi => parse_eq_ok.2 ⟨rfl, hi⟩, fun args i => parse_eq_ok.1, fun args => ?_⟩
  constructor
  · rintro ⟨failure, hfailure⟩ ⟨i, hi, rfl⟩
    have hok : Invocation.parse i.arguments = .ok i := parse_eq_ok.2 ⟨rfl, hi⟩
    simp [hfailure] at hok
  · intro hnone
    cases hparse : Invocation.parse args with
    | error failure => exact ⟨failure, rfl⟩
    | ok i => exact absurd ⟨i, (parse_eq_ok.1 hparse).2, (parse_eq_ok.1 hparse).1⟩ hnone

/-- Words of the usage may stand for paths and names, and a flag needs its name. -/
theorem Invocation.parse_exact_words :
    Invocation.Announced ⟨some "--config", "request", .trigger "update" (.component "--node"), ["--config"]⟩ ∧
    Invocation.parse ["--config", "--config", "request", "trigger", "update", "--component", "--node",
      "--config"] =
      .ok ⟨some "--config", "request", .trigger "update" (.component "--node"), ["--config"]⟩ ∧
    ¬∃ i : Invocation, i.Announced ∧ i.arguments = ["scene.yaml", "trigger", "signal", "--node"] :=
  ⟨nofun, parse_exact.1 ⟨some "--config", "request", .trigger "update" (.component "--node"), ["--config"]⟩ nofun,
    (parse_exact.2.2 _).1 ⟨.missing "node id", rfl⟩⟩

end SocketGraph.CommandLine
