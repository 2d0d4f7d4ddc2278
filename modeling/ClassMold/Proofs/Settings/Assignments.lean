import ClassMold.Proofs.Settings.Accepted
import ClassMold.Settings.Session

/-! Sessions with what was validated: assignments one after another, of which some fail. Options
refuse every assignment to a name that is not set aside. The settings of a configuration can be
replaced, each on its own, the options among them; until they are, they are those that were
validated. -/
namespace ClassMold.Assignments
open Accepted

/-! ### Sessions -/

/-- An assignment: the names on the way to what is set, and a value for it. Names with two underscores
in front lead to what a configuration is made of, below its settings, and are left out. -/
structure Assignment where
  path : List Text
  value : Datum
  plain : ∀ name ∈ path, name.startsWith "__" = false

/-- An assignment to options. -/
def setOption (options : OutputOptions) (a : Assignment) : Except AssignError OutputOptions :=
  options.assignAt a.path

/-- An assignment to a configuration in use. -/
def setSetting (config : OpenConfig) (a : Assignment) : Except AssignError OpenConfig :=
  config.assignAt a.value a.path

section
variable {σ : Type} (assign : σ → Assignment → Except AssignError σ)

/-- What an assignment leaves: where it fails, everything as it was. -/
def after (state : σ) (a : Assignment) : σ :=
  match assign state a with
  | .ok next => next
  | .error _ => state

/-- What is left of a state after some assignments, whether they succeed or fail. -/
def session (state : σ) (steps : List Assignment) : σ := steps.foldl (after assign) state

/-- An assignment that fails, and changes nothing. -/
structure Refused (state : σ) (a : Assignment) (e : AssignError) : Prop where
  fails : assign state a = .error e
  unchanged : after assign state a = state

variable {assign} {state next : σ} {a : Assignment} {e : AssignError}

theorem after_ok (succeeds : assign state a = .ok next) : after assign state a = next := by
  rw [after, succeeds]

theorem refused (fails : assign state a = .error e) : Refused assign state a e where
  fails := fails
  unchanged := by rw [after, fails]

/-- What each assignment of a session keeps holds at its end. -/
theorem session_keeps {P : σ → Prop} {steps : List Assignment}
    (keeps : ∀ a ∈ steps, ∀ state, P state → P (after assign state a)) (start : P state) :
    P (session assign state steps) := by
  induction steps generalizing state with
  | nil => exact start
  | cons a rest ih =>
    obtain ⟨first, others⟩ := List.forall_mem_cons.mp keeps
    exact ih others (first state start)

end

variable {options : OutputOptions} {config : OpenConfig} {a : Assignment} {name inner : Text}
  {path rest : List Text} {value : Datum}

/-! ### Options -/

/-- An assignment to options may succeed, but it changes none of them. -/
theorem assign_at_same {next : OutputOptions} (succeeds : options.assignAt path = .ok next) :
    next = options := by
  match path with
  | [] =>
    cases succeeds
    rfl
  | [name] =>
    rw [OutputOptions.assignAt, OutputOptions.assign] at succeeds
    by_cases aside : isPrivateName name = true
    · rw [if_pos aside] at succeeds
      cases succeeds
      rfl
    · rw [if_neg aside] at succeeds
      cases succeeds
  | name :: inner :: rest =>
    rw [OutputOptions.assignAt] at succeeds
    by_cases known : OutputOptions.names.contains name = true
    · rw [if_pos known] at succeeds
      cases succeeds
    · rw [if_neg known] at succeeds
      cases succeeds

theorem assign_fixed (listed : isPrivateName name = false) : options.assignAt [name] = .error (.fixed name) := by
  rw [OutputOptions.assignAt, OutputOptions.assign, listed]
  rfl

theorem assign_aside (aside : isPrivateName name = true) : options.assignAt [name] = .ok options := by
  rw [OutputOptions.assignAt, OutputOptions.assign, if_pos aside]

theorem after_option (options : OutputOptions) (a : Assignment) : after setOption options a = options := by
  unfold after
  split
  · exact assign_at_same ‹_›
  · rfl

/-! ### Settings -/

/-- A change of one setting alone, to a value. -/
structure SetsAlone (before after : OpenConfig) (name : Text) (value : Datum) : Prop where
  given : if name = "options" then after.options = .replaced value else after.value? name = some value
  others : ∀ other, other ≠ name → after.value? other = before.value? other
  options : name ≠ "options" → after.options = before.options

theorem listed_public : ∀ name ∈ RunConfig.names, isPrivateName name = false := by decide

/-- Each setting can be set, alone and to any value. -/
theorem assign_setting (config : OpenConfig) (value : Datum) (listed : name ∈ RunConfig.names) :
    ∃ next, config.assign name value = .ok next ∧ SetsAlone config next name value := by
  simp only [RunConfig.names, List.mem_cons, List.not_mem_nil, or_false] at listed
  rcases listed with rfl | rfl | rfl | rfl | rfl
  · exact ⟨_, rfl, rfl, fun other apart => by simp [OpenConfig.value?, apart], fun _ => rfl⟩
  · exact ⟨_, rfl, rfl, fun other apart => by simp [OpenConfig.value?, apart], fun _ => rfl⟩
  · exact ⟨_, rfl, rfl, fun other apart => by simp [OpenConfig.value?, apart], fun _ => rfl⟩
  · exact ⟨_, rfl, rfl, fun other apart => by simp [OpenConfig.value?, apart], fun _ => rfl⟩
  · exact ⟨_, rfl, rfl, fun other apart => rfl, fun apart => absurd rfl apart⟩

/-- Under a name of no setting, an assignment succeeds and changes nothing if the name is set aside, and
fails otherwise. -/
theorem assign_unlisted (config : OpenConfig) (value : Datum) (unlisted : name ∉ RunConfig.names) :
    config.assign name value =
      if isPrivateName name then .ok config
      else if derivedNames.contains name then .error (.derived name)
      else .error (.unknown name) := by
  simp only [RunConfig.names, List.mem_cons, List.not_mem_nil, or_false, not_or] at unlisted
  simp only [OpenConfig.assign, unlisted, if_false]

/-- Through the options of a configuration nothing changes. -/
theorem through_same {next : OpenConfig}
    (succeeds : config.assignAt value ("options" :: inner :: rest) = .ok next) : next = config := by
  rw [OpenConfig.assignAt, if_pos rfl, OpenConfig.assignOptions] at succeeds
  cases held : config.options with
  | replaced value =>
    rw [held] at succeeds
    cases succeeds
  | validated options =>
    simp only [held] at succeeds
    cases assigned : options.assignAt (inner :: rest) with
    | error e =>
      rw [assigned] at succeeds
      cases succeeds
    | ok same =>
      obtain rfl := assign_at_same assigned
      rw [assigned] at succeeds
      cases succeeds
      simp only [← held]

/-- What an assignment does to a configuration in use: nothing, or it sets one setting alone. -/
theorem assign_at_cases {next : OpenConfig} (succeeds : config.assignAt value path = .ok next) :
    next = config ∨ ∃ name ∈ RunConfig.names, path = [name] ∧ SetsAlone config next name value := by
  match path with
  | [] =>
    cases succeeds
    exact .inl rfl
  | [name] =>
    rw [OpenConfig.assignAt] at succeeds
    by_cases listed : name ∈ RunConfig.names
    · obtain ⟨set, assigned, alone⟩ := assign_setting config value listed
      cases assigned.symm.trans succeeds
      exact .inr ⟨name, listed, rfl, alone⟩
    · rw [assign_unlisted config value listed] at succeeds
      split at succeeds
      · cases succeeds
        exact .inl rfl
      · split at succeeds <;> cases succeeds
  | name :: inner :: rest =>
    by_cases through : name = "options"
    · subst through
      exact .inl (through_same succeeds)
    · rw [OpenConfig.assignAt, if_neg through] at succeeds
      split at succeeds <;> cases succeeds

/-- Options are kept until they are replaced themselves. -/
theorem after_kept (kept : config.options = .validated options) (other : a.path ≠ [Text.ofString "options"]) :
    (after setSetting config a).options = .validated options := by
  unfold after
  split
  · rename_i next succeeds
    rcases assign_at_cases succeeds with rfl | ⟨name, -, single, alone⟩
    · exact kept
    · have apart : name ≠ "options" := fun same => other (same ▸ single)
      exact (alone.options apart).trans kept
  · exact kept

/-! ### Sessions with what was validated -/

/-- How options answer an assignment to a name of theirs or of nothing. -/
structure OptionAnswers (options : OutputOptions) : Prop where
  fixed : ∀ a name, a.path = [name] → isPrivateName name = false →
    Refused setOption options a (.fixed name)
  aside : ∀ a name, a.path = [name] → isPrivateName name = true → setOption options a = .ok options

/-- How a configuration in use answers an assignment to a setting or to a name that is none. -/
structure SettingAnswers (config : OpenConfig) : Prop where
  setting : ∀ a name, a.path = [name] → name ∈ RunConfig.names →
    setSetting config a = .ok (after setSetting config a) ∧
      SetsAlone config (after setSetting config a) name a.value
  unknown : ∀ a name, a.path = [name] → name ∉ RunConfig.names → isPrivateName name = false →
    Refused setSetting config a (if derivedNames.contains name then .derived name else .unknown name)
  aside : ∀ a name, a.path = [name] → isPrivateName name = true → setSetting config a = .ok config

/-- A configuration in use that has kept its options, and how it answers an assignment through them. -/
structure KeepsOptions (options : OutputOptions) (config : OpenConfig) : Prop where
  kept : config.options = .validated options
  fixed : ∀ a name, a.path = [Text.ofString "options", name] → isPrivateName name = false →
    Refused setSetting config a (.fixed name)
  unchanged : ∀ a inner rest, a.path = Text.ofString "options" :: inner :: rest → after setSetting config a = config

theorem option_answers (options : OutputOptions) : OptionAnswers options where
  fixed a name single listed := refused (by rw [setOption, single, assign_fixed listed])
  aside a name single aside := by rw [setOption, single, assign_aside aside]

theorem setting_answers (config : OpenConfig) : SettingAnswers config where
  setting a name single listed := by
    obtain ⟨next, assigned, alone⟩ := assign_setting config a.value listed
    have succeeds : setSetting config a = .ok next := by rw [setSetting, single, OpenConfig.assignAt, assigned]
    rw [after_ok succeeds]
    exact ⟨succeeds, alone⟩
  unknown a name single unlisted listed := by
    refine refused ?_
    rw [setSetting, single, OpenConfig.assignAt, assign_unlisted config a.value unlisted, listed, if_neg nofun]
    split <;> rfl
  aside a name single aside := by
    have unlisted : name ∉ RunConfig.names := fun listed => by simp [listed_public name listed] at aside
    rw [setSetting, single, OpenConfig.assignAt, assign_unlisted config a.value unlisted, if_pos aside]

theorem keeps_options (kept : config.options = .validated options) : KeepsOptions options config where
  kept := kept
  fixed a name through listed := by
    refine refused ?_
    rw [setSetting, through, OpenConfig.assignAt, if_pos rfl, OpenConfig.assignOptions, kept]
    simp only [assign_fixed listed]
    rfl
  unchanged a inner rest through := by
    unfold after
    split
    · rename_i next succeeds
      rw [setSetting, through] at succeeds
      exact through_same succeeds
    · rfl

/-- Options never change after they are validated. In a session with options every assignment to a name
that is not set aside fails, and they stay as they are, never with both final fields and setters. In a
session with a configuration each setting can be set alone, any other name that is not set aside is
refused, and as long as the options themselves are not replaced they stay as they are and refuse every
assignment through them. -/
theorem options_never_change :
    (∀ store data options, (OutputOptions.validate store data).outcome = .ok options →
      ¬ (options.finalFields = true ∧ options.setters = true) ∧
      ∀ steps, session setOption options steps = options ∧ OptionAnswers (session setOption options steps)) ∧
    ∀ store data config, (RunConfig.validate store data).outcome = .ok config →
      ¬ (config.options.finalFields = true ∧ config.options.setters = true) ∧
      ∀ steps, SettingAnswers (session setSetting (.ofRunConfig config) steps) ∧
        ((∀ a ∈ steps, a.path ≠ [Text.ofString "options"]) →
          KeepsOptions config.options (session setSetting (.ofRunConfig config) steps)) := by
  constructor
  · intro store data options accepted
    refine ⟨fun ⟨final, setters⟩ => ?_, fun steps => ?_⟩
    · cases (Flags.setters_give_way accepted final).symm.trans setters
    · have same : session setOption options steps = options :=
        session_keeps (P := (· = options)) (fun a _ state same => same ▸ after_option state a) rfl
      exact ⟨same, option_answers _⟩
  · intro store data config accepted
    refine ⟨accepted_apart accepted, fun steps => ⟨setting_answers _, fun others => keeps_options ?_⟩⟩
    exact session_keeps (P := fun state : OpenConfig => state.options = .validated config.options)
      (fun a listed state kept => after_kept kept (others a listed)) rfl

/-- The configuration of a run with final fields. -/
def orders : RunConfig := ⟨"1.0", "order.json", "Order", ".", { finalFields := true }⟩

/-- What it is given as: setters are asked for as well. -/
def ordersGiven : Datum := .mapping [(.str "input", .str "order.json"), (.str "class_name", .str "Order"),
  (.str "options", .mapping [(.str "final_fields", .bool true), (.str "setters", .bool true)])]

/-- An assignment to a name that is set aside. -/
def underscored : Assignment := ⟨["_x"], .int 1, by decide⟩

/-- Assignments to an option, to a name of nothing, to a name that is set aside, and to the input. -/
def meddling : List Assignment := [⟨["options", "setters"], .bool true, by decide⟩,
  ⟨["bogus"], .int 1, by decide⟩, underscored, ⟨["input"], .int 1, by decide⟩]

/-- Whatever is tried, the options are kept, and only the input is another one. -/
theorem orders_meddled : session setOption { getters := true } meddling = { getters := true } ∧
    KeepsOptions orders.options (session setSetting (.ofRunConfig orders) meddling) ∧
    (session setSetting (.ofRunConfig orders) meddling).input = .int 1 := by
  have options : (OutputOptions.validate .empty (.mapping [(.str "getters", .bool true)])).outcome =
      .ok { getters := true } := rfl
  have config : (RunConfig.validate .empty ordersGiven).outcome = .ok orders := rfl
  refine ⟨((options_never_change.1 _ _ _ options).2 meddling).1,
    ((options_never_change.2 _ _ _ config).2 meddling).2 ?_, rfl⟩
  simp only [meddling, List.forall_mem_cons, List.not_mem_nil, false_imp_iff, implies_true, and_true]
  decide

/-- Under a name that is set aside an assignment succeeds, to options as to a configuration, although it
is the name of no setting. -/
theorem underscored_set_aside : (OutputOptions.validate .empty (.mapping [])).outcome = .ok {} ∧
    setOption {} underscored = .ok {} ∧ setOption {} underscored ≠ .error (.fixed "_x") ∧
    (RunConfig.validate .empty ordersGiven).outcome = .ok orders ∧
    setSetting (.ofRunConfig orders) underscored = .ok (.ofRunConfig orders) :=
  ⟨rfl, rfl, nofun, rfl, rfl⟩

end ClassMold.Assignments
