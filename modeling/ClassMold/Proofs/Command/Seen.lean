import ClassMold.Command.Run
import ClassMold.Proofs.Files.Growth
import ClassMold.Proofs.Text.Printable

/-! What is seen of the program from outside: how a step of it ends, what it prints as its
result, and what becomes of the files. Notices and complaints are left out. The rules here
follow the ways in which steps are put together, so that each command can be taken
apart without opening the layers that a step is made of. -/
namespace ClassMold.Seen
open Command Printable

variable {α β ε : Type} {before middle after tree : FileTree} {host : Host (StateM FileTree)}
  {words : List Text} {t : Text}

/-- How a step ends and what it prints as its result. -/
@[ext]
structure Sight (α : Type) where
  result : Except Ending α
  output : Text

/-- A step takes a tree to another one and shows this, whatever was printed before it. -/
def Runs (step : Program (StateM FileTree) α) (before : FileTree) (sight : Sight α) (after : FileTree) :
    Prop :=
  ∀ transcript, ∃ errors, (step.run.run transcript).run before =
    ((sight.result, ⟨transcript.output ++ sight.output, errors⟩), after)

variable {step : Program (StateM FileTree) α} {next : α → Program (StateM FileTree) β}
  {sight other : Sight α} {rest : Sight β} {value : α} {result : Except Ending β}
  {output more : Text} {ending : Ending}

theorem ok_of_option {outcome : Except ε α} (held : outcome.toOption = some value) :
    outcome = .ok value := by
  cases outcome with
  | error e => cases held
  | ok other => exact congrArg _ (Option.some.inj held)

/-- What a step yields is known by what is asked of it. -/
theorem ok_of_asked {outcome : Except ε α} {ask : α → β} {answer : β}
    (asked : outcome.toOption.map ask = some answer) : ∃ value, outcome = .ok value ∧ ask value = answer := by
  obtain ⟨value, held, answered⟩ := Option.map_eq_some_iff.mp asked
  exact ⟨value, ok_of_option held, answered⟩

/-! ### How steps are put together -/

theorem runs_pure (value : α) (tree : FileTree) :
    Runs (pure value : Program (StateM FileTree) α) tree ⟨.ok value, []⟩ tree :=
  fun transcript => ⟨transcript.errors, by rw [List.append_nil]; rfl⟩

theorem runs_throw (ending : Ending) (tree : FileTree) :
    Runs (throw ending : Program (StateM FileTree) α) tree ⟨.error ending, []⟩ tree :=
  fun transcript => ⟨transcript.errors, by rw [List.append_nil]; rfl⟩

theorem bind_run (transcript : Transcript) : ((step >>= next).run.run transcript).run before =
    match (step.run.run transcript).run before with
    | ((.ok value, made), middle) => ((next value).run.run made).run middle
    | ((.error ending, made), middle) => ((.error ending, made), middle) := by
  rw [ExceptT.run_bind, StateT.run_bind, StateT.run_bind]
  rcases (step.run.run transcript).run before with ⟨⟨result, made⟩, middle⟩
  cases result <;> rfl

theorem runs_bind (first : Runs step before ⟨.ok value, output⟩ middle)
    (second : Runs (next value) middle ⟨result, more⟩ after) :
    Runs (step >>= next) before ⟨result, output ++ more⟩ after := by
  intro transcript
  obtain ⟨errors, ran⟩ := first transcript
  obtain ⟨errors', went⟩ := second ⟨transcript.output ++ output, errors⟩
  refine ⟨errors', ?_⟩
  rw [bind_run, ran]
  simpa using went

theorem runs_bind_stop (first : Runs step before ⟨.error ending, output⟩ after) :
    Runs (step >>= next) before ⟨.error ending, output⟩ after := by
  intro transcript
  obtain ⟨errors, ran⟩ := first transcript
  exact ⟨errors, by rw [bind_run, ran]⟩

/-- After a step that prints nothing comes what comes next. -/
theorem runs_then (first : Runs step before ⟨.ok value, []⟩ middle)
    (second : Runs (next value) middle rest after) : Runs (step >>= next) before rest after :=
  runs_bind first second

/-- What comes last may print nothing. -/
theorem runs_last (first : Runs step before ⟨.ok value, output⟩ middle)
    (second : Runs (next value) middle ⟨result, []⟩ after) :
    Runs (step >>= next) before ⟨result, output⟩ after := by
  simpa using runs_bind first second

/-! ### Printing -/

theorem runs_try_print (t : Text) (tree : FileTree) : Runs (tryPrint t) tree
    (match Utf8.encode t with
    | .error e => ⟨.ok (.error e), []⟩
    | .ok _ => ⟨.ok (.ok ()), t⟩) tree := by
  unfold tryPrint
  cases Utf8.encode t with
  | error e => exact runs_pure _ tree
  | ok bytes => exact fun transcript => ⟨transcript.errors, rfl⟩

theorem runs_print (printable : IsPrintable t) (tree : FileTree) :
    Runs (print t) tree ⟨.ok (), t⟩ tree := by
  obtain ⟨bytes, encoded⟩ := encode_ok_iff.mpr printable
  have printed := runs_try_print t tree
  rw [encoded] at printed
  exact runs_last printed (runs_pure () tree)

theorem runs_print_stop {e : Utf8.EncodeError} (fails : Utf8.encode t = .error e) (tree : FileTree) :
    Runs (print t) tree ⟨.error (.escape (.unprintable e)), []⟩ tree := by
  have printed := runs_try_print t tree
  rw [fails] at printed
  exact runs_then printed (runs_throw _ tree)

/-- What is seen of a line that is said before something else is seen. A line that cannot be
printed ends the run. -/
def said (t : Text) (sight : Sight α) : Sight α :=
  match Utf8.encode t with
  | .error e => ⟨.error (.escape (.unprintable e)), []⟩
  | .ok _ => ⟨sight.result, t ++ "\n" ++ sight.output⟩

theorem said_printable (printable : IsPrintable t) (sight : Sight α) :
    said t sight = ⟨sight.result, t ++ "\n" ++ sight.output⟩ := by
  obtain ⟨bytes, encoded⟩ := encode_ok_iff.mpr printable
  simp [said, encoded]

theorem said_unprintable (unprintable : ¬ IsPrintable t) (sight : Sight α) :
    ∃ e, said t sight = ⟨.error (.escape (.unprintable e)), []⟩ := by
  cases encoded : Utf8.encode t with
  | error e => exact ⟨e, by simp [said, encoded]⟩
  | ok bytes => exact absurd (encode_ok_iff.mp ⟨bytes, encoded⟩) unprintable

/-- A run ends here, and not well. -/
def Fails (sight : Sight α) : Prop :=
  ∃ ending output, sight = ⟨.error ending, output⟩ ∧ ending ≠ .code 0

/-- What is seen is of no kind of value, as a run ends here, and not well. -/
def Stops (sight : (α : Type) → Sight α) : Prop :=
  ∃ ending output, ending ≠ .code 0 ∧ ∀ α, sight α = ⟨.error ending, output⟩

theorem stops_code (output : Text) : Stops fun _ => ⟨.error (.code 1), output⟩ :=
  ⟨.code 1, output, by decide, fun _ => rfl⟩

theorem stops_escape (e : Escape) (output : Text) : Stops fun _ => ⟨.error (.escape e), output⟩ :=
  ⟨.escape e, output, Ending.noConfusion, fun _ => rfl⟩

theorem stops_fails {sight : (α : Type) → Sight α} (stops : Stops sight) (α : Type) : Fails (sight α) := by
  obtain ⟨ending, output, bad, same⟩ := stops
  exact ⟨ending, output, same α, bad⟩

/-- What ends a run ends it after a line, too, or the line does. -/
theorem said_stops {sight : (α : Type) → Sight α} (t : Text) (stops : Stops sight) :
    Stops fun α => said t (sight α) := by
  obtain ⟨ending, output, bad, same⟩ := stops
  simp only [same, said]
  cases Utf8.encode t with
  | error e => exact stops_escape (.unprintable e) []
  | ok bytes => exact ⟨_, _, bad, fun _ => rfl⟩

theorem runs_say {next : Unit → Program (StateM FileTree) β} (t : Text)
    (goes : Runs (next ()) tree rest tree) : Runs (say t >>= next) tree (said t rest) tree := by
  by_cases printable : IsPrintable t
  · rw [said_printable printable]
    have line : Runs (say t) tree ⟨.ok (), t ++ "\n"⟩ tree := by
      refine runs_bind (runs_print printable tree) ?_
      exact runs_print (printable_string "\n") tree
    exact runs_bind line goes
  · obtain ⟨e, fails⟩ : ∃ e, Utf8.encode t = .error e := by
      cases encoded : Utf8.encode t with
      | error e => exact ⟨e, rfl⟩
      | ok bytes => exact absurd (encode_ok_iff.mp ⟨bytes, encoded⟩) printable
    have stops : said t rest = ⟨.error (.escape (.unprintable e)), []⟩ := by simp [said, fails]
    rw [stops]
    exact runs_bind_stop (runs_bind_stop (runs_print_stop fails tree))

theorem runs_print_error (t : Text) (tree : FileTree) : Runs (printError t) tree ⟨.ok (), []⟩ tree :=
  fun transcript => ⟨transcript.errors ++ t.escapeSurrogates, by rw [List.append_nil]; rfl⟩

theorem runs_heed (log : Log) (reported : Reported ε α) (tree : FileTree) :
    Runs (heed log reported) tree ⟨.ok reported.outcome, []⟩ tree :=
  runs_then (runs_print_error _ tree) (runs_pure _ tree)

/-! ### The host -/

theorem runs_on_host {work : StateM FileTree α} (ran : work.run before = (value, after)) :
    Runs (onHost work) before ⟨.ok value, []⟩ after := by
  intro transcript
  refine ⟨transcript.errors, ?_⟩
  have shape : ((onHost work).run.run transcript).run before =
      ((.ok (work.run before).1, transcript), (work.run before).2) := rfl
  rw [shape, ran, List.append_nil]

/-! ### Whole runs -/

/-- How a run ends whose last step ends in some way. -/
def endingOf : Except Ending Nat → Ending
  | .ok code => .code code
  | .error ending => ending

theorem fails_ending {sight : Sight Nat} (fails : Fails sight) : endingOf sight.result ≠ .code 0 := by
  obtain ⟨ending, output, rfl, bad⟩ := fails
  exact bad

/-- What is seen of the program is how a run of it ends and what it prints. -/
theorem run_of_runs {sight : Sight Nat} (runs : Runs (program host words) before sight after) :
    ∃ errors, (Command.run host words).run before =
      (⟨endingOf sight.result, ⟨sight.output, errors⟩⟩, after) := by
  obtain ⟨errors, ran⟩ := runs ⟨[], []⟩
  refine ⟨errors, ?_⟩
  unfold Command.run
  refine (Growth.run_bind_of ran).trans ?_
  cases sight.result <;> rfl

end ClassMold.Seen
