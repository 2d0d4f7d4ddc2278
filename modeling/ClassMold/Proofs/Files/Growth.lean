import ClassMold.Files.Tree
import ClassMold.Proofs.Files.Paths

/-! How a tree grows. Directories are only ever added, and only on the way that a path
takes, so a path that leads somewhere goes on to lead there. Making a directory with
the ones above it does nothing else, whether it succeeds or stops halfway. -/
namespace ClassMold.Growth
open ClassMold.Path Paths

variable {tree before middle after : FileTree} {place other led directory : List Text} {entry : Entry}
  {p : Path} {steps part : List Text} {start : PathStart} {path last : Text} {homes : Homes}
  {mark : Text}

/-! ### Steps on a tree -/

@[simp] theorem host_homes (homes : Homes) (mark : Text) : (FileTree.host homes mark).homes = homes := rfl

theorem run_bind_of {α β : Type} {step : StateM FileTree α} {next : α → StateM FileTree β} {first : α}
    (ran : step.run before = (first, middle)) : (step >>= next).run before = (next first).run middle := by
  rw [StateT.run_bind, ran]
  rfl

theorem run_bind_iff {α β : Type} {step : StateM FileTree α} {next : α → StateM FileTree β} {value : β} :
    (step >>= next).run before = (value, after) ↔ ∃ first middle,
      step.run before = (first, middle) ∧ (next first).run middle = (value, after) := by
  constructor
  · intro ran
    exact ⟨_, _, rfl, ran⟩
  · rintro ⟨first, middle, ran, rest⟩
    rw [run_bind_of ran, rest]

/-! ### Entries -/

theorem entry_root (tree : FileTree) : tree.entry? [] = some .directory := rfl

theorem entry_insert (inside : place ≠ []) (entry : Entry) (other : List Text) :
    FileTree.entry? (tree.insert place entry) other = if other = place then some entry else tree.entry? other := by
  unfold FileTree.entry? FileTree.insert
  by_cases same : other = place
  · subst same
    simp [inside]
  · have kept : (tree.entries.filter (·.1 != place)).find? (·.1 == other) =
        tree.entries.find? (·.1 == other) := by
      induction tree.entries with
      | nil => rfl
      | cons x rest ih =>
        by_cases here : x.1 = place
        · simp [here, Ne.symm same, ih]
        · simp [here, List.find?_cons, ih]
    simp [same, Ne.symm same, kept]

theorem vacant_entries (vacant : tree.entry? place = none) : ∀ x ∈ tree.entries, x.1 ≠ place := by
  unfold FileTree.entry? at vacant
  split at vacant
  · cases vacant
  · intro x listed same
    have none := List.find?_eq_none.mp (Option.map_eq_none_iff.mp vacant) x listed
    exact none (by simp [same])

theorem no_directory_inside (other : tree.entry? place ≠ some .directory) : place ≠ [] := by
  rintro rfl
  exact other (entry_root tree)

theorem vacant_inside (vacant : tree.entry? place = none) : place ≠ [] :=
  no_directory_inside (by simp [vacant] : tree.entry? place ≠ some .directory)

/-- An entry that is made at a vacant place and taken away leaves no trace. -/
theorem erase_insert (vacant : tree.entry? place = none) (entry : Entry) :
    (tree.insert place entry).erase place = tree := by
  have kept : tree.entries.filter (·.1 != place) = tree.entries :=
    List.filter_eq_self.mpr fun x listed => by simpa using vacant_entries vacant x listed
  simp [FileTree.insert, FileTree.erase, kept]

/-- Of two entries at one place the later one counts. -/
theorem insert_insert (first second : Entry) :
    (tree.insert place first).insert place second = tree.insert place second := by
  simp [FileTree.insert]

/-! ### Following a path -/

/-- Whatever is a directory stays one. -/
def KeepsDirectories (before after : FileTree) : Prop :=
  ∀ place, before.entry? place = some .directory → after.entry? place = some .directory

theorem follow_kept (kept : KeepsDirectories before after)
    (follows : before.follow place steps = .ok led) : after.follow place steps = .ok led := by
  fun_induction FileTree.follow before place steps with
  | case1 place => exact follows
  | case2 place last => exact follows
  | case3 place step rest more fault stops => cases follows
  | case4 place step rest more inner goes vacant => cases follows
  | case5 place step rest more inner goes content file => cases follows
  | case6 place step rest more inner goes directory ih =>
    -- the only case that goes on, and it does so from a directory
    rw [FileTree.follow, goes]
    · simp only [kept inner directory]
      exact ih follows
    · exact more

/-- All but the last step have to lead into directories. -/
theorem follow_step (nonempty : steps ≠ []) :
    tree.follow place (steps ++ [last]) = .ok led ↔ ∃ directory,
      tree.follow place steps = .ok directory ∧ tree.entry? directory = some .directory ∧
        FileTree.next directory last = .ok led := by
  induction steps generalizing place with
  | nil => exact absurd rfl nonempty
  | cons step rest ih =>
    have more : rest ++ [last] ≠ [] := by simp
    rw [List.cons_append, FileTree.follow.eq_3 _ _ _ _ more]
    cases rest with
    | nil =>
      cases goes : FileTree.next place step with
      | error fault => simp [FileTree.follow, goes]
      | ok inner =>
        simp only [FileTree.follow, goes, List.nil_append]
        cases held : tree.entry? inner with
        | none => simp [held]
        | some entry => cases entry <;> simp [held]
    | cons next others =>
      rw [FileTree.follow.eq_3 _ _ _ _ (List.cons_ne_nil next others)]
      cases goes : FileTree.next place step with
      | error fault => simp
      | ok inner =>
        cases held : tree.entry? inner with
        | none => simp [held]
        | some entry =>
          cases entry with
          | file content => simp [held]
          | directory => simpa [held] using ih (List.cons_ne_nil next others)

/-- The directory that a path starts from. -/
def base (tree : FileTree) (start : PathStart) : List Text :=
  if start = .here then tree.working else []

theorem place_ok_iff : tree.place path = .ok led ↔ pathError? path = none ∧ path ≠ [] ∧
    fileNameSize path < FileTree.pathLimit ∧
      tree.follow (base tree (ofText path).start) (ofText path).steps = .ok led := by
  unfold FileTree.place
  cases pathError? path with
  | some error => simp
  | none =>
    by_cases empty : path = []
    · simp [empty]
    · by_cases long : fileNameSize path ≥ FileTree.pathLimit
      · have bound : ¬ fileNameSize path < FileTree.pathLimit := by omega
        simp [empty, long, bound]
      · have bound : fileNameSize path < FileTree.pathLimit := by omega
        obtain ⟨start, steps⟩ := ofText path
        simp only [empty, long, bound, ↓reduceIte, true_and, base]
        cases tree.follow (if start = .here then tree.working else []) steps <;> simp [empty]

theorem place_kept (kept : KeepsDirectories before after) (working : after.working = before.working)
    (leads : before.place path = .ok led) : after.place path = .ok led := by
  obtain ⟨encodable, nonempty, short, follows⟩ := place_ok_iff.mp leads
  refine place_ok_iff.mpr ⟨encodable, nonempty, short, ?_⟩
  rw [base, working]
  exact follow_kept kept follows

theorem to_text_nonempty (normal : IsNormal p) : p.toText ≠ [] := by
  obtain ⟨start, steps⟩ := p
  cases steps with
  | nil => cases start <;> decide
  | cons step rest =>
    obtain ⟨c, more, shape, -⟩ := joined_start (List.cons_ne_nil step rest) normal
    rw [to_text_some start (List.cons_ne_nil step rest), shape]
    simp

theorem place_normal_iff (normal : IsNormal p) :
    tree.place p.toText = .ok led ↔ pathError? p.toText = none ∧
      fileNameSize p.toText < FileTree.pathLimit ∧ tree.follow (base tree p.start) p.steps = .ok led := by
  rw [place_ok_iff, of_text_to_text normal]
  simp [to_text_nonempty normal]

/-! ### Directories on the way of a path -/

/-- A place that a first part of a path leads to. -/
def OnTheWay (p : Path) (tree : FileTree) (place : List Text) : Prop :=
  ∃ part, part <+: p.steps ∧ tree.place (toText ⟨p.start, part⟩) = .ok place

/-- Nothing but directories on the way of a path has been added to a tree. -/
structure Grown (p : Path) (before after : FileTree) : Prop where
  working : after.working = before.working
  kept : ∀ place entry, before.entry? place = some entry → after.entry? place = some entry
  added : ∀ place entry, after.entry? place = some entry → before.entry? place = some entry ∨
    before.entry? place = none ∧ entry = .directory ∧ OnTheWay p after place

theorem grown_refl (p : Path) (tree : FileTree) : Grown p tree tree :=
  ⟨rfl, fun _ _ held => held, fun _ _ held => .inl held⟩

theorem grown_place (grown : Grown p before after) (led : before.place path = .ok place) :
    after.place path = .ok place :=
  place_kept (fun place => grown.kept place .directory) grown.working led

theorem grown_trans (first : Grown p before middle) (second : Grown p middle after) :
    Grown p before after where
  working := second.working.trans first.working
  kept place entry held := second.kept place entry (first.kept place entry held)
  added place entry held := by
    rcases second.added place entry held with earlier | ⟨vacant, made, way⟩
    · rcases first.added place entry earlier with old | ⟨vacant, made, part, within, led⟩
      · exact .inl old
      · exact .inr ⟨vacant, made, part, within, grown_place second led⟩
    · refine .inr ⟨?_, made, way⟩
      cases old : before.entry? place with
      | none => rfl
      | some entry => cases (first.kept place entry old).symm.trans vacant

/-- A file is where it was, and nowhere else. -/
theorem grown_file {content : Bytes} (grown : Grown p before after) :
    after.entry? place = some (.file content) ↔ before.entry? place = some (.file content) := by
  refine ⟨fun held => ?_, grown.kept place _⟩
  rcases grown.added place _ held with old | ⟨-, made, -⟩
  · exact old
  · cases made

variable {result : Except FileError Unit} {error : FileError}

/-- Making a directory either adds it or changes nothing. -/
theorem create_directory_grows (within : part <+: p.steps)
    (ran : ((FileTree.host homes mark).createDirectory (toText ⟨p.start, part⟩)).run before =
      (result, after)) : Grown p before after := by
  change FileTree.attempt (·.createDirectory (toText ⟨p.start, part⟩)) before = (result, after) at ran
  unfold FileTree.attempt at ran
  split at ran
  · rename_i changed made
    cases ran
    unfold FileTree.createDirectory at made
    cases led : before.place (toText ⟨p.start, part⟩) with
    | error e => simp [led, bind, Except.bind] at made
    | ok place =>
      simp only [led, bind, Except.bind] at made
      split at made
      · cases made
      · rename_i vacant
        cases made
        have inside := vacant_inside vacant
        have kept : ∀ other entry, before.entry? other = some entry →
            FileTree.entry? (before.insert place .directory) other = some entry := by
          intro other entry held
          rw [entry_insert inside, if_neg, held]
          rintro rfl
          cases held.symm.trans vacant
        refine ⟨rfl, kept, fun other entry held => ?_⟩
        rw [entry_insert inside] at held
        split at held
        · rename_i same
          cases held
          subst same
          have keeps : KeepsDirectories before (before.insert other .directory) := fun place => kept place _
          exact .inr ⟨vacant, rfl, part, within, place_kept keeps rfl led⟩
        · exact .inl held
  · cases ran
    exact grown_refl p before

/-- Looking whether an error matters changes nothing. -/
theorem settle_keeps (ran : (Host.createDirectoriesAlong.settle (FileTree.host homes mark) path error).run
    before = (result, after)) : after = before := by
  unfold Host.createDirectoriesAlong.settle at ran
  split at ran
  · obtain ⟨found, middle, looked, rest⟩ := run_bind_iff.mp ran
    cases looked
    split at rest <;> cases rest <;> rfl
  · cases ran
    rfl

theorem create_here_grows (within : part <+: p.steps)
    (ran : (Host.createDirectoriesAlong.createHere (FileTree.host homes mark)
      (toText ⟨p.start, part⟩)).run before = (result, after)) : Grown p before after := by
  unfold Host.createDirectoriesAlong.createHere at ran
  obtain ⟨made, middle, making, rest⟩ := run_bind_iff.mp ran
  have grown := create_directory_grows within making
  split at rest
  · cases rest
    exact grown
  · cases rest
    exact grown
  · rw [settle_keeps rest]
    exact grown

/-- Making a directory with the ones above it adds directories on its way, wherever it stops. -/
theorem create_along_grows {above : List Text} (within : above.reverse <+: p.steps)
    (ran : ((FileTree.host homes mark).createDirectoriesAlong p.start above).run before =
      (result, after)) : Grown p before after := by
  -- The steps come last one first, so going up the way is a recursion on them.
  induction above generalizing before after result with
  | nil => exact create_here_grows List.nil_prefix ran
  | cons step above ih =>
    rw [Host.createDirectoriesAlong] at ran
    obtain ⟨made, middle, making, rest⟩ := run_bind_iff.mp ran
    have grown := create_directory_grows within making
    have shorter : above.reverse <+: p.steps :=
      List.IsPrefix.trans (by simp [List.reverse_cons]) within
    split at rest
    · cases rest
      exact grown
    · obtain ⟨upper, later, climbed, last⟩ := run_bind_iff.mp rest
      have more := grown_trans grown (ih shorter climbed)
      split at last
      · cases last
        exact more
      · exact grown_trans more (create_here_grows within last)
    · rw [settle_keeps rest]
      exact grown

theorem create_directories_grows
    (ran : ((FileTree.host homes mark).createDirectories p).run before = (result, after)) :
    Grown p before after :=
  create_along_grows (by simp) ran

theorem create_directory_present (leads : tree.place path = .ok place)
    (present : tree.entry? place = some .directory) :
    ((FileTree.host homes mark).createDirectory path).run tree =
      (.error (.refused .exists path), tree) := by
  have refused : tree.createDirectory path = .error (.refused .exists path) := by
    simp [FileTree.createDirectory, leads, bind, Except.bind, present]
  change FileTree.attempt (·.createDirectory path) tree = _
  simp [FileTree.attempt, refused]

theorem settle_present (leads : tree.place path = .ok place)
    (present : tree.entry? place = some .directory) :
    (Host.createDirectoriesAlong.settle (FileTree.host homes mark) path (.refused .exists path)).run tree =
      (.ok (), tree) := by
  unfold Host.createDirectoriesAlong.settle
  have found : tree.isDirectory path = true := by simp [FileTree.isDirectory, leads, present]
  have looked : ((FileTree.host homes mark).isDirectory path).run tree = (true, tree) := by
    change (tree.isDirectory path, tree) = _
    rw [found]
  simp only [FileError.isRefusal, ↓reduceIte]
  exact run_bind_iff.mpr ⟨true, tree, looked, rfl⟩

/-- Nothing is made where there is a directory already. -/
theorem create_directories_present (leads : tree.place p.toText = .ok place)
    (present : tree.entry? place = some .directory) :
    ((FileTree.host homes mark).createDirectories p).run tree = (.ok (), tree) := by
  obtain ⟨start, steps⟩ := p
  unfold Host.createDirectories
  cases way : steps.reverse with
  | nil =>
    obtain rfl := List.reverse_eq_nil_iff.mp way
    exact run_bind_iff.mpr ⟨_, tree, create_directory_present leads present,
      settle_present leads present⟩
  | cons step above =>
    obtain rfl := List.reverse_eq_iff.mp way
    exact run_bind_iff.mpr ⟨_, tree, create_directory_present leads present,
      settle_present leads present⟩

end ClassMold.Growth
