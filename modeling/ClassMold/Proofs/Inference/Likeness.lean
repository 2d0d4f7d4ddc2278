import ClassMold.Proofs.Inference.Reach
import ClassMold.Source

/-! Only the spine of first elements counts. Samples that agree along it, up to
the content of scalars, give the same run: the same tree and notices or the
same error. The statement is about two runs, so it is proved along both samples
at once; a look at a later element or at a scalar's content would break it. -/
namespace ClassMold.Likeness
open Sample Reach

mutual

/-- Samples that agree in the kinds of their scalars, in the keys of their
objects, and in the first elements of their lists. -/
inductive Alike : Sample → Sample → Prop where
  | null : Alike .null .null
  | bool (a b : Bool) : Alike (.bool a) (.bool b)
  | int (a b : Int) : Alike (.int a) (.int b)
  | float (a b : Binary64) : Alike (.float a) (.float b)
  | str (a b : Text) : Alike (.str a) (.str b)
  | foreign (kind : ForeignKind) : Alike (.foreign kind) (.foreign kind)
  | emptyList : Alike (.list []) (.list [])
  | list {a b : Sample} (first : Alike a b) (later others : List Sample) :
      Alike (.list (a :: later)) (.list (b :: others))
  | object {members others : List (Text × Sample)} (pairwise : AlikeMembers members others) :
      Alike (.object members) (.object others)

/-- The same keys in the same order, with alike values. -/
inductive AlikeMembers : List (Text × Sample) → List (Text × Sample) → Prop where
  | nil : AlikeMembers [] []
  | cons {a b : Sample} {members others : List (Text × Sample)} (key : Text) (value : Alike a b)
      (rest : AlikeMembers members others) : AlikeMembers ((key, a) :: members) ((key, b) :: others)

end

/-- One change that leaves the spine as it is: to the content of a scalar or to
the later elements of a list, anywhere in the sample. -/
inductive Retouched : Sample → Sample → Prop where
  | bool (a b : Bool) : Retouched (.bool a) (.bool b)
  | int (a b : Int) : Retouched (.int a) (.int b)
  | float (a b : Binary64) : Retouched (.float a) (.float b)
  | str (a b : Text) : Retouched (.str a) (.str b)
  | later (first : Sample) (later others : List Sample) :
      Retouched (.list (first :: later)) (.list (first :: others))
  | first {a b : Sample} (inside : Retouched a b) (later : List Sample) :
      Retouched (.list (a :: later)) (.list (b :: later))
  | member {a b : Sample} (before : List (Text × Sample)) (key : Text) (inside : Retouched a b)
      (after : List (Text × Sample)) :
      Retouched (.object (before ++ (key, a) :: after)) (.object (before ++ (key, b) :: after))

mutual

theorem alike_refl : ∀ value : Sample, Alike value value
  | .null => .null
  | .bool a => .bool a a
  | .int a => .int a a
  | .float a => .float a a
  | .str a => .str a a
  | .foreign kind => .foreign kind
  | .list [] => .emptyList
  | .list (first :: later) => .list (alike_refl first) later later
  | .object members => .object (members_alike_refl members)

theorem members_alike_refl : ∀ members : List (Text × Sample), AlikeMembers members members
  | [] => .nil
  | (key, value) :: rest => .cons key (alike_refl value) (members_alike_refl rest)

end

theorem members_alike_inside {a b : Sample} (before : List (Text × Sample)) (key : Text)
    (inside : Alike a b) (after : List (Text × Sample)) :
    AlikeMembers (before ++ (key, a) :: after) (before ++ (key, b) :: after) := by
  induction before with
  | nil => exact .cons key inside (members_alike_refl after)
  | cons member before ih =>
    obtain ⟨other, value⟩ := member
    exact .cons other (alike_refl value) ih

theorem retouched_alike {s t : Sample} (retouched : Retouched s t) : Alike s t := by
  induction retouched with
  | bool a b => exact .bool a b
  | int a b => exact .int a b
  | float a b => exact .float a b
  | str a b => exact .str a b
  | later first later others => exact .list (alike_refl first) later others
  | first inside later ih => exact .list ih later later
  | member before key inside after ih => exact .object (members_alike_inside before key ih after)

theorem alike_depth {s t : Sample} (alike : Alike s t) : s.arrayDepth = t.arrayDepth := by
  induction s using Sample.arrayDepth.induct generalizing t with
  | case1 => cases alike; rfl
  | case2 first later ih =>
    cases alike with
    | list same => simpa only [arrayDepth, Nat.add_right_cancel_iff] using ih same
  | case3 value notEmpty notCons =>
    cases alike with
    | emptyList => exact absurd rfl notEmpty
    | list => exact absurd rfl (notCons _ _)
    | _ => rfl

theorem alike_core {s t : Sample} (alike : Alike s t) : Alike s.core t.core := by
  induction s using Sample.core.induct generalizing t with
  | case1 => cases alike; exact .null
  | case2 first later ih =>
    cases alike with
    | list same =>
      rw [core, core]
      exact ih same
  | case3 value notEmpty notCons =>
    cases alike with
    | emptyList => exact absurd rfl notEmpty
    | list => exact absurd rfl (notCons _ _)
    | object pairwise => exact .object pairwise
    | _ => constructor

theorem alike_element {s t : Sample} (key : Text) (alike : Alike s t)
    (flat : ∀ items, s ≠ .list items) : resolveElement key s = resolveElement key t := by
  cases alike with
  | emptyList => exact absurd rfl (flat [])
  | list => exact absurd rfl (flat _)
  | _ => rfl

theorem alike_field {s t : Sample} (key : Text) (alike : Alike s t) :
    Field.ofMember key s = Field.ofMember key t := by
  have resolved : resolveType key s = resolveType key t :=
    alike_element key (alike_core alike) (core_ne_list s)
  simp only [Field.ofMember, resolved, alike_depth alike]

/-- Alike samples have the same run. -/
theorem alike_run {s t : Sample} (alike : Alike s t) (name : Text) (depth : Int) :
    inferClass name depth s = inferClass name depth t := by
  refine (visited.mutual_induct
    (fun s => ∀ t, Alike s t → ∀ name depth, inferClass name depth s = inferClass name depth t)
    (fun members => ∀ others, AlikeMembers members others →
      ∀ depth, inferMembers depth members = inferMembers depth others)
    ?_ ?_ ?_ ?_ ?_).1 s t alike name depth
  · intro first later ih t alike name depth
    cases alike with
    | @list _ b same _ others =>
      rw [inferClass, inferClass]
      exact ih b same name depth
  · intro members ih t alike name depth
    cases alike with
    | @object _ others pairwise =>
      rw [inferClass, inferClass, ih others pairwise depth]
  · intro value notCons notObject t alike name depth
    cases alike with
    | list => exact absurd rfl (notCons _ _)
    | object => exact absurd rfl (notObject _)
    | _ => rfl
  · intro others pairwise depth
    cases pairwise
    rfl
  · intro key value rest ih ihRest others pairwise depth
    cases pairwise with
    | @cons _ other _ others _ alike tail =>
      simp only [inferMembers, alike_field key alike, ih other alike, ihRest others tail]

/-- A run, and with it the source under any options, depends on a sample only
through what alike samples share; so no change to a scalar's content or to the
later elements of a list ever shows in the source. -/
theorem spine_decides_source (s t : Sample) :
    (Alike s t → ∀ name depth, inferClass name depth s = inferClass name depth t ∧
      ∀ options, (inferClass name depth s).outcome.map (ClassTree.render options) =
        (inferClass name depth t).outcome.map (ClassTree.render options)) ∧
      (Retouched s t → ∀ name depth options,
        (inferClass name depth s).outcome.map (ClassTree.render options) =
          (inferClass name depth t).outcome.map (ClassTree.render options)) := by
  constructor
  · intro alike name depth
    have same := alike_run alike name depth
    exact ⟨same, fun options => by rw [same]⟩
  · intro retouched name depth options
    rw [alike_run (retouched_alike retouched) name depth]

/-- Two samples with nothing in common but their spine. -/
def plainOrder : Sample := .object [
  ("id", .int 1), ("lines", .list [.object [("sku", .str "a"), ("tags", .list [])]])]

/-- The same spine with other contents and a later element of another kind. -/
def longOrder : Sample := .object [
  ("id", .int 77), ("lines", .list [.object [("sku", .str "zz"), ("tags", .list [])], .null])]

theorem orders_alike : Alike plainOrder longOrder :=
  .object (.cons _ (.int 1 77) (.cons _ (.list (.object (.cons _ (.str _ _) (.cons _ .emptyList .nil)))
    _ _) .nil))

theorem orders_have_one_run :
    Alike plainOrder longOrder ∧
      inferClass "Order" 0 plainOrder = inferClass "Order" 0 longOrder ∧
      ∃ c, (inferClass "Order" 0 longOrder).outcome = .ok c :=
  ⟨orders_alike, ((spine_decides_source plainOrder longOrder).1 orders_alike "Order" 0).1, ⟨_, rfl⟩⟩

end ClassMold.Likeness
