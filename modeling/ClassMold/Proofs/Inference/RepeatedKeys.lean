import ClassMold.Proofs.Inference.Mirroring
import ClassMold.Proofs.Sample.Documents
import ClassMold.Proofs.Sample.JsonKinds

/-! Keys that are written more than once. A class has one field for each key of its object, where
the key is written first, and this field is what the last member with the key would give if it
stood in an object of its own. So is the class nested for it: members that are written over show
nowhere. Since an inference treats members one by one, this is shown for the members that the
reader keeps and then said of those that are written. -/
namespace ClassMold.RepeatedKeys
open Sample Steps Mirroring Reading JsonKinds LastMembers Documents

/-- What a class gets of a member: the text of an object with this member alone gives a class with
the same name at the same depth, with one field for the key and its nested class if it has one. -/
structure Alone (d : ClassTree) (member : Text × Sample) (part : ClassTree) : Prop where
  /-- There is such a text. -/
  written : ∃ t, IsDocument t (.object [member])
  /-- Every such text is read, and gives this part. -/
  given : ∀ t, IsDocument t (.object [member]) →
    ∃ sample, Sample.read t = .ok sample ∧ (inferClass d.name d.depth sample).outcome = .ok part
  field : part.fields.map Field.key = [member.1]
  single : part.nested.length ≤ 1

/-- A class is put together from the last members of the object it stands for. -/
structure LastWins (d : ClassTree) (members : List (Text × Sample)) : Prop where
  /-- One field for each key, in the order in which the keys are written first. -/
  keys : d.fields.map Field.key = keysOf members
  /-- Fields and nested classes are, one key after another, those of its last member alone. -/
  parts : ∃ parts : List ClassTree,
    List.Forall₂ (fun key part => ∃ value, IsLast members (key, value) ∧ Alone d (key, value) part)
      (keysOf members) parts ∧
    d.fields = parts.flatMap ClassTree.fields ∧ d.nested = parts.flatMap ClassTree.nested

variable {name key : Text} {depth : Int} {value written : Sample} {members rest : List (Text × Sample)}
  {fields : List Field} {nested : List ClassTree} {c d : ClassTree} {t : Text} {part : Part}

/-! ### One member after another -/

/-- The first member gives what it gives alone, and the others give what they give without it. -/
theorem first_member_alone (ran : (inferMembers depth ((key, value) :: rest)).outcome = .ok (fields, nested)) :
    ∃ own ownNested others more, (inferMembers depth [(key, value)]).outcome = .ok (own, ownNested) ∧
      (inferMembers depth rest).outcome = .ok (others, more) ∧ fields = own ++ others ∧
      nested = ownNested ++ more ∧ own.map Field.key = [key] ∧ ownNested.length ≤ 1 := by
  rw [inferMembers] at ran ⊢
  cases made : Field.ofMember key value with
  | error error =>
    rw [made, Reported.bind_quietly_error] at ran
    cases ran
  | ok f =>
    have named : f.key = key := by
      obtain ⟨type, rfl⟩ := of_member_shape made
      rfl
    rw [made] at ran
    rw [Reported.bind_quietly_ok] at ran ⊢
    split at ran <;> rename_i custom
    · simp only [Reported.bind_ok_iff, Prod.exists, Reported.pure_outcome, Except.ok.injEq,
        Prod.mk.injEq] at ran
      obtain ⟨c, inner, others, more, tail, rfl, rfl⟩ := ran
      refine ⟨[{ f with typeName := f.className }], [c], others, more, ?_, tail, rfl, rfl,
        by simp [named], by simp⟩
      simp [custom, inner, inferMembers]
    · simp only [Reported.bind_ok_iff, Prod.exists, Reported.pure_outcome, Except.ok.injEq,
        Prod.mk.injEq] at ran
      obtain ⟨others, more, tail, rfl, rfl⟩ := ran
      refine ⟨[f], [], others, more, ?_, tail, rfl, rfl, by simp [named], by simp⟩
      simp [custom, inferMembers]

/-- Each member of an object gives what it gives alone. -/
theorem members_alone (name : Text)
    (ran : (inferMembers depth members).outcome = .ok (fields, nested)) :
    ∃ parts : List ClassTree, List.Forall₂ (fun member part =>
        (inferClass name depth (.object [member])).outcome = .ok part ∧
          part.fields.map Field.key = [member.1] ∧ part.nested.length ≤ 1) members parts ∧
      fields = parts.flatMap ClassTree.fields ∧ nested = parts.flatMap ClassTree.nested := by
  induction members generalizing fields nested with
  | nil =>
    cases ran
    exact ⟨[], .nil, rfl, rfl⟩
  | cons member rest ih =>
    obtain ⟨own, ownNested, others, more, alone, tail, rfl, rfl, field, single⟩ := first_member_alone ran
    obtain ⟨parts, tied, rfl, rfl⟩ := ih tail
    refine ⟨.node name depth own ownNested :: parts, .cons ⟨?_, field, single⟩ tied, rfl, rfl⟩
    exact infer_class_ok_iff.mpr ⟨_, own, ownNested, rfl, alone, rfl⟩

/-! ### Written members -/

/-- A member that some text writes, without too long integers. -/
def CanStandAlone (member : Text × Sample) : Prop :=
  (∃ t, IsDocument t (.object [member])) ∧ FewDigits (.object [member])

theorem items_written {items : List Sample} (writes : Writes part t written) (few : FewDigits written)
    (shape : written = .list items) : ∀ item ∈ items, (∃ u, Writes .value u item) ∧ FewDigits item := by
  induction writes generalizing items with
  | noItems =>
    cases shape
    exact List.forall_mem_nil _
  | items _ _ ih => exact ih few shape
  | lastItem first =>
    cases shape
    exact List.forall_mem_singleton.mpr ⟨⟨_, first⟩, (few_cons_item.mp few).1⟩
  | moreItems first _ _ others _ ih =>
    cases shape
    obtain ⟨own, more⟩ := few_cons_item.mp few
    exact List.forall_mem_cons.mpr ⟨⟨⟨_, first⟩, own⟩, ih more rfl⟩
  | word listed =>
    subst shape
    simp [wordValues] at listed
  | number number =>
    subst shape
    cases number
  | _ => cases shape

theorem alone_written {start u : Text} (named : WritesName start key) (writes : Writes .value u value)
    (few : FewDigits value) : CanStandAlone (key, value) := by
  have member := Writes.lastMember named writes gap_nil
  exact ⟨⟨_, [], _, [], gap_nil, gap_nil, .members gap_nil member, rfl⟩,
    few_cons_member.mpr ⟨few, few_no_members⟩⟩

theorem members_written (writes : Writes part t written) (few : FewDigits written)
    (shape : written = .object members) :
    ∀ member ∈ members, CanStandAlone member ∧ ∃ u, Writes .value u member.2 := by
  induction writes generalizing members with
  | noMembers =>
    cases shape
    exact List.forall_mem_nil _
  | members _ _ ih => exact ih few shape
  | lastMember named first =>
    cases shape
    obtain ⟨own, -⟩ := few_cons_member.mp few
    exact List.forall_mem_singleton.mpr ⟨alone_written named first own, _, first⟩
  | moreMembers named first _ _ others _ ih =>
    cases shape
    obtain ⟨own, more⟩ := few_cons_member.mp few
    exact List.forall_mem_cons.mpr ⟨⟨alone_written named first own, _, first⟩, ih more rfl⟩
  | word listed =>
    subst shape
    simp [wordValues] at listed
  | number number =>
    subst shape
    cases number
  | _ => cases shape

theorem member_few (alone : CanStandAlone (key, value)) : FewDigits value := (few_cons_member.mp alone.2).1

/-- Every member of an object that a class stands for could stand alone. -/
theorem written_stand_alone (value : Sample) : (∃ u, Writes .value u value) → FewDigits value →
    ∀ members ∈ writtenObjects value, ∀ member ∈ members, CanStandAlone member := by
  refine (writtenObjects.mutual_induct
    (fun value => (∃ u, Writes .value u value) → FewDigits value →
      ∀ members ∈ writtenObjects value, ∀ member ∈ members, CanStandAlone member)
    (fun members => ∀ member ∈ members, (∃ u, Writes .value u member.2) → FewDigits member.2 →
      ∀ inner ∈ writtenObjects member.2, ∀ member ∈ inner, CanStandAlone member)
    ?_ ?_ ?_ ?_ ?_).1 value
  · rintro first later ih ⟨u, writes⟩ few
    obtain ⟨written, own⟩ := items_written writes few rfl first List.mem_cons_self
    rw [writtenObjects]
    exact ih written own
  · rintro members ih ⟨u, writes⟩ few
    have each := members_written writes few rfl
    rw [writtenObjects, List.forall_mem_cons]
    refine ⟨fun member listed => (each member listed).1, fun inner below => ?_⟩
    rw [written_below_map, last_map, List.flatMap_map, List.mem_flatMap] at below
    obtain ⟨member, last, leads⟩ := below
    have listed := last_listed (mem_last_iff.mp last)
    obtain ⟨alone, written⟩ := each member listed
    split at leads
    · cases leads
    · exact ih member listed written (member_few alone) inner leads
  · intro value notCons notObject _ _
    rw [writtenObjects.eq_3 value notCons notObject]
    exact List.forall_mem_nil _
  · exact List.forall_mem_nil _
  · intro key value rest ih ihRest
    exact List.forall_mem_cons.mpr ⟨ih, ihRest⟩

/-! ### Trees -/

theorem kept_alone (member : Text × Sample) :
    kept (.object [member]) = .object [(member.1, kept member.2)] := by
  have own : lastOfEach [member] = [member] := by simp [lastOfEach, keysOf, List.eraseDups_cons]
  calc kept (.object [member]) = .object (keptOf [member]) := rfl
    _ = .object [(member.1, kept member.2)] := by rw [kept_of_map, own, List.map_singleton]

theorem alone_of_run {member : Text × Sample} {part : ClassTree} (alone : CanStandAlone member)
    (ran : (inferClass d.name d.depth (.object [(member.1, kept member.2)])).outcome = .ok part)
    (field : part.fields.map Field.key = [member.1]) (single : part.nested.length ≤ 1) :
    Alone d member part := by
  refine ⟨alone.1, fun t document => ⟨kept (.object [member]), ?_, ?_⟩, field, single⟩
  · exact (read_iff_written t _).mpr ⟨_, document, alone.2, rfl⟩
  · rw [kept_alone]
    exact ran

/-- A class that comes of what is kept of an object is put together from its last members. -/
theorem last_wins_of_run (alone : ∀ member ∈ members, CanStandAlone member)
    (ran : (inferClass d.name d.depth (.object (keptOf members))).outcome = .ok d) : LastWins d members := by
  obtain ⟨_, fields, nested, shape, membersRan, node⟩ := infer_class_ok_iff.mp ran
  cases shape
  have mirrors : Mirrors d (keptOf members) := by
    rw [node]
    exact built_mirrors d.name (infer_members_built membersRan)
  obtain ⟨parts, tied, ownFields, ownNested⟩ := members_alone d.name membersRan
  rw [kept_of_map, List.forall₂_map_left_iff] at tied
  refine ⟨?_, parts, ?_, ?_, ?_⟩
  · rw [mirrors.keys, kept_of_map, List.map_map, ← last_keys]
    rfl
  · rw [← last_keys, List.forall₂_map_left_iff]
    have listed := (List.forall₂_and_left (p := (· ∈ lastOfEach members)) _ _).mpr ⟨fun _ => id, tied⟩
    refine listed.imp fun member part both => ?_
    obtain ⟨own, given, field, single⟩ := both
    have last := mem_last_iff.mp own
    exact ⟨member.2, last, alone_of_run (alone member (last_listed last)) given field single⟩
  · rw [node]
    exact ownFields
  · rw [node]
    exact ownNested

/-- Every text of an object, or of lists that lead to one, gives a tree, unless one of its integers
has too many digits. Each class of the tree is put together from the last members of the object
that it stands for, as this object is written; and no other objects have classes, so nothing is
left of those in members that are written over. -/
theorem last_member_wins (t : Text) (written : Sample) (document : IsDocument t written)
    (few : FewDigits written) (object : ∃ members, written.tip = .object members) (name : Text)
    (depth : Int) :
    ∃ sample c, Sample.read t = .ok sample ∧ (inferClass name depth sample).outcome = .ok c ∧
      List.Forall₂ LastWins c.walk (writtenObjects written) := by
  have read := (read_iff_written t _).mpr ⟨written, document, few, rfl⟩
  obtain ⟨before, own, after, -, -, writes, -⟩ := document
  obtain ⟨c, ran⟩ := (json_inferred_iff (sample_json read) name depth).mpr
    ((kept_tip_object written).mpr object)
  refine ⟨kept written, c, read, ran, ?_⟩
  have runs := class_runs ran
  rw [kept_objects, List.forall₂_map_right_iff] at runs
  have alone := written_stand_alone written ⟨own, writes⟩ few
  refine List.forall₂_iff_zip.mpr ⟨runs.length_eq, fun tied => ?_⟩
  exact last_wins_of_run (alone _ (List.of_mem_zip tied).2) (List.forall₂_zip runs tied)

/-- A text with a key written in two ways, an object that is written over, and a key that is
repeated further down. -/
def stockText : Text :=
  "\x7b\"a\": \x7b\"x\": 1\x7d, \"b\": 0, \"\\u0061\": [\x7b\"k\": true, \"k\": \x7b\"w\": null\x7d\x7d]\x7d"

/-- The members of the inner object that is not written over. -/
def shelf : List (Text × Sample) := [("k", .bool true), ("k", .object [("w", .null)])]

/-- What the text writes. -/
def stock : List (Text × Sample) :=
  [("a", .object [("x", .int 1)]), ("b", .int 0), ("a", .list [.object shelf])]

theorem stock_written : IsDocument stockText (.object stock) := by
  have space : IsGap " " := List.forall_mem_singleton.mpr rfl
  have plain (letter : Char) : WritesName _ [.scalar letter] :=
    .named (Spelling.ascii_spells (List.isChain_singleton _) []) gap_nil space
  have a : Spelling.Spells
      ([.scalar '\\', .scalar 'u', .scalar '0', .scalar '0', .scalar '6', .scalar '1', .scalar '"'])
      [CodePoint.ofNat 0x61] [] :=
    .numeric (.single rfl (fun high => absurd high (by decide)) (by decide)) (.closed [])
  have escaped : WritesName _ "a" := .named a gap_nil space
  have number (n : Nat) : Writes .value _ (.int (NumberForms.withSign false n)) := .number (.integer false n)
  have null : Writes .value "null" .null := .word (.head _)
  have yes : Writes .value "true" (.bool true) := .word (.tail _ (.head _))
  have inner : Writes .value _ (.object shelf) :=
    .members gap_nil (.moreMembers (plain 'k') yes gap_nil space
      (.lastMember (plain 'k')
        (.members gap_nil (.lastMember (plain 'w') null gap_nil)) gap_nil))
  have whole : Writes .value _ (.object stock) :=
    .members gap_nil (.moreMembers (plain 'a')
      (.members gap_nil (.lastMember (plain 'x') (number 1) gap_nil)) gap_nil space
      (.moreMembers (plain 'b') (number 0) gap_nil space
        (.lastMember escaped (.items gap_nil (.lastItem inner gap_nil)) gap_nil)))
  exact ⟨[], _, [], gap_nil, gap_nil, whole, by decide⟩

theorem stock_last_wins : ∃ sample c, Sample.read stockText = .ok sample ∧
    (inferClass "Stock" 0 sample).outcome = .ok c ∧ c.fields.map Field.key = ["a", "b"] ∧
      List.Forall₂ LastWins c.walk [stock, shelf, [("w", .null)]] := by
  have few : ∀ i ∈ integers (.object stock), (Text.ofNat i.natAbs).length ≤ Decimal.digitLimit := by decide
  have objects : writtenObjects (.object stock) = [stock, shelf, [("w", .null)]] := rfl
  obtain ⟨sample, c, read, ran, tied⟩ :=
    last_member_wins stockText (.object stock) stock_written few ⟨stock, rfl⟩ "Stock" 0
  rw [objects] at tied
  refine ⟨sample, c, read, ran, ?_, tied⟩
  cases c
  cases tied with
  | cons first => exact first.keys.trans (by decide)

end ClassMold.RepeatedKeys
