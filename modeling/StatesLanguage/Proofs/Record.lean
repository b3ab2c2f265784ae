import StatesLanguage.Machine.Reader
import StatesLanguage.Machine.Printer
import StatesLanguage.Proofs.Members
import StatesLanguage.Proofs.Outcome

/-!
# Reading what was written

A shape recovers its values if it reads each value that it gives from what is written
for it.  The same is shown here of the members of records: where a reader found a value,
it finds it again in a record that holds what is written for the value.
-/

namespace StatesLanguage

variable {α β : Type}

namespace Shape

/-- Every value that the shape reads is read again from what is written for it. -/
def Recovers (shape : Shape α) (write : α → Document) : Prop :=
  ∀ document value, shape document = .ok value → shape (write value) = .ok value

theorem text_recovers : text.Recovers .string := by
  intro document value parsed
  rfl

theorem natBelow_recovers (limit : Nat) : (natBelow limit).Recovers Document.ofNat := by
  intro document value parsed
  unfold natBelow at parsed
  split at parsed
  · split at parsed
    · rename_i below
      cases parsed
      simp [natBelow, Document.ofNat, below]
    · cases parsed
  · cases parsed

theorem real_recovers : real.Recovers realDocument := by
  intro document value parsed
  rfl

theorem document_recovers : document.Recovers id := by
  intro document value parsed
  rfl

theorem readItems_eq_ok {item : Shape α} {documents : List Document} {values : List α}
    (parsed : readItems item documents = .ok values) :
    ∀ value, value ∈ values → ∃ document, item document = .ok value := by
  induction documents generalizing values with
  | nil =>
      cases parsed
      intro value member
      cases member
  | cons first rest induction =>
      obtain ⟨head, head_parsed, parsed⟩ := Outcome.bind_eq_ok.mp parsed
      obtain ⟨tail, tail_parsed, parsed⟩ := Outcome.bind_eq_ok.mp parsed
      cases parsed
      intro value member
      rcases List.mem_cons.mp member with rfl | later
      · exact ⟨first, head_parsed⟩
      · exact induction tail_parsed value later

theorem readItems_map {item : Shape α} {write : α → Document} {values : List α}
    (recovered : ∀ value, value ∈ values → item (write value) = .ok value) :
    readItems item (values.map write) = .ok values := by
  induction values with
  | nil => rfl
  | cons value rest induction =>
      have head : item (write value) = .ok value := recovered value List.mem_cons_self
      have tail : readItems item (rest.map write) = .ok rest :=
        induction fun value member => recovered value (List.mem_cons_of_mem _ member)
      rw [List.map_cons, readItems, head, tail]
      rfl

theorem Recovers.list {item : Shape α} {write : α → Document}
    (recovers : item.Recovers write) :
    (list item).Recovers fun values => .array (values.map write) := by
  intro document values parsed
  unfold Shape.list at parsed
  split at parsed
  · apply readItems_map
    intro value member
    obtain ⟨source, source_parsed⟩ := readItems_eq_ok parsed value member
    exact recovers source value source_parsed
  · cases parsed

end Shape

namespace RecordReader

variable {record target : Record}

theorem assemble_eq_ok_iff {reader : RecordReader α} {value : α} :
    reader.assemble record = .ok value ↔
      ∃ found, reader.assemble record = .ok found ∧ found = value := by
  simp

theorem exists_assemble_map {function : α → β} {argument : RecordReader α}
    {holds : β → Prop} :
    (∃ value, (function <$> argument).assemble record = .ok value ∧ holds value) ↔
      ∃ value, argument.assemble record = .ok value ∧ holds (function value) := by
  have assembled : (function <$> argument).assemble record =
      argument.assemble record >>= fun value => .ok (function value) := rfl
  simp only [assembled, Outcome.bind_eq_ok, Except.ok.injEq]
  constructor
  · rintro ⟨_, ⟨value, found, rfl⟩, fact⟩
    exact ⟨value, found, fact⟩
  · rintro ⟨value, found, fact⟩
    exact ⟨_, ⟨value, found, rfl⟩, fact⟩

theorem exists_assemble_seq {function : RecordReader (α → β)} {argument : RecordReader α}
    {holds : β → Prop} :
    (∃ value, (function <*> argument).assemble record = .ok value ∧ holds value) ↔
      ∃ applied, function.assemble record = .ok applied ∧
        ∃ value, argument.assemble record = .ok value ∧ holds (applied value) := by
  have assembled : (function <*> argument).assemble record =
      function.assemble record >>= fun applied =>
        argument.assemble record >>= fun value => .ok (applied value) := rfl
  simp only [assembled, Outcome.bind_eq_ok, Except.ok.injEq]
  constructor
  · rintro ⟨_, ⟨applied, applied_found, value, value_found, rfl⟩, fact⟩
    exact ⟨applied, applied_found, value, value_found, fact⟩
  · rintro ⟨applied, applied_found, value, value_found, fact⟩
    exact ⟨_, ⟨applied, applied_found, value, value_found, rfl⟩, fact⟩

theorem required_eq_ok {name : String} {shape : Shape α} {value : α} :
    (required name shape).assemble record = .ok value ↔
      ∃ item, Members.get? name record.members = some item ∧ shape item = .ok value := by
  simp only [required]
  cases Members.get? name record.members with
  | none => simp
  | some item => simp

theorem withDefault_eq_ok {name : String} {shape : Shape α} {absent value : α} :
    (withDefault name shape absent).assemble record = .ok value ↔
      (Members.get? name record.members = none ∧ absent = value) ∨
        ∃ item, Members.get? name record.members = some item ∧ shape item = .ok value := by
  simp only [withDefault]
  cases Members.get? name record.members with
  | none => simp
  | some item => simp

theorem required_recovers {name : String} {shape : Shape α} {write : α → Document}
    (recovers : shape.Recovers write) {value : α}
    (read : (required name shape).assemble record = .ok value)
    (written : Members.get? name target.members = some (write value)) :
    (required name shape).assemble target = .ok value := by
  obtain ⟨item, found, parsed⟩ := required_eq_ok.mp read
  exact required_eq_ok.mpr ⟨_, written, recovers item value parsed⟩

theorem withDefault_recovers {name : String} {shape : Shape α} {absent : α}
    {write : α → Option Document}
    (written_absent : write absent = none)
    (recovers : ∀ document value, shape document = .ok value →
      match write value with
      | none => absent = value
      | some again => shape again = .ok value)
    {value : α} (read : (withDefault name shape absent).assemble record = .ok value)
    (written : Members.get? name target.members = write value) :
    (withDefault name shape absent).assemble target = .ok value := by
  rcases withDefault_eq_ok.mp read with ⟨_, rfl⟩ | ⟨item, found, parsed⟩
  · rw [written_absent] at written
    exact withDefault_eq_ok.mpr (.inl ⟨written, rfl⟩)
  · have again := recovers item value parsed
    cases written_eq : write value with
    | none =>
        rw [written_eq] at again written
        exact withDefault_eq_ok.mpr (.inl ⟨written, again⟩)
    | some document =>
        rw [written_eq] at again written
        exact withDefault_eq_ok.mpr (.inr ⟨document, written, again⟩)

theorem nullable_of_ne_null {shape : Shape α} {document : Document}
    (differs : document ≠ .null) : shape.nullable document = (shape document).map some := by
  unfold Shape.nullable
  split
  · exact absurd rfl differs
  · rfl

theorem optional_recovers {name : String} {shape : Shape α} {write : α → Document}
    (recovers : shape.Recovers write)
    (visible : ∀ document value, document ≠ .null → shape document = .ok value →
      write value ≠ .null)
    {value : Option α} (read : (optional name shape).assemble record = .ok value)
    (written : Members.get? name target.members = value.map write) :
    (optional name shape).assemble target = .ok value := by
  refine withDefault_recovers rfl ?_ read written
  intro document found parsed
  cases found with
  | none => rfl
  | some inner =>
      unfold Shape.nullable at parsed
      split at parsed
      · cases parsed
      · rename_i differs
        obtain ⟨same, inner_parsed, same_eq⟩ := Outcome.map_eq_ok.mp parsed
        cases same_eq
        have shown := visible document inner differs inner_parsed
        change shape.nullable (write inner) = .ok (some inner)
        rw [nullable_of_ne_null shown, recovers document inner inner_parsed]
        rfl

/-- Where a record is put together, every member that is there passes its check. -/
class Lawful (reader : RecordReader α) : Prop where
  passes : ∀ record value, reader.assemble record = .ok value →
    ∀ name check, (name, check) ∈ reader.checks →
      ∀ item, Members.get? name record.members = some item → check item = none

theorem fault?_eq_none {shape : Shape α} {document : Document} {value : α}
    (parsed : shape document = .ok value) : shape.fault? document = none := by
  simp [Shape.fault?, parsed]

instance (name : String) (shape : Shape α) : Lawful (required name shape) where
  passes record value assembled other check member item found := by
    cases List.mem_singleton.mp member
    obtain ⟨same, same_found, parsed⟩ := required_eq_ok.mp assembled
    rw [found] at same_found
    cases same_found
    exact fault?_eq_none parsed

instance (name : String) (shape : Shape α) (absent : α) :
    Lawful (withDefault name shape absent) where
  passes record value assembled other check member item found := by
    cases List.mem_singleton.mp member
    rcases withDefault_eq_ok.mp assembled with ⟨missing, _⟩ | ⟨same, same_found, parsed⟩
    · rw [found] at missing
      cases missing
    · rw [found] at same_found
      cases same_found
      exact fault?_eq_none parsed

instance (name : String) (shape : Shape α) : Lawful (optional name shape) :=
  inferInstanceAs (Lawful (withDefault name shape.nullable none))

instance (function : RecordReader (α → β)) (argument : RecordReader α) [Lawful function]
    [Lawful argument] : Lawful (function <*> argument) where
  passes record value assembled name check member item found := by
    obtain ⟨applied, function_assembled, rest⟩ := Outcome.bind_eq_ok.mp assembled
    obtain ⟨given, argument_assembled, _⟩ := Outcome.bind_eq_ok.mp rest
    rcases List.mem_append.mp member with earlier | later
    · exact Lawful.passes record applied function_assembled name check earlier item found
    · exact Lawful.passes record given argument_assembled name check later item found

instance (function : α → β) (argument : RecordReader α) [Lawful argument] :
    Lawful (function <$> argument) where
  passes record value assembled name check member item found := by
    obtain ⟨_, _, rest⟩ := Outcome.bind_eq_ok.mp assembled
    obtain ⟨given, argument_assembled, _⟩ := Outcome.bind_eq_ok.mp rest
    exact Lawful.passes record given argument_assembled name check member item found

theorem read_eq_ok {reader : RecordReader α} {document : Document} {value : α}
    (parsed : reader.read document = .ok value) :
    ∃ record, Record.ofDocument (Members.names reader.checks) document = .ok record ∧
      reader.assemble record = .ok value := by
  obtain ⟨record, opened, checked⟩ := Outcome.bind_eq_ok.mp parsed
  split at checked
  · cases checked
  · obtain ⟨found, assembled, kept⟩ := Outcome.bind_eq_ok.mp checked
    split at kept
    · cases kept
    · cases kept
      exact ⟨record, opened, assembled⟩

/-- Members are checked one by one and assembled by name, so they see the same values where
no name stands twice. -/
theorem read_object {reader : RecordReader α} [Lawful reader]
    {members : List (String × Document)} {value : α}
    (distinct : (Members.names members).Nodup)
    (assembled : reader.assemble ⟨members, false, false⟩ = .ok value) :
    reader.read (.object members) = .ok value := by
  have unfaulted : reader.firstFault? members = none := by
    refine List.findSome?_eq_none_iff.mpr ?_
    intro member present
    cases declared : Members.get? member.1 reader.checks with
    | none => rfl
    | some check =>
        have found := Members.get?_of_mem distinct present
        exact Lawful.passes _ value assembled member.1 check
          (Members.mem_of_get? declared) member.2 found
  simp only [read, Record.ofDocument, bind, Except.bind, unfaulted, assembled]
  rfl

theorem read_ofMembers {reader : RecordReader α} [Lawful reader]
    {members : List (String × Document)} {value : α}
    (assembled : reader.assemble ⟨Members.ofList members, false, false⟩ = .ok value) :
    reader.read (Document.ofMembers members) = .ok value :=
  read_object (Members.nodup_names_ofList members) assembled

end RecordReader

end StatesLanguage
