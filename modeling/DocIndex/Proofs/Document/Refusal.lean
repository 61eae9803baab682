import DocIndex.Document.Decode

/-!
# How reading refuses an index document

Reading an index document gives an index or refuses the document, in one of three ways.
The schema version is read before anything else, so a mapping whose version is an integer
above `latestVersion` is refused as newer whatever else it holds. Every request that the
rest of the document cannot answer is a fault, and every fault but one becomes a schema
failure that quotes it: a document that is no mapping, a missing or non-integer version, a
missing language, identifier or path, children that are no mappings, an unknown role, a
search key that is no list, a count that reads as no integer. The exception is a count that
is an infinite double, such as the value of `1e400`: it has no integer part, and its
overflow is passed on as it is rather than as a schema failure.

The refusals of the section reader and of everything built on it are gathered by
`RefusesSchematically`, which sequencing keeps; the counts are taken apart on their own.
-/

namespace DocIndex.Data

/-- A value that is an infinite double. -/
def Value.IsInfinite (value : Value) : Prop :=
  ∃ x negative, value = .float x ∧ FloatShape.ofFloat x = .infinite negative

/-- Only an overflow is no schema fault. -/
theorem Fault.isSchemaFault_iff (fault : Fault) :
    fault.isSchemaFault = true ↔ fault ≠ .infiniteInteger := by
  cases fault <;> simp [Fault.isSchemaFault]

/-- What an overflow of a count says. -/
theorem Fault.message_infiniteInteger :
    Fault.infiniteInteger.message = "cannot convert float infinity to integer" :=
  rfl

/-- A value asked for its integer overflows exactly when it is an infinite double. -/
theorem Value.toInteger_eq_infinite_iff (value : Value) :
    value.toInteger = .error .infiniteInteger ↔ value.IsInfinite := by
  constructor
  · intro refused
    cases value with
    | float x =>
      simp only [toInteger, truncate] at refused
      split at refused
      · cases refused
      · rename_i negative shape
        exact ⟨x, negative, rfl, shape⟩
      · cases refused
    | text content =>
      simp only [toInteger] at refused
      split at refused <;> cases refused
    | _ => cases refused
  · rintro ⟨x, negative, rfl, shape⟩
    simp [toInteger, truncate, shape]

end DocIndex.Data

namespace DocIndex.Document
open DocIndex.Data

/-- A trouble that reading an index reports as a schema failure. -/
def Trouble.Schematic : Trouble → Prop
  | .fault problem => problem.isSchemaFault = true
  | .failure reason => ∃ message, reason = .schema message

/-- A reading step whose every refusal is reported as a schema failure. -/
def RefusesSchematically {α : Type} (step : Except Trouble α) : Prop :=
  ∀ trouble, step = .error trouble → trouble.Schematic

namespace RefusesSchematically

variable {α β : Type}

theorem ok (value : α) : RefusesSchematically (.ok value : Except Trouble α) := by
  intro trouble refused
  cases refused

theorem bind
    {step : Except Trouble α} {rest : α → Except Trouble β}
    (first : RefusesSchematically step)
    (next : ∀ value, RefusesSchematically (rest value)) :
    RefusesSchematically (step >>= rest) := by
  intro trouble refused
  cases step with
  | error earlier =>
    cases refused
    exact first _ rfl
  | ok value => exact next value trouble refused

theorem mapM {read : α → Except Trouble β} :
    ∀ {items : List α}, (∀ item ∈ items, RefusesSchematically (read item)) →
      RefusesSchematically (items.mapM read)
  | [], _ => ok []
  | item :: rest, each => by
    rw [List.mapM_cons]
    refine bind (each item (by simp)) fun first => bind (mapM fun other member => ?_) fun _ => ok _
    exact each other (by simp [member])

theorem liftFault {step : Except Fault α}
    (schemaFaults : ∀ fault, step = .error fault → fault.isSchemaFault = true) :
    RefusesSchematically (DocIndex.Document.liftFault step) := by
  intro trouble refused
  cases step with
  | error fault =>
    cases refused
    exact schemaFaults fault rfl
  | ok value => cases refused

end RefusesSchematically

open RefusesSchematically

theorem textOr_refuses (data : Value) (key fallback : String) :
    RefusesSchematically (textOr data key fallback) := by
  apply RefusesSchematically.liftFault
  intro fault refused
  cases data <;> simp [Value.getOr, Except.map] at refused <;> subst refused <;> rfl

theorem requiredText_refuses (data : Value) (key : String) :
    RefusesSchematically (requiredText data key) := by
  apply RefusesSchematically.liftFault
  intro fault refused
  cases data
  case dict entries =>
    cases found : Value.lookup entries key <;>
      simp [Value.require, Except.map, found] at refused <;> subst refused <;> rfl
  all_goals simp [Value.require, Except.map] at refused; subst refused; rfl

theorem keyOf_refuses (data : Value) : RefusesSchematically (keyOf data) := by
  intro trouble refused
  cases data <;> simp [keyOf] at refused <;> subst refused <;> exact ⟨_, rfl⟩

theorem roleOf_refuses (entries : List (Value × Value)) :
    RefusesSchematically (roleOf entries) := by
  intro trouble refused
  unfold roleOf at refused
  split at refused
  · cases refused
  · cases refused
  · cases refused
    exact ⟨_, rfl⟩

theorem membersOf_refuses (data : Value) : RefusesSchematically (membersOf data) := by
  intro trouble refused
  cases data <;> simp [membersOf] at refused <;> subst refused <;> rfl

/-- Reading a section refuses only with schema failures, at every depth of its children. -/
theorem sectionOf_refuses (data : Value) : RefusesSchematically (sectionOf data) := by
  -- the induction follows the reader's own recursion, into the items of the children
  induction data using sectionOf.induct with
  | case1 entries inList inTuple inSet =>
    rw [sectionOf.eq_1]
    refine bind (roleOf_refuses entries) fun role => ?_
    refine bind (requiredText_refuses _ _) fun id => ?_
    refine bind (textOr_refuses _ _ _) fun shortLabel => ?_
    refine bind (textOr_refuses _ _ _) fun label => ?_
    refine bind (textOr_refuses _ _ _) fun detail => ?_
    refine bind (keyOf_refuses _) fun searchKey => ?_
    split
    · exact ok _
    · rename_i items present
      exact bind (mapM fun item _ => inList items present item.1 item.2) fun _ => ok _
    · rename_i items present
      exact bind (mapM fun item _ => inTuple items present item.1 item.2) fun _ => ok _
    · rename_i items present
      exact bind (mapM fun item _ => inSet items present item.1 item.2) fun _ => ok _
    · -- children of another kind: a collection whose first member is no mapping
      refine bind (membersOf_refuses _) fun members => ?_
      split
      · exact ok _
      · intro trouble refused
        cases refused
        rfl
  | case2 other notDict =>
    intro trouble refused
    rw [sectionOf.eq_2 other (fun entries same => notDict entries same)] at refused
    cases refused
    rfl

theorem readEach_refuses {α : Type} {read : Value → Except Trouble α}
    (each : ∀ item, RefusesSchematically (read item)) :
    ∀ items : List Value, RefusesSchematically (readEach read items)
  | [] => ok []
  | item :: rest => bind (each item) fun _ => bind (readEach_refuses each rest) fun _ => ok _

theorem pageOf_refuses (data : Value) : RefusesSchematically (pageOf data) := by
  unfold pageOf
  refine bind (requiredText_refuses _ _) fun path => ?_
  split
  · refine bind (textOr_refuses _ _ _) fun title => ?_
    refine bind (textOr_refuses _ _ _) fun detail => ?_
    refine bind (keyOf_refuses _) fun searchKey => ?_
    refine bind (membersOf_refuses _) fun members => ?_
    exact bind (readEach_refuses sectionOf_refuses members) fun _ => ok _
  · intro trouble refused
    cases refused
    rfl

theorem libraryOf_refuses (data : Value) : RefusesSchematically (libraryOf data) := by
  unfold libraryOf
  refine bind (textOr_refuses _ _ _) fun name => ?_
  refine bind (requiredText_refuses _ _) fun id => ?_
  split
  · refine bind (textOr_refuses _ _ _) fun repository => ?_
    refine bind (textOr_refuses _ _ _) fun version => ?_
    refine bind (textOr_refuses _ _ _) fun versionType => ?_
    refine bind (membersOf_refuses _) fun members => ?_
    exact bind (readEach_refuses pageOf_refuses members) fun _ => ok _
  · intro trouble refused
    cases refused
    rfl

/-! ## The body of an index -/

/-- A chain of steps that fails failed at its first step or after it. -/
theorem bind_eq_error
    {ε α β : Type} {step : Except ε α} {rest : α → Except ε β} {failure : ε}
    (refused : step >>= rest = .error failure) :
    step = .error failure ∨ ∃ value, step = .ok value ∧ rest value = .error failure := by
  cases step with
  | error earlier =>
    cases refused
    exact .inl rfl
  | ok value => exact .inr ⟨value, rfl, refused⟩

theorem liftFault_eq_error {α : Type} {step : Except Fault α} {trouble : Trouble}
    (refused : liftFault step = .error trouble) :
    ∃ fault, step = .error fault ∧ trouble = .fault fault := by
  cases step with
  | error fault =>
    cases refused
    exact ⟨fault, rfl, rfl⟩
  | ok value => cases refused

/-- Whether the counts of a document overflow: the file count is an infinite double, or it
reads as an integer and the byte count is an infinite double. Absent counts are zero. -/
def CountsOverflow (entries : List (Value × Value)) : Prop :=
  ((Value.lookup entries "num_files").getD (.int 0)).IsInfinite ∨
    (∃ count, ((Value.lookup entries "num_files").getD (.int 0)).toInteger = .ok count) ∧
      ((Value.lookup entries "num_bytes").getD (.int 0)).IsInfinite


/-- A count that does not read is a schema fault, or an overflow of an infinite double. -/
theorem count_refusal {value : Value} {trouble : Trouble}
    (refused : liftFault value.toInteger = .error trouble) :
    trouble.Schematic ∨ trouble = .fault .infiniteInteger ∧ value.IsInfinite := by
  obtain ⟨fault, failed, rfl⟩ := liftFault_eq_error refused
  by_cases overflow : fault = .infiniteInteger
  · subst overflow
    exact .inr ⟨rfl, (Value.toInteger_eq_infinite_iff value).mp failed⟩
  · exact .inl ((Fault.isSchemaFault_iff fault).mpr overflow)

/-- The body of an index refuses with a schema trouble, or overflows on its counts. -/
theorem indexBody_refusal {entries : List (Value × Value)} {version : Int} {trouble : Trouble}
    (refused : indexBody entries version = .error trouble) :
    trouble.Schematic ∨ trouble = .fault .infiniteInteger ∧
      (Value.lookup entries "language").isSome ∧ CountsOverflow entries := by
  unfold indexBody at refused
  rcases bind_eq_error refused with early | ⟨language, named, refused⟩
  · exact .inl (requiredText_refuses _ _ _ early)
  have present : (Value.lookup entries "language").isSome := by
    cases found : Value.lookup entries "language" <;>
      simp_all [requiredText, Value.require, Except.map, liftFault]
  rcases bind_eq_error refused with early | ⟨fileCount, filesRead, refused⟩
  · rcases count_refusal early with schematic | ⟨rfl, infinite⟩
    · exact .inl schematic
    · exact .inr ⟨rfl, present, .inl infinite⟩
  rcases bind_eq_error refused with early | ⟨byteCount, bytesRead, refused⟩
  · have filesCounted : ∃ count, ((Value.lookup entries "num_files").getD (.int 0)).toInteger =
        .ok count := by
      cases counted : ((Value.lookup entries "num_files").getD (.int 0)).toInteger <;>
        simp_all [liftFault]
    rcases count_refusal early with schematic | ⟨rfl, infinite⟩
    · exact .inl schematic
    · exact .inr ⟨rfl, present, .inr ⟨filesCounted, infinite⟩⟩
  exact .inl (bind (membersOf_refuses _) (fun members =>
    bind (readEach_refuses libraryOf_refuses members) fun _ => ok _) trouble refused)

/-- A body with a language whose counts overflow is refused as an overflow. -/
theorem indexBody_of_countsOverflow {entries : List (Value × Value)} {version : Int}
    (present : (Value.lookup entries "language").isSome)
    (overflow : CountsOverflow entries) :
    indexBody entries version = .error (.fault .infiniteInteger) := by
  obtain ⟨language, named⟩ := Option.isSome_iff_exists.mp present
  have languageRead : requiredText (.dict entries) "language" = .ok language.display := by
    simp [requiredText, Value.require, named, liftFault, Except.map]
  rcases overflow with infinite | ⟨⟨count, counted⟩, infinite⟩
  · rw [← Value.toInteger_eq_infinite_iff] at infinite
    simp only [indexBody, languageRead, infinite, liftFault]
    rfl
  · rw [← Value.toInteger_eq_infinite_iff] at infinite
    simp only [indexBody, languageRead, counted, infinite, liftFault]
    rfl

/-! ## Reading an index -/

/-- A document of a newer schema: a mapping whose schema version is an integer above
`latestVersion`. -/
def NewerDocument (document : Value) : Prop :=
  ∃ entries version, document = .dict entries ∧
    Value.lookup entries "schema_version" = some (.int version) ∧ latestVersion < version

/-- A document whose counts overflow: a mapping with an integer schema version that is not
newer, with a language, whose counts overflow. -/
def OverflowingDocument (document : Value) : Prop :=
  ∃ entries version, document = .dict entries ∧
    Value.lookup entries "schema_version" = some (.int version) ∧ version ≤ latestVersion ∧
    (Value.lookup entries "language").isSome ∧ CountsOverflow entries

/-- The version under a key, read with `null` for a missing key, is an integer exactly when
the key holds that integer. -/
theorem getD_eq_int {entries : List (Value × Value)} {version : Int} :
    (Value.lookup entries "schema_version").getD .null = .int version ↔
      Value.lookup entries "schema_version" = some (.int version) := by
  cases Value.lookup entries "schema_version" <;> simp

/-- Every refusal of reading is a newer schema, with its version, a schema failure, or an
overflow of the counts. -/
theorem Index.ofValue_refusal {document : Value} {failure : Failure}
    (refused : Index.ofValue document = .error failure) :
    (∃ version, failure = .newerSchema version latestVersion none ∧ NewerDocument document) ∨
      (∃ message, failure = .schema message) ∨
      (failure = .overflow "cannot convert float infinity to integer" ∧
        OverflowingDocument document) := by
  unfold Index.ofValue at refused
  split at refused
  · rename_i entries
    split at refused
    · rename_i version versionRead
      split at refused
      · rename_i newer
        cases refused
        exact .inl ⟨version, rfl, entries, version, rfl, getD_eq_int.mp versionRead, newer⟩
      · rename_i notNewer
        split at refused
        · cases refused
        · rename_i trouble body
          cases refused
          rcases indexBody_refusal body with schematic | ⟨rfl, present, overflow⟩
          · right; left
            cases trouble with
            | fault problem => simp [Trouble.toFailure, show problem.isSchemaFault = true from schematic]
            | failure reason =>
              obtain ⟨message, rfl⟩ := schematic
              exact ⟨message, rfl⟩
          · right; right
            exact ⟨rfl, entries, version, rfl, getD_eq_int.mp versionRead, Int.not_lt.mp notNewer,
              present, overflow⟩
    · cases refused
      exact .inr (.inl ⟨_, rfl⟩)
  · cases refused
    exact .inr (.inl ⟨_, rfl⟩)

/-- Reading refuses a document as newer exactly when its version is an integer above
`latestVersion`, whatever else it holds. -/
theorem Index.ofValue_newerSchema_iff (document : Value) :
    (∃ version, Index.ofValue document = .error (.newerSchema version latestVersion none)) ↔
      NewerDocument document := by
  constructor
  · rintro ⟨version, refused⟩
    rcases Index.ofValue_refusal refused with ⟨_, _, newer⟩ | ⟨_, wrong⟩ | ⟨wrong, _⟩
    · exact newer
    · cases wrong
    · cases wrong
  · rintro ⟨entries, version, rfl, versionRead, newer⟩
    exact ⟨version, by simp [Index.ofValue, versionRead, newer]⟩

/-- A document whose counts overflow is refused as an overflow. -/
theorem Index.ofValue_of_overflowing {document : Value} (overflowing : OverflowingDocument document) :
    Index.ofValue document = .error (.overflow "cannot convert float infinity to integer") := by
  obtain ⟨entries, version, rfl, versionRead, accepted, present, overflow⟩ := overflowing
  have notNewer : ¬ version > latestVersion := Int.not_lt.mpr accepted
  simp [Index.ofValue, versionRead, notNewer, indexBody_of_countsOverflow present overflow,
    Trouble.toFailure, Fault.isSchemaFault, Fault.message_infiniteInteger]

/-- Reading refuses a document as an overflow exactly when its counts overflow behind an
accepted version and a language. -/
theorem Index.ofValue_overflow_iff (document : Value) :
    (∃ message, Index.ofValue document = .error (.overflow message)) ↔
      OverflowingDocument document := by
  constructor
  · rintro ⟨message, refused⟩
    rcases Index.ofValue_refusal refused with ⟨_, wrong, _⟩ | ⟨_, wrong⟩ | ⟨_, overflowing⟩
    · cases wrong
    · cases wrong
    · exact overflowing
  · intro overflowing
    exact ⟨_, Index.ofValue_of_overflowing overflowing⟩

/-- Reading an index document gives an index or refuses it in one of three ways: as newer,
exactly when it is a mapping whose version is an integer above `latestVersion`; as an
overflow, exactly when behind an accepted version and a language its first count that reads
as no integer is an infinite double; and as a schema failure in every other case. -/
theorem Index.ofValue_refusals (document : Value) :
    (∀ failure, Index.ofValue document = .error failure →
      (∃ version, failure = .newerSchema version latestVersion none) ∨
        (∃ message, failure = .schema message) ∨
        failure = .overflow "cannot convert float infinity to integer") ∧
    ((∃ version, Index.ofValue document = .error (.newerSchema version latestVersion none)) ↔
      NewerDocument document) ∧
    ((∃ message, Index.ofValue document = .error (.overflow message)) ↔
      OverflowingDocument document) := by
  refine ⟨fun failure refused => ?_, Index.ofValue_newerSchema_iff document,
    Index.ofValue_overflow_iff document⟩
  rcases Index.ofValue_refusal refused with ⟨version, newer, _⟩ | schema | ⟨overflow, _⟩
  · exact .inl ⟨version, newer⟩
  · exact .inr (.inl schema)
  · exact .inr (.inr overflow)

/-- A file count of `1e400`, an infinite double, is refused as an overflow and not as a
schema failure. -/
theorem infinite_count_overflows :
    Index.ofValue (Value.object [("schema_version", .int 1), ("language", .text "python"),
        ("num_files", .float (Float.ofBits 0x7FF0000000000000))]) =
      .error (.overflow "cannot convert float infinity to integer") := by
  apply Index.ofValue_of_overflowing
  refine ⟨_, 1, rfl, rfl, by decide, rfl, .inl ⟨_, false, rfl, rfl⟩⟩

end DocIndex.Document
