import SqlAdmission.Proofs.BindingVerdict

/-!
# Names in type mismatches

A type mismatch is found between representations and told by their names.  The
names tell the representations of SQL types apart, but a foreign representation
goes by whatever name the artifact gives it.  The two names told are therefore
the same when an artifact supplies a foreign representation that has the name of
the expected one, and different in every other case.
-/

namespace SqlAdmission

namespace Representation

variable {given : Representation} {type : DataType}

theorem eq_foreign_or_ofDataType (given : Representation) :
    (∃ name, given = .foreign name) ∨ ∃ type, given = .ofDataType type := by
  cases given with
  | bool => exact .inr ⟨.boolean, rfl⟩
  | int32 => exact .inr ⟨.int, rfl⟩
  | int64 => exact .inr ⟨.bigInt, rfl⟩
  | float32 => exact .inr ⟨.float, rfl⟩
  | float64 => exact .inr ⟨.double, rfl⟩
  | decimal => exact .inr ⟨.decimal 0 0, rfl⟩
  | string => exact .inr ⟨.text, rfl⟩
  | bytes => exact .inr ⟨.blob, rfl⟩
  | date => exact .inr ⟨.date, rfl⟩
  | time => exact .inr ⟨.time, rfl⟩
  | timestamp => exact .inr ⟨.timestamp, rfl⟩
  | foreign name => exact .inl ⟨name, rfl⟩

/-- Only a foreign representation can have the name of another one. -/
theorem name_eq_name_ofDataType_iff :
    given.name = (ofDataType type).name ↔
      given = .ofDataType type ∨ given = .foreign (ofDataType type).name := by
  constructor
  · intro same
    obtain ⟨name, rfl⟩ | ⟨supplied, rfl⟩ := eq_foreign_or_ofDataType given
    · exact .inr (congrArg foreign same)
    · exact .inl (name_ofDataType_inj.mp same)
  · rintro (rfl | rfl)
    · rfl
    · rfl

/-- A representation other than that of a type is told apart from it unless it
is foreign and goes by its name. -/
theorem name_ne_iff (different : given ≠ .ofDataType type) :
    (ofDataType type).name ≠ given.name ↔
      given ≠ .foreign (ofDataType type).name := by
  rw [ne_comm, ne_eq, name_eq_name_ofDataType_iff]
  simp [different]

end Representation

/-- The names of the expected and of the actual representation that a type
mismatch tells. -/
def Rejection.mismatch? : Rejection → Option (String × String)
  | .inputMismatch _ _ expected actual => some (expected, actual)
  | .returnMismatch _ _ expected actual => some (expected, actual)
  | _ => none

namespace Registration

/-- What a finding of another type sets against each other: a declared type, and
the representation that the implementation supplies in its place. -/
inductive Contrasts (registration : Registration) :
    Finding → DataType → Representation → Prop where
  | input (given : Representation) :
      Contrasts registration (.otherInput given) registration.inputType given
  | result (given : Representation) :
      Contrasts registration (.otherResult given) registration.returnType given

variable {registration : Registration} {finding : Finding} {calls : List Call}

/-- What is set against a declared type does represent another one. -/
theorem Contrasts.different {declared : DataType} {given : Representation}
    (contrast : registration.Contrasts finding declared given)
    (found : registration.Finds calls finding) :
    given ≠ .ofDataType declared := by
  cases contrast with
  | input =>
      cases found with
      | inspected handle shown =>
          cases shown with
          | otherInput different => exact different
  | result =>
      cases found with
      | inspected handle shown =>
          cases shown with
          | otherResult different => exact different

/-- A mismatch tells the names of what the finding sets against each other. -/
theorem exists_contrasts_of_mismatch? {operand : DataType}
    {rejection : Rejection} {expected actual : String}
    (judged : registration.verdict operand finding = .error rejection)
    (mismatched : rejection.mismatch? = some (expected, actual)) :
    ∃ declared given, registration.Contrasts finding declared given ∧
      expected = (Representation.ofDataType declared).name ∧
        actual = given.name := by
  cases finding with
  | unavailable error =>
      cases judged
      contradiction
  | unusable =>
      cases judged
      contradiction
  | otherInput given =>
      cases judged
      cases mismatched
      exact ⟨_, given, .input given, rfl, rfl⟩
  | otherResult given =>
      cases judged
      cases mismatched
      exact ⟨_, given, .result given, rfl, rfl⟩
  | fitting => contradiction

end Registration

/-- A type mismatch tells the names of a declared type's representation and of
what the loader showed in its place.  The names differ unless what it showed is
a foreign representation by the expected name. -/
theorem mismatch_names_differ_iff {σ : Type} {respond : Responder σ} {state : σ}
    {registration : Registration} {operand : DataType} {rejection : Rejection}
    {expected actual : String}
    (rejected : ((registration.bind operand).play respond state).value =
      .error rejection)
    (mismatched : rejection.mismatch? = some (expected, actual)) :
    ∃ finding declared given,
      registration.Finds
          (Entry.calls ((registration.bind operand).play respond
            state).transcript) finding ∧
        registration.Contrasts finding declared given ∧
        expected = (Representation.ofDataType declared).name ∧
        actual = given.name ∧
        (expected ≠ actual ↔ given ≠ .foreign expected) := by
  obtain ⟨finding, found, judged⟩ :=
    registration.finds_bind respond state operand
  rw [rejected] at judged
  obtain ⟨declared, given, contrast, rfl, rfl⟩ :=
    Registration.exists_contrasts_of_mismatch? judged.symm mismatched
  exact ⟨finding, declared, given, found, contrast, rfl, rfl,
    Representation.name_ne_iff (contrast.different found)⟩

/-- `TOTAL` was declared for integers and is implemented for long ones. -/
theorem total_mismatch_names_differ :
    let implementation : Artifact :=
      .ofHostAggregator "acme.Total" ⟨.int64, .int64, "Sum"⟩
    let stores : Stores :=
      { artifacts := .run .empty [.deploy implementation] }
    let registration : Registration :=
      ⟨⟨2⟩, "APP", "TOTAL", .int, .bigInt, "acme.Total"⟩
    ((registration.bind .int).play Stores.responder stores).value =
        .error (.inputMismatch "APP" "TOTAL" "i32" "i64") ∧
      ∃ given : Representation, given.name = "i64" ∧
        given ≠ .foreign "i32" := by
  intro implementation stores registration
  have rejected :
      ((registration.bind .int).play Stores.responder stores).value =
        .error (.inputMismatch "APP" "TOTAL" "i32" "i64") := by
    rw [Registration.value_bind]
    decide
  obtain ⟨-, -, given, -, -, -, named, differ⟩ :=
    mismatch_names_differ_iff rejected rfl
  exact ⟨rejected, given, named.symm, differ.mp (by decide)⟩

/-- `LATEST` was declared for dates and is implemented for a class that happens
to be called `Date`. -/
theorem latest_mismatch_names_agree :
    let implementation : Artifact := Artifact.declare { name := "acme.Latest" }
      .aggregator [some (.foreign "Date"), some .date, none]
    let stores : Stores :=
      { artifacts := .run .empty [.deploy implementation] }
    let registration : Registration :=
      ⟨⟨2⟩, "APP", "LATEST", .date, .date, "acme.Latest"⟩
    ∃ rejection,
      ((registration.bind .date).play Stores.responder stores).value =
          .error rejection ∧
        rejection.mismatch? = some ("Date", "Date") ∧
        rejection.message =
          "User defined aggregate 'APP'.'LATEST' was declared to have input " ++
            "type 'Date', but its implementation accepts 'Date'" := by
  intro implementation stores registration
  refine ⟨.inputMismatch "APP" "LATEST" "Date" "Date", ?_, rfl, by decide⟩
  rw [Registration.value_bind]
  decide

end SqlAdmission
