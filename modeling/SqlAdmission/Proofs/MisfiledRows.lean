import Mathlib.Data.List.Basic
import SqlAdmission.Proofs.TrustedRows

/-!
# Misfiled rows

A dictionary may answer with a row that is filed under another key than the one
asked for.  A grant on another object then counts for nothing.  A grant to
someone else counts for the user all the same, and objects, schemas and
registrations are believed as they come.
-/

namespace SqlAdmission

instance (wanted : Lookup) (row : wanted.Row) : Decidable (wanted.Filed row) :=
  match wanted, row with
  | .grant target grantee, row =>
    inferInstanceAs (Decidable (row.object = target ∧ row.grantee = grantee))
  | .object id, row => inferInstanceAs (Decidable (row.id = id))
  | .schema id, row => inferInstanceAs (Decidable (row.id = id))
  | .registration id, row => inferInstanceAs (Decidable (row.id = id))

namespace Trust

/-- Rows are trusted where they are filed under the key asked for. -/
def filed : Trust := fun wanted row => decide (wanted.Filed row)

/-- Every row is trusted but a grant that is filed under another object. -/
def filedByObject : Trust
  | .grant object _, row => row.object = object
  | .object _, _ | .schema _, _ | .registration _, _ => true

/-- Only grants are left out. -/
theorem filedByObject_leavesAlone {txn : TxnId} {wanted : Lookup}
    (other : wanted.kind ≠ .grant) :
    filedByObject.LeavesAlone (.lookup txn wanted) := by
  cases wanted with
  | grant object grantee => exact (other rfl).elim
  | object id => exact fun _ => rfl
  | schema id => exact fun _ => rfl
  | registration id => exact fun _ => rfl

end Trust

section Played

variable {σ : Type} (respond : Responder σ) (state : σ) (statement : Statement)

namespace Statement

/-! ## Grants on other objects -/

theorem grant?_filedByObject {object : ObjectId} {call : Call}
    (asked : call.question ∈ statement.grantQuestions object) :
    (call.trusting .filedByObject).grant?.filter (·.object = object) =
      call.grant?.filter (·.object = object) := by
  obtain ⟨question, answer⟩ := call
  obtain ⟨grantee, rfl⟩ := of_mem_grantQuestions asked
  rcases answer with error | found
  · rfl
  · change (Option.filter (fun row : Grant => decide (row.object = object))
      found).filter (·.object = object) = _
    rw [Option.filter_filter]
    simp only [Bool.and_self]
    rfl

/-- A grant on another object counts for nothing, so it can as well be left
out. -/
theorem grantsRead_filedByObject {object : ObjectId} {reads : List Call}
    (asked : reads.map Call.question = statement.grantQuestions object) :
    grantsRead object (reads.map (·.trusting .filedByObject)) =
      grantsRead object reads := by
  unfold grantsRead
  rw [List.filter_filterMap, List.filter_filterMap, List.filterMap_map]
  refine List.filterMap_congr fun call member => ?_
  have about : call.question ∈ statement.grantQuestions object := by
    rw [← asked]
    exact List.mem_map_of_mem member
  exact statement.grant?_filedByObject about

theorem play_deny_filedByObject (row : ObjectRow) (mode : Access)
    (missing : Option (List String)) (forGrant : Bool) :
    (statement.deny row mode missing forGrant).play
        (respond.trusting .filedByObject) state =
      (statement.deny row mode missing forGrant).play respond state := by
  have heeds : (statement.deny row mode missing forGrant).HeedsFailures
      Trust.filedByObject.LeavesAlone [] :=
    statement.heeds_deny row mode missing forGrant
      (Trust.filedByObject_leavesAlone (by simp [Lookup.kind]))
  exact heeds.asks.run_trusting respond state .filedByObject

theorem play_decideOwnership_filedByObject (schema : SchemaId)
    (forGrant : Bool) :
    (statement.decideOwnership schema forGrant).play
        (respond.trusting .filedByObject) state =
      (statement.decideOwnership schema forGrant).play respond state := by
  have heeds : (statement.decideOwnership schema forGrant).HeedsFailures
      Trust.filedByObject.LeavesAlone [] :=
    statement.heeds_decideOwnership schema forGrant
      (Trust.filedByObject_leavesAlone (by simp [Lookup.kind]))
  exact heeds.asks.run_trusting respond state .filedByObject

theorem play_bindFound_filedByObject (id : ObjectId) (operand : DataType) :
    (statement.bindFound id operand).play (respond.trusting .filedByObject)
        state =
      (statement.bindFound id operand).play respond state := by
  have heeds : (statement.bindFound id operand).HeedsFailures
      Trust.filedByObject.LeavesAlone [] :=
    statement.heeds_bindFound id operand
      (Trust.filedByObject_leavesAlone (by simp [Lookup.kind]))
      fun _ => Trust.leavesAlone_of_isForLoader
  exact heeds.asks.run_trusting respond state .filedByObject

theorem ending_decideAccess_filedByObject (object : ObjectId) (mode : Access)
    (forGrant : Bool) :
    ((statement.decideAccess object mode forGrant).play
        (respond.trusting .filedByObject) state).ending =
      ((statement.decideAccess object mode forGrant).play
        (respond.trusting .all) state).ending := by
  unfold decideAccess
  cases found : (respond (.lookup statement.txn (.object object))
      state).answer with
  | error error =>
      rw [statement.ending_lookup_bind_of_error respond state _ found,
        statement.ending_lookup_bind_of_error respond state _ found]
  | ok target =>
      rw [statement.ending_lookup_bind_of_ok respond state _ found,
        statement.ending_lookup_bind_of_ok respond state _ found,
        filter_of_trusted .filedByObject (fun _ => rfl),
        filter_of_trusted .all (fun _ => rfl)]
      cases target.filter (fun row : ObjectRow => mode.accepts row.kind) with
      | none => rfl
      | some row =>
          dsimp only
          cases statement.byOwner with
          | true => rfl
          | false =>
              rw [if_neg Bool.false_ne_true]
              rcases statement.ending_applicableGrants_bind_trusting respond _
                object with ⟨rejection, after, failed⟩ |
                  ⟨reads, after, asked, decided⟩
              · exact (failed .filedByObject _).trans (failed .all _).symm
              · obtain ⟨-, endings⟩ :=
                  decided (statement.decideBy row mode forGrant)
                refine (endings .filedByObject).trans
                  (Eq.trans ?_ (endings .all).symm)
                rw [statement.grantsRead_filedByObject asked,
                  Call.map_trusting_all]
                unfold decideBy
                cases mode.coverage (grantsRead object reads) with
                | complete => rfl
                | lacking missing =>
                    dsimp only
                    rw [statement.play_deny_filedByObject, respond.trusting_all]

theorem ending_check_filedByObject (requirement : Requirement)
    (forGrant : Bool) :
    ((statement.check requirement forGrant).play
        (respond.trusting .filedByObject) state).ending =
      ((statement.check requirement forGrant).play respond state).ending := by
  rw [ending_check, ending_check]
  cases requirement with
  | access object mode =>
      refine (statement.ending_decideAccess_filedByObject respond state object
        mode forGrant).trans ?_
      rw [respond.trusting_all]
      rfl
  | ownership schema =>
      exact congrArg Outcome.ending
        (statement.play_decideOwnership_filedByObject respond state schema
          forGrant)

theorem value_bindRegistered_filedByObject (id : ObjectId)
    (operand : DataType) :
    ((statement.bindRegistered id operand).play
        (respond.trusting .filedByObject) state).value =
      ((statement.bindRegistered id operand).play respond state).value := by
  have checked := statement.ending_check_filedByObject respond state
    (.access id .execute) false
  have sameValue := congrArg Prod.fst checked
  have sameState := congrArg Prod.snd checked
  dsimp only [Outcome.ending] at sameValue sameState
  rw [value_bindRegistered, value_bindRegistered, sameValue, sameState,
    play_bindFound_filedByObject]

end Statement

/-- What a check admits, and what a registered aggregate is bound to, does not
change when grants on other objects are left out.  Where all misfiled rows are
left out, an admission of whoever does not own the database is kept exactly if
the target that was read is filed and the filed grants that were read cover the
access, or if the owned schema is filed; and a binding is kept exactly if
besides its registration is filed. -/
theorem kept_without_misfiled_rows_iff (notOwner : statement.byOwner = false) :
    (∀ requirement forGrant,
      ((statement.check requirement forGrant).play
          (respond.trusting .filedByObject) state).value =
        ((statement.check requirement forGrant).play respond state).value) ∧
    (∀ id operand,
      ((statement.bindRegistered id operand).play
          (respond.trusting .filedByObject) state).value =
        ((statement.bindRegistered id operand).play respond state).value) ∧
    (∀ requirement forGrant,
      let outcome := (statement.check requirement forGrant).play respond state
      outcome.value = .ok () →
        (((statement.check requirement forGrant).play (respond.trusting .filed)
            state).value = .ok () ↔
          Trust.filed.Admits (Entry.calls outcome.transcript) requirement)) ∧
    ∀ id operand binding,
      let outcome := (statement.bindRegistered id operand).play respond state
      let calls := Entry.calls outcome.transcript
      let value := ((statement.bindRegistered id operand).play
        (respond.trusting .filed) state).value
      outcome.value = .ok binding →
        (value = .ok binding ↔
          Trust.filed.Admits calls (.access id .execute) ∧
            Trust.filed.Accepts calls (.registration id)) ∧
        ∀ other, value = .ok other → other = binding := by
  refine ⟨?_, ?_, ?_, ?_⟩
  · intro requirement forGrant
    exact congrArg Prod.fst (statement.ending_check_filedByObject respond state
      requirement forGrant)
  · exact statement.value_bindRegistered_filedByObject respond state
  · intro requirement forGrant outcome admitted
    exact (statement.trusting_check respond state .filed notOwner admitted).1
  · intro id operand binding outcome calls value bound
    exact statement.trusting_bindRegistered respond state .filed notOwner bound

end Played

/-- A function, by a dictionary that answers with a grant to one grantee whoever
is asked for. -/
def booksGrantedTo (grantee : String) : (question : Question) → question.Answer
  | .lookup _ (.object id) => .ok (some ⟨id, ⟨1⟩, "CLOSE_BOOKS", .function⟩)
  | .lookup _ (.grant target _) =>
    .ok (some (Grant.ofPrivileges grantee target [.execute] "dba"))
  | .lookup _ (.schema id) => .ok (some ⟨id, "APP", "dba"⟩)
  | .lookup _ (.registration _) => .ok none
  | .load name => .error (.classNotFound name)
  | .arguments handle _ => .error (.classNotFound handle.name)

/-- The grant to `clerk` suffices without the one that is also told to be
everyone's. -/
theorem clerk_executes_by_filed_grant :
    let statement : Statement := { txn := ⟨1⟩, user := "clerk" }
    let respond := Responder.ofAnswers (booksGrantedTo "clerk")
    statement.byOwner = false ∧
      ((statement.check (.access ⟨2⟩ .execute) false).play respond ()).value =
        .ok () ∧
      ((statement.check (.access ⟨2⟩ .execute) false).play
        (respond.trusting .filed) ()).value = .ok () := by
  intro statement respond
  have admitted : ((statement.check (.access ⟨2⟩ .execute) false).play respond
      ()).value = .ok () :=
    rfl
  obtain ⟨-, -, kept, -⟩ :=
    kept_without_misfiled_rows_iff respond () statement rfl
  refine ⟨rfl, admitted, (kept _ _ admitted).mpr ⟨?_, rfl⟩⟩
  intro txn row member
  rcases List.mem_cons.mp member with target | later
  · cases target
    rfl
  · exact (nomatch later)

/-- A grant to someone else admits `clerk`. -/
theorem clerk_executes_by_misfiled_grant :
    let statement : Statement := { txn := ⟨1⟩, user := "clerk" }
    let respond := Responder.ofAnswers (booksGrantedTo "auditor")
    statement.byOwner = false ∧
      ((statement.check (.access ⟨2⟩ .execute) false).play respond ()).value =
        .ok () ∧
      ((statement.check (.access ⟨2⟩ .execute) false).play
          (respond.trusting .filed) ()).value =
        .error (.permissionDenied {
          user := "clerk"
          privilege := "EXECUTE"
          objectType := "FUNCTION"
          schema := "APP"
          name := some "CLOSE_BOOKS"
          columns := none
          forGrant := false }) :=
  ⟨rfl, rfl, rfl⟩

end SqlAdmission
