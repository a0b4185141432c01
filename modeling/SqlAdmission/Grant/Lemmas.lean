import SqlAdmission.Grant.Basic

/-!
# The scopes of a grant

What each operation on grants does to the scope of a privilege.  Merging is
the pointwise union of scopes; it keeps the place of the record it widens.
-/

namespace SqlAdmission

namespace Grant

theorem scopes_ext {left right : Std.ExtTreeMap Privilege Scope}
    (same : ∀ privilege : Privilege, left[privilege]? = right[privilege]?) : left = right :=
  Std.ExtTreeMap.ext_getElem? same

@[simp] theorem scope?_restrictTo (grant : Grant) (columns : List String)
    (privilege : Privilege) :
    (grant.restrictTo columns).scope? privilege =
      (grant.scope? privilege).map fun _ => .only columns := by
  simp [restrictTo, scope?, Std.ExtTreeMap.getElem?_map]

theorem scope?_revoke (grant : Grant) (revoked privilege : Privilege) :
    (grant.revoke revoked).scope? privilege =
      if revoked = privilege then none else grant.scope? privilege := by
  simp [revoke, scope?, Std.ExtTreeMap.getElem?_erase]

theorem scope?_ofPrivileges (grantee : String) (object : ObjectId)
    (privileges : List Privilege) (grantor : String) (privilege : Privilege) :
    (ofPrivileges grantee object privileges grantor).scope? privilege =
      if privilege ∈ privileges then some .everyColumn else none := by
  have general : ∀ scopes : Std.ExtTreeMap Privilege Scope,
      (privileges.foldl (fun scopes privilege =>
          scopes.insert privilege .everyColumn) scopes)[privilege]? =
        if privilege ∈ privileges then some Scope.everyColumn else scopes[privilege]? := by
    induction privileges with
    | nil => simp
    | cons first rest induction =>
      intro scopes
      rw [List.foldl_cons, induction]
      by_cases inRest : privilege ∈ rest
      · simp [inRest]
      · by_cases same : first = privilege
        · simp [same]
        · simp [inRest, same, Ne.symm same, Std.ExtTreeMap.getElem?_insert]
  simpa [ofPrivileges, scope?] using general ∅

theorem scope?_widen (grant : Grant) (entry : Privilege × Scope) (privilege : Privilege) :
    (grant.widen entry).scope? privilege =
      if entry.1 = privilege then
        some ((grant.scope? privilege).elim entry.2 (·.union entry.2))
      else grant.scope? privilege := by
  simp only [widen, scope?, Std.ExtTreeMap.getElem?_alter, Std.compare_eq_iff_eq]
  split
  · rename_i same
    rw [same]
  · rfl

theorem scope?_foldl_widen_of_forall_ne {entries : List (Privilege × Scope)}
    {privilege : Privilege} (absent : ∀ entry ∈ entries, entry.1 ≠ privilege) (grant : Grant) :
    (entries.foldl widen grant).scope? privilege = grant.scope? privilege := by
  induction entries generalizing grant with
  | nil => rfl
  | cons first rest induction =>
    simp only [List.mem_cons, forall_eq_or_imp] at absent
    rw [List.foldl_cons, induction absent.2, scope?_widen, if_neg absent.1]

theorem scope?_foldl_widen_of_mem {entries : List (Privilege × Scope)}
    (distinct : entries.Pairwise fun left right => left.1 ≠ right.1)
    {entry : Privilege × Scope} (member : entry ∈ entries) (grant : Grant) :
    (entries.foldl widen grant).scope? entry.1 =
      some ((grant.scope? entry.1).elim entry.2 (·.union entry.2)) := by
  induction entries generalizing grant with
  | nil => simp at member
  | cons first rest induction =>
    rw [List.pairwise_cons] at distinct
    rw [List.foldl_cons]
    rcases List.mem_cons.mp member with rfl | inRest
    · rw [scope?_foldl_widen_of_forall_ne
        (fun other otherMember => (distinct.1 other otherMember).symm), scope?_widen, if_pos rfl]
    · rw [induction distinct.2 inRest, scope?_widen, if_neg (distinct.1 entry inRest)]

theorem pairwise_ne_toList (scopes : Std.ExtTreeMap Privilege Scope) :
    scopes.toList.Pairwise fun left right => left.1 ≠ right.1 := by
  refine Std.ExtTreeMap.distinct_keys_toList.imp ?_
  intro left right different same
  exact different (Std.compare_eq_iff_eq.mpr same)

/-- Widening by the privileges of a grant, in whatever order, joins the two
scopes of each privilege. -/
theorem scope?_foldl_widen_of_perm {entries : List (Privilege × Scope)} {more : Grant}
    (listed : entries.Perm more.scopes.toList) (own : Grant) (privilege : Privilege) :
    (entries.foldl widen own).scope? privilege =
      Option.merge Scope.union (own.scope? privilege) (more.scope? privilege) := by
  cases theirs : more.scope? privilege with
  | none =>
    rw [scope?_foldl_widen_of_forall_ne]
    · cases own.scope? privilege <;> rfl
    · rintro ⟨other, scope⟩ member same
      have found : more.scopes[other]? = some scope :=
        Std.ExtTreeMap.mem_toList_iff_getElem?_eq_some.mp (listed.mem_iff.mp member)
      rw [show other = privilege from same] at found
      rw [scope?, found] at theirs
      contradiction
  | some scope =>
    have distinct : entries.Pairwise fun left right => left.1 ≠ right.1 :=
      (listed.pairwise_iff Ne.symm).mpr (pairwise_ne_toList more.scopes)
    have member : (privilege, scope) ∈ entries :=
      listed.mem_iff.mpr (Std.ExtTreeMap.mem_toList_iff_getElem?_eq_some.mpr theirs)
    rw [scope?_foldl_widen_of_mem distinct member]
    cases own.scope? privilege <;> rfl

theorem scope?_merge (own more : Grant) (privilege : Privilege) :
    (own.merge more).scope? privilege =
      Option.merge Scope.union (own.scope? privilege) (more.scope? privilege) :=
  scope?_foldl_widen_of_perm (.refl _) own privilege

theorem foldl_widen_place (entries : List (Privilege × Scope)) (grant : Grant) :
    (entries.foldl widen grant).grantee = grant.grantee ∧
      (entries.foldl widen grant).object = grant.object ∧
        (entries.foldl widen grant).grantor = grant.grantor := by
  induction entries generalizing grant with
  | nil => exact ⟨rfl, rfl, rfl⟩
  | cons first rest induction => exact induction (grant.widen first)

@[simp] theorem grantee_merge (own more : Grant) : (own.merge more).grantee = own.grantee :=
  (foldl_widen_place _ own).1

@[simp] theorem object_merge (own more : Grant) : (own.merge more).object = own.object :=
  (foldl_widen_place _ own).2.1

@[simp] theorem grantor_merge (own more : Grant) : (own.merge more).grantor = own.grantor :=
  (foldl_widen_place _ own).2.2

@[simp] theorem key_merge (own more : Grant) : (own.merge more).key = own.key := by
  simp [key]

@[simp] theorem key_revoke (grant : Grant) (privilege : Privilege) :
    (grant.revoke privilege).key = grant.key := rfl

theorem isEmpty_iff (grant : Grant) :
    grant.isEmpty = true ↔ ∀ privilege, grant.scope? privilege = none := by
  simp only [isEmpty, Std.ExtTreeMap.isEmpty_iff, scope?]
  constructor
  · intro empty privilege
    simp [empty]
  · intro absent
    exact scopes_ext fun privilege => by simp [absent privilege]

end Grant

end SqlAdmission
