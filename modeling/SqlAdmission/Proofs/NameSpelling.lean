import Mathlib.Data.List.Forall2
import Mathlib.Data.List.Infix
import SqlAdmission.Aggregate.Builtin
import SqlAdmission.Privilege

/-!
# The spellings of a name

Privileges and built-in aggregates are read by upper-casing a text and looking
for it among their names.  Upper-casing is not injective and does not keep the
length, so the texts read as a name are the preimages of the name: `Spells`
gives them letter by letter, and `flatMap_uppercaseChar_eq_iff` shows that there
are no others.  Two characters beside the small letters become capital letters,
and no upper-case form of several characters stands in a name.
-/

namespace SqlAdmission

namespace Text

/-- A character read as a capital letter: the letter in either case, and the
long s and the dotless i for their own letters. -/
def Writes (char letter : Char) : Prop :=
  char = letter ∨ char = letter.toLower ∨
    (char = '\u017f' ∧ letter = 'S') ∨ (char = '\u0131' ∧ letter = 'I')

instance (char letter : Char) : Decidable (Writes char letter) :=
  inferInstanceAs (Decidable (_ ∨ _))

/-- As many characters as the name has letters, each one read as its letter. -/
def Spells (text name : String) : Prop :=
  List.Forall₂ Writes text.toList name.toList

instance (text name : String) : Decidable (Spells text name) :=
  inferInstanceAs (Decidable (List.Forall₂ Writes text.toList name.toList))

/-! ## Code points -/

theorem uppercaseCodes_cases (code : Nat) :
    (∃ entry ∈ caseExpansions, uppercaseCodes code = entry.2) ∨
      (∃ run ∈ caseRuns, run.contains code = true ∧
        uppercaseCodes code = [run.image code]) ∨
      uppercaseCodes code = [code] := by
  cases expands : caseExpansions.lookup code with
  | some expansion =>
      obtain ⟨before, after, listed, -⟩ := List.lookup_eq_some_iff.mp expands
      refine .inl ⟨(code, expansion), by simp [listed], ?_⟩
      simp [uppercaseCodes, expands]
  | none =>
      cases moves : caseRuns.find? (·.contains code) with
      | some run =>
          have inside : run.contains code = true := by
            simpa using List.find?_some moves
          refine .inr (.inl ⟨run, List.mem_of_find?_eq_some moves, inside, ?_⟩)
          simp [uppercaseCodes, expands, moves]
      | none => exact .inr (.inr (by simp [uppercaseCodes, expands, moves]))

theorem expansion_length {entry : Nat × List Nat}
    (listed : entry ∈ caseExpansions) : 1 < entry.2.length := by
  revert entry
  decide

/-- The runs that reach the capital letters: the small letters, the dotless i
and the long s.  Every other run ends up above them. -/
theorem run_cases {run : CaseRun} (listed : run ∈ caseRuns) :
    (run.last = 0x7a ∧ run.offset = -0x20) ∨
      (run.first = 0x131 ∧ run.last = 0x131 ∧ run.offset = -0xe8) ∨
      (run.first = 0x17f ∧ run.last = 0x17f ∧ run.offset = -0x12c) ∨
      0x5a < run.first + run.offset := by
  revert run
  decide +kernel

theorem uppercaseCodes_letters :
    ∀ letter < 0x5b, 0x41 ≤ letter →
      uppercaseCodes letter = [letter] ∧
        uppercaseCodes (letter + 0x20) = [letter] := by
  decide +kernel

/-- The preimages of a capital letter. -/
theorem uppercaseCodes_eq_iff {code letter : Nat} (first : 0x41 ≤ letter)
    (last : letter < 0x5b) :
    uppercaseCodes code = [letter] ↔
      code = letter ∨ code = letter + 0x20 ∨
        (code = 0x17f ∧ letter = 0x53) ∨ (code = 0x131 ∧ letter = 0x49) := by
  constructor
  · intro reaches
    obtain ⟨entry, listed, expands⟩ | ⟨run, listed, inside, moves⟩ | stays :=
      uppercaseCodes_cases code
    · have several := expansion_length listed
      rw [← expands, reaches] at several
      simp at several
    · rw [reaches, List.singleton_inj, CaseRun.image] at moves
      simp only [CaseRun.contains, Bool.and_eq_true,
        decide_eq_true_eq] at inside
      -- A run that reaches the letter has one place to reach it from.
      rcases run_cases listed with
        ⟨high, back⟩ | ⟨low, high, back⟩ | ⟨low, high, back⟩ | above
      · omega
      · omega
      · omega
      · omega
    · rw [reaches, List.singleton_inj] at stays
      exact .inl stays.symm
  · have capital := uppercaseCodes_letters letter last first
    rintro (rfl | rfl | ⟨rfl, rfl⟩ | ⟨rfl, rfl⟩)
    · exact capital.1
    · exact capital.2
    · decide +kernel
    · decide +kernel

/-! ## Characters -/

theorem isUpper_iff {letter : Char} :
    letter.isUpper = true ↔ 0x41 ≤ letter.toNat ∧ letter.toNat < 0x5b := by
  change decide ('A'.val ≤ letter.val ∧ letter.val ≤ 'Z'.val) = true ↔ _
  rw [decide_eq_true_iff, UInt32.le_iff_toNat_le, UInt32.le_iff_toNat_le]
  exact and_congr Iff.rfl Nat.lt_succ_iff.symm

theorem toNat_toLower {letter : Char} (capital : letter.isUpper = true) :
    letter.toLower.toNat = letter.toNat + 0x20 := by
  have lowered : ∀ code < 0x5b, 0x41 ≤ code →
      (Char.ofNat code).toLower.toNat = code + 0x20 := by decide
  obtain ⟨first, last⟩ := isUpper_iff.mp capital
  simpa only [Char.ofNat_toNat] using lowered letter.toNat last first

theorem writes_iff {char letter : Char} (capital : letter.isUpper = true) :
    Writes char letter ↔
      char.toNat = letter.toNat ∨ char.toNat = letter.toNat + 0x20 ∨
        (char.toNat = 0x17f ∧ letter.toNat = 0x53) ∨
          (char.toNat = 0x131 ∧ letter.toNat = 0x49) := by
  simp only [Writes, ← Char.toNat_inj, toNat_toLower capital]
  rfl

theorem ofNat_eq_iff {code : Nat} {letter : Char}
    (capital : letter.isUpper = true) :
    Char.ofNat code = letter ↔ code = letter.toNat := by
  constructor
  · intro same
    obtain ⟨first, last⟩ := isUpper_iff.mp capital
    by_cases valid : code.isValidChar
    · exact congrArg Char.toNat ((dif_pos valid).symm.trans same)
    · -- A number that is no code point gives the null character, no letter.
      have null : '\x00' = letter := (dif_neg valid).symm.trans same
      subst null
      contradiction
  · intro same
    rw [same, Char.ofNat_toNat]

theorem uppercaseChar_eq_iff {char letter : Char}
    (capital : letter.isUpper = true) :
    uppercaseChar char = [letter] ↔ Writes char letter := by
  obtain ⟨first, last⟩ := isUpper_iff.mp capital
  rw [writes_iff capital, ← uppercaseCodes_eq_iff first last, uppercaseChar,
    List.map_eq_singleton_iff]
  simp only [ofNat_eq_iff capital]
  constructor
  · rintro ⟨code, codes, rfl⟩
    exact codes
  · intro codes
    exact ⟨_, codes, rfl⟩

theorem uppercaseChar_cases (char : Char) :
    (∃ entry ∈ caseExpansions,
      uppercaseChar char = entry.2.map Char.ofNat) ∨
      ∃ letter, uppercaseChar char = [letter] := by
  obtain ⟨entry, listed, expands⟩ | ⟨run, -, -, moves⟩ | stays :=
    uppercaseCodes_cases char.toNat
  · exact .inl ⟨entry, listed, by rw [uppercaseChar, expands]⟩
  · exact .inr ⟨_, by rw [uppercaseChar, moves, List.map_singleton]⟩
  · exact .inr ⟨_, by rw [uppercaseChar, stays, List.map_singleton]⟩

/-! ## Texts -/

/-- A name of capital letters in which no upper-case form of several characters
stands, so that each of its letters comes from a character of its own. -/
structure Plain (name : List Char) : Prop where
  capitals : ∀ letter ∈ name, letter.isUpper = true
  apart : ∀ entry ∈ caseExpansions, ¬ entry.2.map Char.ofNat <:+: name

theorem Plain.tail {letter : Char} {rest : List Char}
    (plain : Plain (letter :: rest)) : Plain rest where
  capitals other within :=
    plain.capitals other (List.mem_cons_of_mem _ within)
  apart entry listed stands :=
    plain.apart entry listed (List.infix_cons stands)

theorem flatMap_uppercaseChar_eq_iff {text name : List Char}
    (plain : Plain name) :
    text.flatMap uppercaseChar = name ↔ List.Forall₂ Writes text name := by
  induction text generalizing name with
  | nil => simp [eq_comm]
  | cons char text induction =>
      constructor
      · intro reads
        rw [List.flatMap_cons] at reads
        rcases uppercaseChar_cases char with
          ⟨entry, listed, expands⟩ | ⟨letter, single⟩
        · -- The form would begin what is left of the name.
          rw [expands] at reads
          have starts : entry.2.map Char.ofNat <+: name := ⟨_, reads⟩
          exact absurd starts.isInfix (plain.apart entry listed)
        · rw [single, List.singleton_append] at reads
          subst reads
          have capital := plain.capitals letter List.mem_cons_self
          have writes := (uppercaseChar_eq_iff capital).mp single
          exact .cons writes ((induction plain.tail).mp rfl)
      · intro spelled
        cases spelled with
        | cons writes others =>
            have capital := plain.capitals _ List.mem_cons_self
            rw [List.flatMap_cons, (uppercaseChar_eq_iff capital).mpr writes,
              (induction plain.tail).mpr others, List.singleton_append]

theorem uppercase_eq_iff {text name : String} (plain : Plain name.toList) :
    uppercase text = name ↔ Spells text name := by
  rw [← String.toList_inj, toList_uppercase, flatMap_uppercaseChar_eq_iff plain,
    Spells]

theorem exists_written {text name : List Char}
    (spelled : List.Forall₂ Writes text name) {char : Char}
    (within : char ∈ text) : ∃ letter ∈ name, Writes char letter := by
  induction spelled with
  | nil => cases within
  | cons writes others induction =>
      rcases List.mem_cons.mp within with rfl | later
      · exact ⟨_, List.mem_cons_self, writes⟩
      · obtain ⟨letter, inRest, written⟩ := induction later
        exact ⟨letter, List.mem_cons_of_mem _ inRest, written⟩

/-- In a spelling of a name every character stands for one letter, which alone
is its upper-case form. -/
theorem Spells.single {text name : String} (plain : Plain name.toList)
    (spelled : Spells text name) {char : Char} (within : char ∈ text.toList) :
    ∃ letter ∈ name.toList,
      Writes char letter ∧ uppercaseChar char = [letter] := by
  obtain ⟨letter, inName, writes⟩ := exists_written spelled within
  have capital := plain.capitals letter inName
  exact ⟨letter, inName, writes, (uppercaseChar_eq_iff capital).mpr writes⟩

end Text

/-! ## Names -/

theorem Privilege.plain_name (privilege : Privilege) :
    Text.Plain privilege.name.toList := by
  cases privilege <;>
    exact ⟨List.all_eq_true.mp (by decide +kernel), by decide +kernel⟩

theorem Builtin.plain_name (aggregate : Builtin) :
    Text.Plain aggregate.name.toList := by
  cases aggregate <;>
    exact ⟨List.all_eq_true.mp (by decide +kernel), by decide +kernel⟩

/-- The text is read as the privilege or the built-in aggregate of that name. -/
inductive ReadAs (text : String) : String → Prop where
  | privilege {privilege : Privilege} :
      Privilege.parse? text = some privilege → ReadAs text privilege.name
  | aggregate {aggregate : Builtin} :
      Builtin.parse? text = some aggregate → ReadAs text aggregate.name

theorem ReadAs.uppercase_eq {text name : String} (read : ReadAs text name) :
    Text.uppercase text = name := by
  cases read with
  | privilege found => exact Privilege.parse?_eq_some_iff.mp found
  | aggregate found => exact Builtin.parse?_eq_some_iff.mp found

theorem ReadAs.plain {text name : String} (read : ReadAs text name) :
    Text.Plain name.toList := by
  cases read with
  | privilege found => exact Privilege.plain_name _
  | aggregate found => exact Builtin.plain_name _

/-- A text is read as a privilege or a built-in aggregate exactly when it spells
the name.  Whatever is read upper-cases to the name of what it is read as, and
none of its characters has an upper-case form of several characters. -/
theorem names_read_in_any_case (text : String) :
    (∀ privilege,
      Privilege.parse? text = some privilege ↔
        Text.Spells text privilege.name) ∧
    (∀ aggregate,
      Builtin.parse? text = some aggregate ↔
        Text.Spells text aggregate.name) ∧
    ∀ name, ReadAs text name →
      Text.uppercase text = name ∧
        ∀ char ∈ text.toList, ∃ letter ∈ name.toList,
          Text.Writes char letter ∧ Text.uppercaseChar char = [letter] := by
  refine ⟨fun privilege => ?_, fun aggregate => ?_, fun name read => ?_⟩
  · rw [Privilege.parse?_eq_some_iff,
      Text.uppercase_eq_iff privilege.plain_name]
  · rw [Builtin.parse?_eq_some_iff, Text.uppercase_eq_iff aggregate.plain_name]
  · refine ⟨read.uppercase_eq, fun char within => ?_⟩
    have spelled := (Text.uppercase_eq_iff read.plain).mp read.uppercase_eq
    exact spelled.single read.plain within

/-- The long s and the dotless i are read, each as one letter. -/
theorem names_read_with_long_s_and_dotless_i :
    Privilege.parse? "in\u017fert" = some .insert ∧
      Text.uppercase "in\u017fert" = "INSERT" ∧
      Builtin.parse? "m\u0131n" = some .min := by
  obtain ⟨privileges, -, reads⟩ := names_read_in_any_case "in\u017fert"
  obtain ⟨-, aggregates, -⟩ := names_read_in_any_case "m\u0131n"
  have insert := (privileges .insert).mpr (by decide)
  exact ⟨insert, (reads _ (.privilege insert)).1,
    (aggregates .min).mpr (by decide)⟩

end SqlAdmission
