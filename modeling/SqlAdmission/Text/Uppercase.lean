import SqlAdmission.Text.UppercaseTable

/-!
# Upper-casing

The full, context-free upper-case mapping on characters and text.  One
character may map to several, so the length of a text is not kept.
-/

namespace SqlAdmission.Text

namespace CaseRun

def contains (run : CaseRun) (code : Nat) : Bool :=
  run.first ≤ code && code ≤ run.last && (code - run.first) % run.step == 0

/-- Where the run takes a code point. -/
def image (run : CaseRun) (code : Nat) : Nat :=
  (code + run.offset).toNat

end CaseRun

/-- The code points of the upper-case form of a code point. -/
def uppercaseCodes (code : Nat) : List Nat :=
  match caseExpansions.lookup code with
  | some expansion => expansion
  | none =>
    match caseRuns.find? (·.contains code) with
    | some run => [run.image code]
    | none => [code]

def uppercaseChar (char : Char) : List Char :=
  (uppercaseCodes char.toNat).map Char.ofNat

/-- The upper-case form of a text, character by character. -/
def uppercase (text : String) : String :=
  String.ofList (text.toList.flatMap uppercaseChar)

theorem toList_uppercase (text : String) :
    (uppercase text).toList = text.toList.flatMap uppercaseChar := by
  simp [uppercase]

end SqlAdmission.Text
