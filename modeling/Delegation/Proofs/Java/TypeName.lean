import Delegation.Java.TypeName.Reader
import Delegation.Proofs.Java.ClassName

/-!
# Texts that name a class

The text of a type names a class when it reads as the class without type arguments.  Whatever the
text looks like, the class was then read from one of its words; so the classes that are named are no
others than those that dotted names are read as.

## Main Definitions

* `TypeName.classNamed?` — the class that a text names.

## Main Statements

* `TypeName.ofDotted?_of_classNamed?` — the qualified name of a class that is named reads as the
  class.
-/

namespace Delegation.Java.TypeName

/-- The class that the text of a type names, without type arguments or brackets. -/
def classNamed? (text : String) : Option ClassName := (ofText? text).bind plainClass?

theorem classNamed?_eq_some_iff {text : String} {name : ClassName} :
    classNamed? text = some name ↔ ofText? text = some (plain name) := by
  rw [classNamed?, Option.bind_eq_some_iff]
  simp only [plainClass?_eq_some_iff, exists_eq_right]

/-- A word stands for a class when it reads as the class. -/
theorem ofDotted?_of_ofWord? {word : String} {name : ClassName} {arguments : List TypeName}
    (read : ofWord? word = some (declared name arguments)) :
    ClassName.ofDotted? word = some name := by
  unfold ofWord? at read
  split at read
  · cases read
  · split at read
    · cases read
    · obtain ⟨found, readName, same⟩ := Option.map_eq_some_iff.mp read
      cases same
      exact readName

/-- Brackets make arrays, so a class comes without any. -/
theorem eq_of_readBrackets {type : TypeName} {tokens rest : List Token} {name : ClassName}
    {arguments : List TypeName}
    (read : readBrackets type tokens = some (declared name arguments, rest)) :
    type = declared name arguments := by
  fun_induction readBrackets type tokens with
  | case1 => cases read
  | case2 _ _ _ ih => cases ih read
  | case3 => cases read
  | case4 =>
      cases read
      rfl

/-- The class of a type that was read was read from a word. -/
theorem exists_word_of_readType {bound : Nat} {tokens rest : List Token} {name : ClassName}
    {arguments : List TypeName}
    (read : readType bound tokens = some (declared name arguments, rest)) :
    ∃ word, ClassName.ofDotted? word = some name := by
  rw [readType.eq_def] at read
  split at read
  · cases read
  · -- a wildcard is no class, whatever its bound
    split at read
    · split at read <;> cases read
    · cases read
  · cases eq_of_readBrackets read
  · rename_i word rest
    split at read
    · rename_i class_ ofWord
      split at read
      · cases eq_of_readBrackets read
        obtain ⟨type, readWord, plainType⟩ := Option.bind_eq_some_iff.mp ofWord
        rw [plainClass?_eq_some_iff] at plainType
        rw [plainType] at readWord
        exact ⟨word, ofDotted?_of_ofWord? readWord⟩
      · cases read
    · obtain ⟨type, readWord, same⟩ := Option.map_eq_some_iff.mp read
      cases same
      exact ⟨word, ofDotted?_of_ofWord? readWord⟩
  · rename_i word rest _
    obtain ⟨type, readWord, brackets⟩ := Option.bind_eq_some_iff.mp read
    rw [eq_of_readBrackets brackets] at readWord
    exact ⟨word, ofDotted?_of_ofWord? readWord⟩
  · cases read

/-- **A class that is named can be written by its qualified name.** -/
theorem ofDotted?_of_classNamed? {text : String} {name : ClassName}
    (named : classNamed? text = some name) :
    ClassName.ofDotted? name.qualified = some name := by
  rw [classNamed?_eq_some_iff, ofText?] at named
  split at named
  · rename_i type read
    cases named
    obtain ⟨word, readWord⟩ := exists_word_of_readType read
    exact ClassName.ofDotted?_qualified readWord
  · cases named

end Delegation.Java.TypeName
