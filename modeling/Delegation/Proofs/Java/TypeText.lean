import Delegation.Java.TypeName.Reader
import Delegation.Proofs.Java.GeneratedName

/-!
# Reading types back

A type is written with a name for each of its classes.  If the names are single words that read as
classes, the text reads as the type in which each class has become the one its name reads as.  So
types with the same text have one shape, and where they differ stand classes with the same name.

## Main Definitions

* `TypeName.Regular` — brackets stand only where they belong to the array they make.
* `TypeName.rename` — change the classes of a type.
* `TypeName.tokens` — the tokens of the text of a type.
* `TypeName.Reads` — the name of a class is a word that reads as a class.
* `TypeName.Readable` — the text of a type with qualified names reads as the type.

## Main Statements

* `TypeName.Regular.scan_write` — the tokens of a text that is written.
* `TypeName.Regular.ofText?_write` — the text of a type reads as the type, renamed.
* `TypeName.Readable.ofText?_text` — the canonical text of a readable type reads as the type.
* `TypeName.Regular.eq_of_rename_eq` — types that are the same after renaming differ at most in
  their classes.
-/

namespace Delegation.Java

open Text

/-! ## Scanning -/

namespace Token

/-- A character that is in no word separates what is before it from what is behind it. -/
theorem scan_append_cons (before rest : List Char) {sign : Char} (sep : isWordPart sign = false) :
    scan (before ++ sign :: rest) = scan before ++ (scan [sign] ++ scan rest) := by
  have left : runs (before ++ sign :: rest) = runs before ++ runs (sign :: rest) := by
    refine List.splitBy_append_cons rest fun c _ => ?_
    rw [sep, Bool.and_false]
  have right : runs ([sign] ++ rest) = runs [sign] ++ runs rest := by
    refine List.splitBy_append fun c last d _ => ?_
    obtain rfl : sign = c := Option.some.inj last
    rw [sep, Bool.false_and]
  rw [scan, left, ← List.singleton_append, right, List.filterMap_append, List.filterMap_append]
  rfl

/-- Texts that are joined by commas are scanned one by one. -/
theorem scan_intercalate (parts : List String) :
    scan (", ".intercalate parts).toList =
      [comma].intercalate (parts.map fun part => scan part.toList) := by
  rw [String.toList_intercalate]
  induction parts with
  | nil => rfl
  | cons first rest ih =>
      cases rest with
      | nil =>
          rw [List.map_cons, List.map_nil, List.intercalate_singleton, List.map_cons, List.map_nil,
            List.intercalate_singleton]
      | cons second others =>
          rw [List.map_cons, List.map_cons] at ih
          rw [List.map_cons, List.map_cons, List.intercalate_cons_cons, List.map_cons,
            List.map_cons, List.intercalate_cons_cons, ← ih, List.append_assoc, List.append_assoc]
          generalize List.intercalate _ _ = tail
          have comma_ : scan [','] = [comma] := by decide
          have blank : scan [' '] = [] := by decide
          show scan (first.toList ++ ',' :: ([] ++ ' ' :: tail)) = _
          rw [scan_append_cons _ _ (by decide), scan_append_cons [] _ (by decide), comma_, blank]
          rfl

/-- A run that starts with a character of a word has no others. -/
theorem isWordPart_of_isChain {first : Char} {rest : List Char} (part : isWordPart first = true)
    (chain : (first :: rest).IsChain fun c d => isWordPart c && isWordPart d) :
    ∀ c ∈ first :: rest, isWordPart c = true := by
  induction rest generalizing first with
  | nil => exact List.forall_mem_singleton.mpr part
  | cons second others ih =>
      obtain ⟨both, tail⟩ := List.isChain_cons_cons.mp chain
      rw [Bool.and_eq_true] at both
      exact List.forall_mem_cons.mpr ⟨part, ih both.2 tail⟩

/-- A word that was scanned has characters of words only. -/
theorem parts_of_mem_scan {text : List Char} {name : String} (mem : word name ∈ scan text) :
    name ≠ "" ∧ ∀ c ∈ name.toList, isWordPart c = true := by
  obtain ⟨run, listed, made⟩ := List.mem_filterMap.mp mem
  have chain := List.isChain_of_mem_splitBy listed
  cases run with
  | nil => cases made
  | cons first rest =>
      rw [ofRun?] at made
      split at made
      · rename_i part
        obtain rfl := word.inj (Option.some.inj made)
        rw [String.toList_ofList]
        exact ⟨by simp, isWordPart_of_isChain part chain⟩
      · split at made
        · cases made
        · have sign := Option.some.inj made
          unfold ofSign at sign
          split at sign <;> cases sign

end Token

namespace TypeName

/-! ## Shape -/

/-- Whether brackets after the text of a type make an array of it. -/
def takesBrackets : TypeName → Bool
  | void | bounded .. => false
  | _ => true

/-- Brackets stand only behind types that take them. -/
inductive Regular : TypeName → Prop
  | void : Regular void
  | primitive (type : Primitive) : Regular (primitive type)
  | wildcard : Regular wildcard
  | declared (class_ : ClassName) {arguments : List TypeName}
    (all : ∀ argument ∈ arguments, Regular argument) : Regular (declared class_ arguments)
  | array {component : TypeName} (regular : Regular component)
    (takes : component.takesBrackets = true) : Regular (array component)
  | bounded (bound : Bound) {type : TypeName} (regular : Regular type) :
    Regular (bounded bound type)

/-- The classes of an argument are classes of the type. -/
theorem mem_classes_declared (class_ : ClassName) {argument : TypeName} {arguments : List TypeName}
    (mem : argument ∈ arguments) {inside : ClassName} (listed : inside ∈ argument.classes) :
    inside ∈ (declared class_ arguments).classes := by
  rw [classes, classesAll_eq_flatMap]
  exact List.mem_cons_of_mem _ (List.mem_flatMap.mpr ⟨argument, mem, listed⟩)

mutual

/-- Change the classes of a type. -/
def rename (f : ClassName → ClassName) : TypeName → TypeName
  | void => void
  | primitive type => primitive type
  | declared class_ arguments => declared (f class_) (renameAll f arguments)
  | array component => array (rename f component)
  | wildcard => wildcard
  | bounded bound type => bounded bound (rename f type)

/-- Change the classes of several types. -/
def renameAll (f : ClassName → ClassName) : List TypeName → List TypeName
  | [] => []
  | type :: types => rename f type :: renameAll f types

end

theorem renameAll_eq_map (f : ClassName → ClassName) (types : List TypeName) :
    renameAll f types = types.map (rename f) := by
  induction types <;> simp_all [renameAll]

theorem takesBrackets_rename (f : ClassName → ClassName) (type : TypeName) :
    (type.rename f).takesBrackets = type.takesBrackets := by
  cases type <;> rfl

/-- To rename no class changes nothing. -/
theorem Regular.rename_id {type : TypeName} (regular : type.Regular) : type.rename id = type := by
  induction regular with
  | void | primitive | wildcard => rfl
  | declared class_ _ ih =>
      rw [rename, renameAll_eq_map, List.map_congr_left ih, List.map_id']
      rfl
  | array _ _ ih => rw [rename, ih]
  | bounded bound _ ih => rw [rename, ih]

mutual

/-- The tokens of the text of a type. -/
def tokens (nameOf : ClassName → String) : TypeName → List Token
  | void => [.word "void"]
  | primitive type => [.word type.keyword]
  | declared class_ [] => [.word (nameOf class_)]
  | declared class_ (first :: rest) =>
    .word (nameOf class_) :: .less ::
      ([.comma].intercalate (tokens nameOf first :: tokensAll nameOf rest) ++ [.greater])
  | array component => tokens nameOf component ++ [.openBracket, .closeBracket]
  | wildcard => [.question]
  | bounded bound type => .question :: .word bound.keyword :: tokens nameOf type

/-- The tokens of the texts of several types. -/
def tokensAll (nameOf : ClassName → String) : List TypeName → List (List Token)
  | [] => []
  | type :: types => tokens nameOf type :: tokensAll nameOf types

end

theorem tokensAll_eq_map (nameOf : ClassName → String) (types : List TypeName) :
    tokensAll nameOf types = types.map (tokens nameOf) := by
  induction types <;> simp_all [tokensAll]

/-- The name of a class is a word that reads as a class. -/
structure Reads (nameOf : ClassName → String) (f : ClassName → ClassName) (class_ : ClassName) :
    Prop where
  nonempty : nameOf class_ ≠ ""
  parts : ∀ c ∈ (nameOf class_).toList, isWordPart c = true
  reads : ofWord? (nameOf class_) = some (plain (f class_))

variable {nameOf : ClassName → String} {f : ClassName → ClassName} {type : TypeName}

/-! ## Tokens of types -/

/-- **The tokens of a text that is written.** -/
theorem Regular.scan_write (regular : type.Regular)
    (reads : ∀ class_ ∈ type.classes, Reads nameOf f class_) :
    Token.scan (type.write nameOf).toList = type.tokens nameOf := by
  induction regular with
  | void =>
      show Token.scan "void".toList = [.word "void"]
      decide
  | primitive type =>
      show Token.scan type.keyword.toList = [.word type.keyword]
      cases type <;> decide
  | wildcard =>
      show Token.scan "?".toList = [.question]
      decide
  | @declared class_ arguments _ ih =>
      have name := reads class_ List.mem_cons_self
      have word := Token.scan_word name.nonempty name.parts
      cases arguments with
      | nil => exact word
      | cons first rest =>
          have each : ∀ argument ∈ first :: rest,
              Token.scan (argument.write nameOf).toList = argument.tokens nameOf :=
            fun argument mem => ih argument mem fun inside listed =>
              reads inside (mem_classes_declared class_ mem listed)
          have arguments : Token.scan
              (", ".intercalate ((first :: rest).map (write nameOf))).toList =
              [.comma].intercalate ((first :: rest).map (tokens nameOf)) := by
            rw [Token.scan_intercalate, List.map_map]
            exact congrArg _ (List.map_congr_left each)
          have signs : Token.scan ['<'] = [.less] ∧ Token.scan ['>'] = [.greater] := by decide
          rw [write, tokens, writeAll_eq_map, tokensAll_eq_map, ← List.map_cons, ← List.map_cons,
            ← arguments]
          generalize ", ".intercalate _ = text
          have text_ : (nameOf class_ ++ "<" ++ text ++ ">").toList =
              (nameOf class_).toList ++ '<' :: (text.toList ++ ['>']) := by
            simp
          rw [text_, Token.scan_append_cons _ _ (by decide), Token.scan_append_cons _ _ (by decide),
            word, signs.1, signs.2]
          rfl
  | @array component _ _ ih =>
      have brackets : Token.scan ['['] = [.openBracket] ∧ Token.scan [']'] = [.closeBracket] := by
        decide
      rw [write, tokens, ← ih reads, String.toList_append]
      show Token.scan (_ ++ '[' :: [']']) = _
      rw [Token.scan_append_cons _ _ (by decide), brackets.1, brackets.2]
      rfl
  | @bounded bound type _ ih =>
      have word : Token.scan bound.keyword.toList = [.word bound.keyword] := by
        cases bound <;> decide
      have question : Token.scan ['?'] = [.question] := by decide
      have blank : Token.scan [' '] = [] := by decide
      have text : (write nameOf (TypeName.bounded bound type)).toList =
          [] ++ '?' :: ([] ++ ' ' :: (bound.keyword.toList ++ ' ' :: (write nameOf type).toList)) := by
        rw [write, String.toList_append, String.toList_append, String.toList_append]
        simp
      rw [text, Token.scan_append_cons _ _ (by decide), Token.scan_append_cons _ _ (by decide),
        Token.scan_append_cons _ _ (by decide), question, blank, word, ih reads, tokens]
      rfl

/-! ## Reading tokens -/

/-- Pairs of brackets. -/
def brackets (count : Nat) : List Token :=
  (List.replicate count [.openBracket, .closeBracket]).flatten

/-- Arrays of arrays. -/
def arrays : Nat → TypeName → TypeName
  | 0, type => type
  | count + 1, type => arrays count (array type)

/-- A type ends where the text does, or the next argument or the end of the arguments is. -/
def Ends (rest : List Token) : Prop :=
  rest = [] ∨ ∃ more, rest = .comma :: more ∨ rest = .greater :: more

/-- Pairs of brackets are read as arrays. -/
theorem readBrackets_brackets {count : Nat} {rest : List Token}
    (takes : count = 0 ∨ type.takesBrackets = true) (ends : Ends rest) :
    readBrackets type (brackets count ++ rest) = some (arrays count type, rest) := by
  induction count generalizing type with
  | zero => rcases ends with rfl | ⟨more, rfl | rfl⟩ <;> rfl
  | succ count ih =>
      have takes := takes.resolve_left (Nat.succ_ne_zero count)
      have notVoid : type.isVoid ≠ true := by
        cases type <;> first | exact Bool.false_ne_true | cases takes
      have step : brackets (count + 1) ++ rest =
          .openBracket :: .closeBracket :: (brackets count ++ rest) := rfl
      rw [step, readBrackets, if_neg notVoid, ih (.inr rfl)]
      rfl

/-- A word without type arguments. -/
theorem readType_word {bound : Nat} {word : String} {rest : List Token}
    (plain : ∀ more, rest ≠ .less :: more) :
    readType (bound + 1) (.word word :: rest) =
      (ofWord? word).bind fun type => readBrackets type rest := by
  rw [readType]
  exact fun more same => plain more same

/-- A question mark without a bound. -/
theorem readType_question {bound : Nat} {rest : List Token}
    (free : ∀ word more, rest ≠ .word word :: more) :
    readType (bound + 1) (.question :: rest) = readBrackets wildcard rest := by
  rw [readType]
  exact fun word more same => free word more same

theorem ne_of_brackets {count : Nat} {rest : List Token} (ends : Ends rest) :
    (∀ more, brackets count ++ rest ≠ .less :: more) ∧
      ∀ word more, brackets count ++ rest ≠ .word word :: more := by
  cases count with
  | zero => rcases ends with rfl | ⟨more, rfl | rfl⟩ <;> exact ⟨nofun, nofun⟩
  | succ count => exact ⟨nofun, nofun⟩

/-- A word that is a type, with brackets behind it. -/
theorem readType_word_brackets {bound count : Nat} {word : String} {rest : List Token}
    (read : ofWord? word = some type) (takes : count = 0 ∨ type.takesBrackets = true)
    (ends : Ends rest) : readType (bound + 1) (.word word :: (brackets count ++ rest)) =
      some (arrays count type, rest) := by
  rw [readType_word (ne_of_brackets ends).1, read, Option.bind_some,
    readBrackets_brackets takes ends]

/-- The tokens of a type read as the type, renamed, also if brackets make arrays of it. -/
def ReadsBack (nameOf : ClassName → String) (f : ClassName → ClassName) (type : TypeName) : Prop :=
  ∀ bound count rest, (type.tokens nameOf).length ≤ bound →
    (count = 0 ∨ type.takesBrackets = true) → Ends rest →
    readType bound (type.tokens nameOf ++ (brackets count ++ rest)) =
      some (arrays count (type.rename f), rest)

/-- Arguments are read one by one. -/
theorem readArguments_tokens {first : TypeName} {others : List TypeName}
    (each : ∀ argument ∈ first :: others, ReadsBack nameOf f argument) {bound : Nat}
    (enough : ([Token.comma].intercalate ((first :: others).map (tokens nameOf))).length < bound)
    (rest : List Token) :
    readArguments bound ([Token.comma].intercalate ((first :: others).map (tokens nameOf)) ++
      .greater :: rest) = some ((first :: others).map (rename f), rest) := by
  induction others generalizing first bound with
  | nil =>
      cases bound with
      | zero => exact absurd enough (Nat.not_lt_zero _)
      | succ bound =>
          rw [List.map_singleton, List.intercalate_singleton] at enough ⊢
          have read := each first List.mem_cons_self bound 0 (.greater :: rest)
            (Nat.le_of_lt_succ enough) (.inl rfl) (.inr ⟨rest, .inr rfl⟩)
          rw [brackets, List.replicate_zero, List.flatten_nil, List.nil_append, arrays] at read
          rw [readArguments, read]
          rfl
  | cons second others ih =>
      cases bound with
      | zero => exact absurd enough (Nat.not_lt_zero _)
      | succ bound =>
          rw [List.map_cons, List.map_cons, List.intercalate_cons_cons] at enough ⊢
          rw [← List.map_cons] at enough ⊢
          rw [List.length_append, List.length_append, List.length_singleton] at enough
          have read := each first List.mem_cons_self bound 0 (.comma ::
            ([Token.comma].intercalate ((second :: others).map (tokens nameOf)) ++
              .greater :: rest)) (by omega) (.inl rfl) (.inr ⟨_, .inl rfl⟩)
          rw [brackets, List.replicate_zero, List.flatten_nil, List.nil_append, arrays] at read
          rw [List.append_assoc, List.append_assoc, List.singleton_append, readArguments, read]
          simp only
          rw [ih (fun argument mem => each argument (List.mem_cons_of_mem _ mem)) (by omega)]
          rfl

/-- A single word reads back as the type it stands for. -/
theorem readsBack_of_word {word : String} (single : type.tokens nameOf = [.word word])
    (read : ofWord? word = some (type.rename f)) : ReadsBack nameOf f type := by
  rintro (_ | bound) count rest enough takes ends
  · rw [single] at enough
    exact absurd enough (Nat.not_succ_le_zero 0)
  · rw [single, List.singleton_append]
    exact readType_word_brackets read (takesBrackets_rename f type ▸ takes) ends

/-- **The tokens of a type read as the type, renamed.** -/
theorem Regular.readsBack (regular : type.Regular)
    (reads : ∀ class_ ∈ type.classes, Reads nameOf f class_) : ReadsBack nameOf f type := by
  induction regular with
  | void => exact readsBack_of_word rfl rfl
  | primitive type => exact readsBack_of_word rfl (by cases type <;> rfl)
  | wildcard =>
      rintro (_ | bound) count rest enough takes ends
      · exact absurd enough (Nat.not_succ_le_zero 0)
      · show readType (bound + 1) (.question :: (brackets count ++ rest)) = _
        rw [readType_question (ne_of_brackets ends).2, readBrackets_brackets takes ends]
        rfl
  | @declared class_ arguments _ ih =>
      have name := (reads class_ List.mem_cons_self).reads
      cases arguments with
      | nil => exact readsBack_of_word rfl name
      | cons first others =>
          have each : ∀ argument ∈ first :: others, ReadsBack nameOf f argument :=
            fun argument mem => ih argument mem fun inside listed =>
              reads inside (mem_classes_declared class_ mem listed)
          intro bound count rest enough takes ends
          rw [tokens, tokensAll_eq_map, ← List.map_cons] at enough ⊢
          rw [List.length_cons, List.length_cons, List.length_append, List.length_singleton]
            at enough
          obtain ⟨bound, rfl⟩ := Nat.exists_eq_succ_of_ne_zero (show bound ≠ 0 by omega)
          have class_' : classOfWord? (nameOf class_) = some (f class_) := by
            rw [classOfWord?, name]
            rfl
          rw [List.cons_append, List.cons_append, List.append_assoc, List.singleton_append,
            readType, class_']
          simp only
          rw [readArguments_tokens each (by omega)]
          simp only
          rw [readBrackets_brackets (takes.imp_right fun _ => rfl) ends, rename,
            renameAll_eq_map]
  | @array component _ takesInside ih =>
      intro bound count rest enough takes ends
      rw [tokens, List.length_append] at enough
      have read := ih reads bound (count + 1) rest (by omega) (.inr takesInside) ends
      rw [tokens, rename, List.append_assoc]
      exact read
  | @bounded bound type _ ih =>
      intro steps count rest enough takes ends
      obtain rfl := takes.resolve_right Bool.false_ne_true
      rw [tokens, List.length_cons, List.length_cons] at enough
      obtain ⟨steps, rfl⟩ := Nat.exists_eq_succ_of_ne_zero (show steps ≠ 0 by omega)
      rw [tokens, List.cons_append, List.cons_append, readType, Bound.ofKeyword?_keyword]
      simp only
      rw [ih reads steps 0 rest (by omega) (.inl rfl) ends]
      rfl

/-- **The text of a type reads as the type, renamed.** -/
theorem Regular.ofText?_write (regular : type.Regular)
    (reads : ∀ class_ ∈ type.classes, Reads nameOf f class_) :
    ofText? (type.write nameOf) = some (type.rename f) := by
  have read := regular.readsBack reads _ 0 [] (Nat.le_succ _) (.inl rfl) (.inl rfl)
  rw [brackets, List.replicate_zero, List.flatten_nil, List.nil_append, List.append_nil, arrays]
    at read
  simp only [ofText?, regular.scan_write reads, Nat.succ_eq_add_one] at read ⊢
  rw [read]

/-! ## Readable types -/

/-- Names of classes, written with their packages, read as the classes. -/
def Readable (type : TypeName) : Prop :=
  type.Regular ∧ ∀ class_ ∈ type.classes, Reads ClassName.qualified id class_

/-- **The canonical text of a readable type reads as the type.** -/
theorem Readable.ofText?_text (readable : type.Readable) : ofText? type.text = some type := by
  have read := readable.1.ofText?_write readable.2
  rwa [readable.1.rename_id] at read

/-! ## Types that are renamed alike -/

/-- Lists with the same images are the same if their elements are. -/
theorem eq_of_map_eq {α β : Type} {g : α → β} {first second : List α}
    (same : first.map g = second.map g)
    (injective : ∀ a ∈ first, ∀ b ∈ second, g a = g b → a = b) : first = second := by
  induction first generalizing second with
  | nil => exact (List.map_eq_nil_iff.mp same.symm).symm
  | cons a first ih =>
      cases second with
      | nil => cases same
      | cons b second =>
          obtain ⟨head, tail⟩ := List.cons.inj same
          rw [injective a List.mem_cons_self b List.mem_cons_self head, ih tail fun a mem b mem' =>
            injective a (List.mem_cons_of_mem _ mem) b (List.mem_cons_of_mem _ mem')]

/-- **Types that are the same after renaming are the same if their classes are.** -/
theorem Regular.eq_of_rename_eq (regular : type.Regular) {other : TypeName}
    (same : type.rename f = other.rename f)
    (injective : ∀ a ∈ type.classes, ∀ b ∈ other.classes, f a = f b → a = b) : type = other := by
  induction regular generalizing other with
  | void => cases other <;> first | rfl | cases same
  | primitive type =>
      cases other with
      | primitive type' => exact congrArg _ (primitive.inj same)
      | _ => cases same
  | wildcard => cases other <;> first | rfl | cases same
  | @declared class_ arguments _ ih =>
      cases other with
      | declared class_' arguments' =>
          obtain ⟨head, tail⟩ := declared.inj same
          rw [renameAll_eq_map, renameAll_eq_map] at tail
          rw [injective class_ List.mem_cons_self class_' List.mem_cons_self head]
          congr 1
          refine eq_of_map_eq tail fun a mem b mem' renamed => ih a mem renamed ?_
          exact fun inside listed inside' listed' => injective
            inside (mem_classes_declared class_ mem listed)
            inside' (mem_classes_declared class_' mem' listed')
      | _ => cases same
  | @array component _ _ ih =>
      cases other with
      | array component' => rw [ih (array.inj same) injective]
      | _ => cases same
  | @bounded bound type _ ih =>
      cases other with
      | bounded bound' type' =>
          obtain ⟨rfl, inside⟩ := bounded.inj same
          rw [ih inside injective]
      | _ => cases same

end TypeName

end Delegation.Java
