import Delegation.Proofs.Java.TypeName
import Delegation.Proofs.Java.TypeText
import Delegation.Snapshot.Conversion

/-!
# The grammar of types

A text is cut into tokens, and the tokens are derived as a type.  Both are relations here, stated
without the reader: white space may stand anywhere between tokens and a word ends only where it has
to; a derivation has one rule for each form of type.  The reader finds a derivation whenever there is
one, and only then; so what it reads is the tree of the derivation.

Brackets are a rule of their own.  It asks that the type before them takes brackets: `void` takes
none, and those behind a bounded wildcard are part of its bound.

The reader recurses on a bound.  `tryType` does the same and says when the bound was used up, which
never happens if the bound is greater than the number of tokens.

## Main Definitions

* `Token.Cut` — a text consists of tokens.
* `TypeName.Derives` — tokens are derived as a type.
* `TypeName.tryType`, `TypeName.tryArguments` — the reader that says when its bound was used up.

## Main Statements

* `Token.cut_iff` — the scanner cuts a text in the only way.
* `TypeName.derives_of_readType` — what is read was derived from the tokens used.
* `TypeName.Derives.readType` — what is derived is read.
* `TypeName.tryType_eq` — a bound above the number of tokens is never used up.
* `TypeName.readable_of_ofText?` — a type that was read is readable.
* `Conversion.typeName_follows_grammar` — which texts read as which types, and what the others are
  told.
-/

namespace Delegation

namespace Java

open Text

/-! ## Cutting a text -/

namespace Token

/-- A text consists of words, single signs and white space.  A word goes on as long as there are
characters of words. -/
inductive Cut : List Char → List Token → Prop
  | nil : Cut [] []
  | blank {c : Char} {rest : List Char} {tokens : List Token} (blank : isBlank c = true)
    (cut : Cut rest tokens) : Cut (c :: rest) tokens
  | sign {c : Char} {rest : List Char} {tokens : List Token} (sep : isWordPart c = false)
    (full : isBlank c = false) (cut : Cut rest tokens) : Cut (c :: rest) (ofSign c :: tokens)
  | word {run rest : List Char} {tokens : List Token} (nonempty : run ≠ [])
    (parts : ∀ c ∈ run, isWordPart c = true) (ends : ∀ c ∈ rest.head?, isWordPart c = false)
    (cut : Cut rest tokens) : Cut (run ++ rest) (.word (String.ofList run) :: tokens)

/-- White space belongs to no token. -/
theorem scan_blank {c : Char} (rest : List Char) (blank : isBlank c = true) :
    scan (c :: rest) = scan rest := by
  have sep : isWordPart c = false := by
    by_contra part
    rw [isBlank_eq_false_of_isWordPart (Bool.not_eq_false _ ▸ part)] at blank
    cases blank
  have alone : scan [c] = [] := by
    show [[c]].filterMap ofRun? = []
    rw [List.filterMap_cons, ofRun?, sep, blank]
    rfl
  have cut := scan_append_cons [] rest sep
  rwa [alone] at cut

/-- A sign is a token. -/
theorem scan_sign {c : Char} (rest : List Char) (sep : isWordPart c = false)
    (full : isBlank c = false) : scan (c :: rest) = ofSign c :: scan rest := by
  have alone : scan [c] = [ofSign c] := by
    show [[c]].filterMap ofRun? = [ofSign c]
    rw [List.filterMap_cons, ofRun?, sep, full]
    rfl
  have cut := scan_append_cons [] rest sep
  rwa [alone] at cut

/-- A run of characters of words is a token if it is maximal. -/
theorem scan_run {run rest : List Char} (nonempty : run ≠ [])
    (parts : ∀ c ∈ run, isWordPart c = true) (ends : ∀ c ∈ rest.head?, isWordPart c = false) :
    scan (run ++ rest) = .word (String.ofList run) :: scan rest := by
  have alone : scan run = [.word (String.ofList run)] := by
    have full : String.ofList run ≠ "" := by simpa using nonempty
    have read := scan_word full (by rwa [String.toList_ofList])
    rwa [String.toList_ofList] at read
  cases rest with
  | nil => rw [List.append_nil, alone, scan_nil]
  | cons c rest =>
      have sep : isWordPart c = false := ends c rfl
      have behind : scan (c :: rest) = scan [c] ++ scan rest := scan_append_cons [] rest sep
      rw [scan_append_cons run rest sep, alone, behind]
      rfl

/-- Every text consists of its tokens. -/
theorem cut_scan (text : List Char) : Cut text (scan text) := by
  induction size : text.length using Nat.strong_induction_on generalizing text with
  | _ size ih =>
      subst size
      cases text with
      | nil => exact .nil
      | cons c rest =>
          by_cases blank : isBlank c = true
          · rw [scan_blank rest blank]
            exact .blank blank (ih _ (Nat.lt_succ_self _) rest rfl)
          · rw [Bool.not_eq_true] at blank
            by_cases part : isWordPart c = true
            · -- the word is the longest run that starts here
              have split : (c :: rest).takeWhile isWordPart ++ (c :: rest).dropWhile isWordPart =
                  c :: rest := List.takeWhile_append_dropWhile
              have nonempty : (c :: rest).takeWhile isWordPart ≠ [] := by
                rw [List.takeWhile_cons_of_pos part]
                exact List.cons_ne_nil _ _
              have parts : ∀ d ∈ (c :: rest).takeWhile isWordPart, isWordPart d = true :=
                fun d mem => List.mem_takeWhile_imp mem
              have ends : ∀ d ∈ ((c :: rest).dropWhile isWordPart).head?, isWordPart d = false := by
                intro d first
                have stop := List.head?_dropWhile_not isWordPart (c :: rest)
                rw [Option.mem_def.mp first] at stop
                simpa using stop
              have shorter : ((c :: rest).dropWhile isWordPart).length < (c :: rest).length := by
                rw [List.dropWhile_cons_of_pos part]
                exact Nat.lt_succ_of_le (List.dropWhile_sublist _).length_le
              rw [← split, scan_run nonempty parts ends]
              exact .word nonempty parts ends (ih _ shorter _ rfl)
            · rw [Bool.not_eq_true] at part
              rw [scan_sign rest part blank]
              exact .sign part blank (ih _ (Nat.lt_succ_self _) rest rfl)

/-- **The scanner cuts a text in the only way.** -/
theorem cut_iff {text : List Char} {tokens : List Token} :
    Cut text tokens ↔ scan text = tokens := by
  refine ⟨fun cut => ?_, fun same => same ▸ cut_scan text⟩
  induction cut with
  | nil => rfl
  | blank blank _ ih => rw [scan_blank _ blank, ih]
  | sign sep full _ ih => rw [scan_sign _ sep full, ih]
  | word nonempty parts ends _ ih => rw [scan_run nonempty parts ends, ih]

end Token

/-! ## Words -/

/-- The class that a word stands for: the parts before the first one that is spelled like a class are
its package, and if there is no such part, all but the last one are. -/
def ClassName.ofWord (word : String) : ClassName :=
  let (package, chain) := splitChain ((word.toList.splitOn '.').map String.ofList)
  ⟨dotted package, chain.headD "", chain.tail⟩

/-- Some segment is in the chain. -/
theorem ClassName.splitChain_ne_nil {segments : List String} (nonempty : segments ≠ []) :
    (splitChain segments).2 ≠ [] := by
  unfold splitChain
  split
  · rw [List.getLast?_eq_some_getLast nonempty]
    exact List.cons_ne_nil _ _
  · rename_i some_
    exact fun none => some_ none

/-- A word reads as the class that it stands for if none of its parts is empty. -/
theorem ClassName.ofDotted?_word {word : String}
    (parts : ∀ c ∈ word.toList, isWordPart c = true) {class_ : ClassName} :
    ofDotted? word = some class_ ↔
      (∀ part ∈ word.toList.splitOn '.', part ≠ []) ∧ class_ = ofWord word := by
  have empty : ((word.toList.splitOn '.').map String.ofList).any String.isEmpty = true ↔
      ¬∀ part ∈ word.toList.splitOn '.', part ≠ [] := by
    simp
  have some_ : (word.toList.splitOn '.').map String.ofList ≠ [] := by
    simp [List.splitOn_ne_nil]
  simp only [ofDotted?, ofWord, trim_of_isWordPart parts]
  by_cases full : ∀ part ∈ word.toList.splitOn '.', part ≠ []
  · have kept := mt empty.mp (not_not.mpr full)
    rw [if_neg kept]
    generalize (word.toList.splitOn '.').map String.ofList = segments at kept some_
    have whole := splitChain_append segments
    cases chain : (splitChain segments).2 with
    | nil => exact absurd chain (splitChain_ne_nil some_)
    | cons outermost nested =>
        have chainKept : ¬(outermost :: nested).any String.isEmpty = true := by
          rw [← whole, chain, List.any_append, Bool.or_eq_true, not_or] at kept
          exact kept.2
        rw [ofParts?, if_neg chainKept, Option.some_inj]
        exact ⟨fun same => ⟨full, same.symm⟩, fun both => both.2.symm⟩
  · rw [if_pos (empty.mpr full)]
    exact iff_of_false (Option.some_ne_none _).symm fun both => full both.1

namespace TypeName

/-- A word stands for a class if it is no keyword of a type and none of the parts that its dots
separate is empty. -/
structure NamesClass (word : String) : Prop where
  notVoid : word ≠ "void"
  notPrimitive : ∀ type : Primitive, word ≠ type.keyword
  full : ∀ part ∈ word.toList.splitOn '.', part ≠ []

/-- What a word without type arguments reads as. -/
theorem ofWord?_eq_some_iff {word : String} (parts : ∀ c ∈ word.toList, isWordPart c = true)
    {type : TypeName} :
    ofWord? word = some type ↔ (word = "void" ∧ type = void) ∨
      (∃ keyword : Primitive, word = keyword.keyword ∧ type = primitive keyword) ∨
      (NamesClass word ∧ type = plain (ClassName.ofWord word)) := by
  constructor
  · intro read
    unfold ofWord? at read
    split at read
    · cases read
      exact .inl ⟨‹_›, rfl⟩
    · rename_i notVoid
      split at read
      · rename_i keyword found
        cases read
        exact .inr (.inl ⟨keyword, (Primitive.keyword_of_ofKeyword? found).symm, rfl⟩)
      · rename_i none
        obtain ⟨class_, named, rfl⟩ := Option.map_eq_some_iff.mp read
        obtain ⟨full, rfl⟩ := (ClassName.ofDotted?_word parts).mp named
        refine .inr (.inr ⟨⟨notVoid, ?_, full⟩, rfl⟩)
        rintro keyword rfl
        rw [Primitive.ofKeyword?_keyword] at none
        cases none
  · rintro (⟨rfl, rfl⟩ | ⟨keyword, rfl, rfl⟩ | ⟨names, rfl⟩)
    · rfl
    · cases keyword <;> rfl
    · have notPrimitive : Primitive.ofKeyword? word = none := by
        cases found : Primitive.ofKeyword? word with
        | none => rfl
        | some keyword =>
            exact absurd (Primitive.keyword_of_ofKeyword? found).symm (names.notPrimitive keyword)
      rw [ofWord?, if_neg names.notVoid, notPrimitive,
        (ClassName.ofDotted?_word parts).mpr ⟨names.full, rfl⟩]
      rfl

/-- What a word in front of type arguments reads as. -/
theorem classOfWord?_eq_some_iff {word : String} (parts : ∀ c ∈ word.toList, isWordPart c = true)
    {class_ : ClassName} :
    classOfWord? word = some class_ ↔ NamesClass word ∧ class_ = ClassName.ofWord word := by
  have made : classOfWord? word = some class_ ↔ ofWord? word = some (plain class_) := by
    simp only [classOfWord?, Option.bind_eq_some_iff, plainClass?_eq_some_iff, exists_eq_right]
  rw [made, ofWord?_eq_some_iff parts]
  constructor
  · rintro (⟨-, none⟩ | ⟨_, -, none⟩ | ⟨names, same⟩)
    · cases none
    · cases none
    · exact ⟨names, (declared.inj same).1⟩
  · rintro ⟨names, rfl⟩
    exact .inr (.inr ⟨names, rfl⟩)

/-! ## Derivations -/

/-- Tokens are derived as a type. -/
inductive Derives : List Token → TypeName → Prop
  | void : Derives [.word "void"] void
  | primitive (type : Primitive) : Derives [.word type.keyword] (primitive type)
  | plain {word : String} (names : NamesClass word) :
    Derives [.word word] (plain (ClassName.ofWord word))
  | generic {word : String} (names : NamesClass word) {arguments : List (List Token × TypeName)}
    (some_ : arguments ≠ []) (all : ∀ argument ∈ arguments, Derives argument.1 argument.2) :
    Derives (.word word :: .less :: ([.comma].intercalate (arguments.map Prod.fst) ++ [.greater]))
      (declared (ClassName.ofWord word) (arguments.map Prod.snd))
  | wildcard : Derives [.question] wildcard
  | bounded (bound : Bound) {tokens : List Token} {type : TypeName} (inside : Derives tokens type) :
    Derives (.question :: .word bound.keyword :: tokens) (bounded bound type)
  | array {tokens : List Token} {component : TypeName} (inside : Derives tokens component)
    (takes : component.takesBrackets = true) :
    Derives (tokens ++ [.openBracket, .closeBracket]) (array component)

variable {type : TypeName} {tokens rest : List Token}

/-- A type takes at least one token. -/
theorem Derives.ne_nil (derives : Derives tokens type) : tokens ≠ [] := by
  cases derives <;> simp

/-! ## What is read was derived -/

/-- The words among some tokens have characters of words only. -/
def Worded (tokens : List Token) : Prop :=
  ∀ word, .word word ∈ tokens → word ≠ "" ∧ ∀ c ∈ word.toList, isWordPart c = true

theorem Worded.mono (worded : Worded tokens) (subset : rest ⊆ tokens) : Worded rest :=
  fun word mem => worded word (subset mem)

/-- A word that reads as a type is derived as the type. -/
theorem derives_of_ofWord? {word : String} (parts : ∀ c ∈ word.toList, isWordPart c = true)
    (read : ofWord? word = some type) :
    Derives [.word word] type ∧ (type.takesBrackets = true ∨ type.isVoid = true) := by
  rcases (ofWord?_eq_some_iff parts).mp read with
    ⟨rfl, rfl⟩ | ⟨keyword, rfl, rfl⟩ | ⟨names, rfl⟩
  · exact ⟨.void, .inr rfl⟩
  · exact ⟨.primitive keyword, .inl rfl⟩
  · exact ⟨.plain names, .inl rfl⟩

/-- Brackets that are read belong to the type before them. -/
theorem derives_of_readBrackets {before : List Token} {result : TypeName}
    (derives : Derives before type) (takes : type.takesBrackets = true ∨ type.isVoid = true)
    (read : readBrackets type tokens = some (result, rest)) :
    ∃ used, tokens = used ++ rest ∧ Derives (before ++ used) result := by
  fun_induction readBrackets type tokens generalizing before with
  | case1 => cases read
  | case2 type behind notVoid ih =>
      have array := derives.array (takes.resolve_right notVoid)
      obtain ⟨used, rfl, whole⟩ := ih array (.inl rfl) read
      rw [List.append_assoc] at whole
      exact ⟨_, rfl, whole⟩
  | case3 => cases read
  | case4 type behind =>
      cases read
      refine ⟨[], rfl, ?_⟩
      rwa [List.append_nil]

/-- What is read as a type was derived from the tokens used. -/
def TypesDerived (bound : Nat) : Prop :=
  ∀ tokens rest type, Worded tokens → readType bound tokens = some (type, rest) →
    ∃ used, tokens = used ++ rest ∧ Derives used type

/-- What is read as type arguments was derived from tokens with commas between them. -/
def ArgumentsDerived (bound : Nat) : Prop :=
  ∀ tokens rest types, Worded tokens → readArguments bound tokens = some (types, rest) →
    ∃ arguments : List (List Token × TypeName), arguments ≠ [] ∧
      (∀ argument ∈ arguments, Derives argument.1 argument.2) ∧
      tokens = [.comma].intercalate (arguments.map Prod.fst) ++ .greater :: rest ∧
      types = arguments.map Prod.snd

theorem TypesDerived.succ {bound : Nat} (types : TypesDerived bound)
    (arguments : ArgumentsDerived bound) : TypesDerived (bound + 1) := by
  intro tokens rest type worded read
  rw [readType.eq_def] at read
  split at read
  · cases read
  · -- a question mark and a word, which may be that of a bound
    rename_i word more same
    obtain rfl := Nat.succ.inj same
    split at read
    · rename_i side found
      split at read
      · rename_i inside
        cases read
        obtain ⟨used, rfl, derives⟩ := types _ _ _ (worded.mono (List.subset_append_right [_, _] _)) inside
        rw [← Bound.keyword_of_ofKeyword? found]
        exact ⟨_, rfl, .bounded side derives⟩
      · cases read
    · cases read
      exact ⟨_, rfl, .wildcard⟩
  · obtain ⟨used, rfl, derives⟩ := derives_of_readBrackets .wildcard (.inl rfl) read
    exact ⟨_, rfl, derives⟩
  · -- a word and the start of type arguments
    rename_i word more same
    obtain rfl := Nat.succ.inj same
    have parts := (worded word List.mem_cons_self).2
    split at read
    · rename_i class_ named
      obtain ⟨names, rfl⟩ := (classOfWord?_eq_some_iff parts).mp named
      split at read
      · rename_i inside
        obtain ⟨list, some_, all, rfl, rfl⟩ := arguments _ _ _ (worded.mono (List.subset_append_right [_, _] _)) inside
        obtain ⟨used, rfl, derives⟩ :=
          derives_of_readBrackets (.generic names some_ all) (.inl rfl) read
        exact ⟨_, by simp, derives⟩
      · cases read
    · obtain ⟨_, asWord, made⟩ := Option.map_eq_some_iff.mp read
      cases made
      exact ⟨_, rfl, (derives_of_ofWord? parts asWord).1⟩
  · obtain ⟨_, asWord, brackets⟩ := Option.bind_eq_some_iff.mp read
    obtain ⟨derives, takes⟩ := derives_of_ofWord? (worded _ List.mem_cons_self).2 asWord
    obtain ⟨used, rfl, derives⟩ := derives_of_readBrackets derives takes brackets
    exact ⟨_, rfl, derives⟩
  · cases read

theorem ArgumentsDerived.succ {bound : Nat} (types : TypesDerived bound)
    (arguments : ArgumentsDerived bound) : ArgumentsDerived (bound + 1) := by
  intro tokens rest read worded read
  rw [readArguments.eq_def] at read
  split at read
  · cases read
  · rename_i same
    obtain rfl := Nat.succ.inj same
    split at read
    · rename_i inside
      cases read
      obtain ⟨used, rfl, derives⟩ := types _ _ _ worded inside
      exact ⟨[(used, _)], List.cons_ne_nil _ _, List.forall_mem_singleton.mpr derives, by simp, rfl⟩
    · rename_i inside
      obtain ⟨used, rfl, derives⟩ := types _ _ _ worded inside
      split at read
      · rename_i more
        cases read
        have behind := (worded.mono (List.subset_append_right ..)).mono (List.subset_cons_self ..)
        obtain ⟨list, some_, all, rfl, rfl⟩ := arguments _ _ _ behind more
        refine ⟨(used, _) :: list, List.cons_ne_nil _ _, List.forall_mem_cons.mpr ⟨derives, all⟩,
          ?_, rfl⟩
        rw [List.map_cons, List.intercalate_cons_of_ne_nil (by simpa using some_)]
        simp
      · cases read
    · cases read

theorem derived_of_reader (bound : Nat) : TypesDerived bound ∧ ArgumentsDerived bound := by
  induction bound with
  | zero =>
      constructor
      · intro tokens rest type _ read
        cases read
      · intro tokens rest types _ read
        cases read
  | succ bound ih => exact ⟨ih.1.succ ih.2, .succ ih.1 ih.2⟩

/-- **What is read as a type was derived from the tokens used.** -/
theorem derives_of_readType {bound : Nat} (worded : Worded tokens)
    (read : readType bound tokens = some (type, rest)) :
    ∃ used, tokens = used ++ rest ∧ Derives used type :=
  (derived_of_reader bound).1 tokens rest type worded read

/-! ## What is derived is read -/

/-- The class that a word stands for is written as the word. -/
theorem NamesClass.qualified_ofWord {word : String} (names : NamesClass word)
    (parts : ∀ c ∈ word.toList, isWordPart c = true) : (ClassName.ofWord word).qualified = word := by
  obtain ⟨package, spelled, same⟩ :=
    ClassName.ofDotted?_eq_some_iff.mp ((ClassName.ofDotted?_word parts).mpr ⟨names.full, rfl⟩)
  rw [spelled.qualified, ← String.toList_inj, ← same, trim_of_isWordPart parts]

/-- The name of the class that a word stands for reads as the class. -/
theorem NamesClass.reads {word : String} (names : NamesClass word)
    (worded : word ≠ "" ∧ ∀ c ∈ word.toList, isWordPart c = true) :
    Reads ClassName.qualified id (ClassName.ofWord word) := by
  have same := names.qualified_ofWord worded.2
  constructor
  · rw [same]
    exact worded.1
  · rw [same]
    exact worded.2
  · rw [same]
    exact (ofWord?_eq_some_iff worded.2).mpr (.inr (.inr ⟨names, rfl⟩))

/-- A class with readable arguments is readable if its name is. -/
theorem readable_declared {class_ : ClassName} {arguments : List TypeName}
    (reads : Reads ClassName.qualified id class_) (all : ∀ argument ∈ arguments, argument.Readable) :
    Readable (declared class_ arguments) := by
  refine ⟨.declared class_ fun argument mem => (all argument mem).1, ?_⟩
  rw [classes, classesAll_eq_flatMap, List.forall_mem_cons]
  refine ⟨reads, fun inside mem => ?_⟩
  obtain ⟨argument, listed, mem⟩ := List.mem_flatMap.mp mem
  exact (all argument listed).2 inside mem

/-- A type that is derived is readable, and it is derived from the tokens of its text. -/
theorem Derives.readable (derives : Derives tokens type) (worded : Worded tokens) :
    type.Readable ∧ type.tokens ClassName.qualified = tokens := by
  induction derives with
  | void => exact ⟨⟨.void, nofun⟩, rfl⟩
  | primitive type => exact ⟨⟨.primitive type, nofun⟩, rfl⟩
  | wildcard => exact ⟨⟨.wildcard, nofun⟩, rfl⟩
  | @plain word names =>
      have wordIn := worded word List.mem_cons_self
      refine ⟨readable_declared (names.reads wordIn) nofun, ?_⟩
      rw [TypeName.plain, TypeName.tokens, names.qualified_ofWord wordIn.2]
  | @generic word names arguments some_ _ ih =>
      have wordIn := worded word List.mem_cons_self
      have each : ∀ argument ∈ arguments, argument.2.Readable ∧
          argument.2.tokens ClassName.qualified = argument.1 := by
        intro argument mem
        refine ih argument mem (worded.mono fun token inside => ?_)
        have joined := subset_intercalate [.comma] (List.mem_map_of_mem mem) inside
        exact List.mem_cons_of_mem _ (List.mem_cons_of_mem _ (List.mem_append_left _ joined))
      constructor
      · refine readable_declared (names.reads wordIn) fun type mem => ?_
        obtain ⟨argument, listed, rfl⟩ := List.mem_map.mp mem
        exact (each argument listed).1
      · have texts : (arguments.map Prod.snd).map (TypeName.tokens ClassName.qualified) =
            arguments.map Prod.fst := by
          rw [List.map_map]
          exact List.map_congr_left fun argument mem => (each argument mem).2
        rw [← texts]
        obtain ⟨first, others, rfl⟩ := List.exists_cons_of_ne_nil some_
        rw [List.map_cons, TypeName.tokens, tokensAll_eq_map, names.qualified_ofWord wordIn.2,
          List.map_cons]
  | bounded bound _ ih =>
      obtain ⟨readable, same⟩ := ih (worded.mono (List.subset_append_right [_, _] _))
      rw [TypeName.tokens, same]
      exact ⟨⟨.bounded bound readable.1, readable.2⟩, rfl⟩
  | array _ takes ih =>
      obtain ⟨readable, same⟩ := ih (worded.mono (List.subset_append_left ..))
      rw [TypeName.tokens, same]
      exact ⟨⟨.array readable.1 takes, readable.2⟩, rfl⟩

/-- **What is derived is read**, with no tokens left over. -/
theorem Derives.readType (derives : Derives tokens type) (worded : Worded tokens) {bound : Nat}
    (enough : tokens.length ≤ bound) : readType bound tokens = some (type, []) := by
  obtain ⟨⟨regular, reads⟩, rfl⟩ := derives.readable worded
  have read := regular.readsBack reads bound 0 [] enough (.inl rfl) (.inl rfl)
  rwa [brackets, List.replicate_zero, List.flatten_nil, List.nil_append, List.append_nil, arrays,
    regular.rename_id] at read

/-! ## Whole texts -/

/-- **A text reads as the type that its tokens are derived as.** -/
theorem ofText?_eq_some_iff {text : String} :
    ofText? text = some type ↔ ∃ tokens, Token.Cut text.toList tokens ∧ Derives tokens type := by
  have worded : Worded (Token.scan text.toList) := fun _ => Token.parts_of_mem_scan
  constructor
  · intro read
    rw [ofText?] at read
    split at read
    · rename_i inside
      cases read
      obtain ⟨used, same, derives⟩ := derives_of_readType worded inside
      rw [List.append_nil] at same
      exact ⟨used, Token.cut_iff.mpr same, derives⟩
    · cases read
  · rintro ⟨tokens, cut, derives⟩
    obtain rfl := Token.cut_iff.mp cut
    simp only [ofText?, derives.readType worded (Nat.le_succ _)]

/-- **A type that a text reads as is readable.** -/
theorem readable_of_ofText? {text : String} (read : ofText? text = some type) : type.Readable := by
  obtain ⟨tokens, cut, derives⟩ := ofText?_eq_some_iff.mp read
  obtain rfl := Token.cut_iff.mp cut
  exact (derives.readable fun _ => Token.parts_of_mem_scan).1

/-! ## The bound of the reader -/

mutual

/-- Read as `readType` does, but give no answer if the bound is used up. -/
def tryType : Nat → List Token → Option (Option (TypeName × List Token))
  | 0, _ => none
  | bound + 1, .question :: .word word :: rest =>
    match Bound.ofKeyword? word with
    | some side => (tryType bound rest).map (·.map fun (type, rest) => (bounded side type, rest))
    | none => some (some (wildcard, .word word :: rest))
  | _ + 1, .question :: rest => some (readBrackets wildcard rest)
  | bound + 1, .word word :: .less :: rest =>
    match classOfWord? word with
    | some class_ => (tryArguments bound rest).map
      (·.bind fun (arguments, rest) => readBrackets (declared class_ arguments) rest)
    | none => some ((ofWord? word).map fun type => (type, .less :: rest))
  | _ + 1, .word word :: rest => some ((ofWord? word).bind fun type => readBrackets type rest)
  | _ + 1, _ => some none

/-- Read as `readArguments` does, but give no answer if the bound is used up. -/
def tryArguments : Nat → List Token → Option (Option (List TypeName × List Token))
  | 0, _ => none
  | bound + 1, tokens =>
    match tryType bound tokens with
    | some (some (type, .greater :: rest)) => some (some ([type], rest))
    | some (some (type, .comma :: rest)) =>
      (tryArguments bound rest).map (·.map fun (types, rest) => (type :: types, rest))
    | some _ => some none
    | none => none

end

/-- A bound above the number of tokens is enough to read a type. -/
def TypesAnswered (bound : Nat) : Prop :=
  ∀ tokens, Worded tokens → tokens.length < bound →
    tryType bound tokens = some (readType bound tokens)

/-- A bound above the number of tokens, and one more, is enough to read type arguments. -/
def ArgumentsAnswered (bound : Nat) : Prop :=
  ∀ tokens, Worded tokens → tokens.length + 1 < bound →
    tryArguments bound tokens = some (readArguments bound tokens)

theorem TypesAnswered.succ {bound : Nat} (types : TypesAnswered bound)
    (arguments : ArgumentsAnswered bound) : TypesAnswered (bound + 1) := by
  intro tokens worded short
  rw [tryType.eq_def]
  split
  · rename_i none
    cases none
  · rename_i word rest same
    obtain rfl := Nat.succ.inj same
    rw [readType]
    cases Bound.ofKeyword? word with
    | none => rfl
    | some side =>
        have inside : Worded rest := worded.mono (List.subset_append_right [_, _] _)
        rw [List.length_cons, List.length_cons] at short
        simp only
        rw [types rest inside (by omega)]
        cases TypeName.readType bound rest <;> rfl
  · rename_i free same
    rw [readType_question free]
  · -- one step into the arguments costs two tokens, and the arguments ask for one step more
    rename_i word rest same
    obtain rfl := Nat.succ.inj same
    rw [readType]
    cases classOfWord? word with
    | none => rfl
    | some class_ =>
        have inside : Worded rest := worded.mono (List.subset_append_right [_, _] _)
        rw [List.length_cons, List.length_cons] at short
        simp only
        rw [arguments rest inside (by omega)]
        cases readArguments bound rest <;> rfl
  · rename_i plain same
    rw [readType_word plain]
  · rename_i same question questions generics words
    rw [readType.eq_def]
    split
    · rfl
    · exact absurd rfl (question _ _)
    · exact absurd rfl (questions _)
    · exact absurd rfl (generics _ _)
    · exact absurd rfl (words _ _)
    · rfl

theorem ArgumentsAnswered.succ {bound : Nat} (types : TypesAnswered bound)
    (arguments : ArgumentsAnswered bound) : ArgumentsAnswered (bound + 1) := by
  intro tokens worded short
  rw [tryArguments, readArguments, types tokens worded (by omega)]
  cases read : TypeName.readType bound tokens with
  | none => rfl
  | some pair =>
      obtain ⟨type, rest⟩ := pair
      obtain ⟨used, rfl, derives⟩ := derives_of_readType worded read
      have some_ := List.length_pos_iff.mpr derives.ne_nil
      rw [List.length_append] at short
      cases rest with
      | nil => rfl
      | cons token rest =>
          cases token with
          | comma =>
              have behind := (worded.mono (List.subset_append_right ..)).mono
                (List.subset_cons_self ..)
              rw [List.length_cons] at short
              simp only
              rw [arguments rest behind (by omega)]
              cases readArguments bound rest <;> rfl
          | _ => rfl

theorem answered (bound : Nat) : TypesAnswered bound ∧ ArgumentsAnswered bound := by
  induction bound with
  | zero => exact ⟨fun _ _ short => absurd short (Nat.not_lt_zero _),
      fun _ _ short => absurd short (Nat.not_lt_zero _)⟩
  | succ bound ih => exact ⟨ih.1.succ ih.2, .succ ih.1 ih.2⟩

/-- **A bound above the number of tokens is never used up.** -/
theorem tryType_eq {bound : Nat} (worded : Worded tokens) (enough : tokens.length < bound) :
    tryType bound tokens = some (readType bound tokens) :=
  (answered bound).1 tokens worded enough

end TypeName

end Java

namespace Conversion

open Java

/-- **A text reads as a type if its tokens are derived as the type, and any other text is refused.**
The reader is done before its bound is used up, whatever the text is, and what it refuses is in the
error as it was written. -/
theorem typeName_follows_grammar (text : String) :
    (∀ bound > (Token.scan text.toList).length, TypeName.tryType bound (Token.scan text.toList) =
      some (TypeName.readType bound (Token.scan text.toList))) ∧
    (∀ type, typeName text = .ok type ↔
      ∃ tokens, Token.Cut text.toList tokens ∧ TypeName.Derives tokens type) ∧
    (∀ fault, typeName text = .error fault ↔ fault = .badTypeName text ∧
      ¬∃ tokens type, Token.Cut text.toList tokens ∧ TypeName.Derives tokens type) := by
  have made : ∀ type, typeName text = .ok type ↔ TypeName.ofText? text = some type := by
    intro type
    unfold typeName
    cases TypeName.ofText? text <;> simp
  refine ⟨fun bound enough => ?_, fun type => ?_, fun fault => ?_⟩
  · exact TypeName.tryType_eq (fun _ => Token.parts_of_mem_scan) enough
  · rw [made, TypeName.ofText?_eq_some_iff]
  · have refused : (¬∃ tokens type, Token.Cut text.toList tokens ∧ TypeName.Derives tokens type) ↔
        TypeName.ofText? text = none := by
      rw [Option.eq_none_iff_forall_ne_some, exists_comm, not_exists]
      exact forall_congr' fun type => not_congr TypeName.ofText?_eq_some_iff.symm
    rw [refused, typeName]
    cases TypeName.ofText? text with
    | none => simp [eq_comm]
    | some type => simp

/-- Brackets behind a bounded wildcard belong to the bound. -/
example : typeName " ?extends\tint[ ] " = .ok (.bounded .upper (.array (.primitive .int))) := by
  decide

end Conversion

end Delegation
