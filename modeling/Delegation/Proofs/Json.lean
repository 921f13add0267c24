import Delegation.Json
import Mathlib.Data.List.Basic

/-!
# Texts in JSON

A text spells a value if it follows the grammar of JSON: there may be blanks between its parts, and
the characters of a string may be escaped or not.  The grammar is told here by what is read off the
front of a text and what is left behind it.  The next character always tells which part comes next,
so a text spells one value at most, and a writer is free in nothing but blanks and escapes.

## Main Definitions

* `Json.Quoted` — the characters up to a closing quote.
* `Json.Reads` — a value at the front of a text.
* `Json.Spells` — a text is a value and nothing else.

## Main Statements

* `Json.Spells.unique` — a text spells one value at most.
* `Json.spells_pretty` — the text that is written for a value spells it.
-/

namespace Delegation.Json

/-! ## The grammar -/

/-- The characters that may stand between the parts of a text. -/
def isBlank (c : Char) : Bool := c = ' ' || c = '\t' || c = '\n' || c = '\r'

/-- What is left of a text after the blanks at its front. -/
def skip (text : List Char) : List Char := text.dropWhile isBlank

/-- The character that an escape of one letter stands for. -/
def escape? : Char → Option Char
  | '"' => some '"'
  | '\\' => some '\\'
  | '/' => some '/'
  | 'b' => some '\x08'
  | 'f' => some '\x0c'
  | 'n' => some '\n'
  | 'r' => some '\r'
  | 't' => some '\t'
  | _ => none

/-- The value of a hexadecimal digit. -/
def hexDigit? (c : Char) : Option Nat :=
  if '0' ≤ c ∧ c ≤ '9' then some (c.toNat - '0'.toNat)
  else if 'a' ≤ c ∧ c ≤ 'f' then some (c.toNat - 'a'.toNat + 10)
  else if 'A' ≤ c ∧ c ≤ 'F' then some (c.toNat - 'A'.toNat + 10)
  else none

/-- The number that hexadecimal digits stand for. -/
def hexNumber? (digits : List Char) : Option Nat :=
  digits.foldlM (fun number c => (hexDigit? c).map (16 * number + ·)) 0

/-- At the front of the first text stand these characters as they are in a string, and a quote that
closes it; the other text is what is left. -/
inductive Quoted : List Char → List Char → List Char → Prop
  | close {rest : List Char} : Quoted ('"' :: rest) [] rest
  | plain {c : Char} {text chars rest : List Char} (noQuote : c ≠ '"') (noEscape : c ≠ '\\')
    (visible : ' ' ≤ c) (others : Quoted text chars rest) : Quoted (c :: text) (c :: chars) rest
  | escaped {c letter : Char} {text chars rest : List Char} (known : escape? letter = some c)
    (others : Quoted text chars rest) : Quoted ('\\' :: letter :: text) (c :: chars) rest
  /-- A character by its number. -/
  | numbered {c first second third fourth : Char} {text chars rest : List Char}
    (known : hexNumber? [first, second, third, fourth] = some c.toNat)
    (others : Quoted text chars rest) :
    Quoted ('\\' :: 'u' :: first :: second :: third :: fourth :: text) (c :: chars) rest

mutual

/-- At the front of the first text stands this value, and the other text is what is left. -/
inductive Reads : List Char → Json → List Char → Prop
  | yes {rest : List Char} : Reads ('t' :: 'r' :: 'u' :: 'e' :: rest) (.boolean true) rest
  | no {rest : List Char} : Reads ('f' :: 'a' :: 'l' :: 's' :: 'e' :: rest) (.boolean false) rest
  | string {text chars rest : List Char} (quoted : Quoted text chars rest) :
    Reads ('"' :: text) (.string (String.ofList chars)) rest
  | noItems {text rest : List Char} (closed : skip text = ']' :: rest) :
    Reads ('[' :: text) (.array []) rest
  | array {text rest : List Char} {items : List Json} (inside : ReadsItems (skip text) items rest) :
    Reads ('[' :: text) (.array items) rest
  | noMembers {text rest : List Char} (closed : skip text = '\x7d' :: rest) :
    Reads ('\x7b' :: text) (.object []) rest
  | object {text rest : List Char} {members : List (String × Json)}
    (inside : ReadsMembers (skip text) members rest) : Reads ('\x7b' :: text) (.object members) rest

/-- At the front of the first text stand these items with commas between them, and the bracket that
closes their array. -/
inductive ReadsItems : List Char → List Json → List Char → Prop
  | last {text behind rest : List Char} {item : Json} (first : Reads text item behind)
    (closed : skip behind = ']' :: rest) : ReadsItems text [item] rest
  | more {text behind next rest : List Char} {item : Json} {items : List Json}
    (first : Reads text item behind) (comma : skip behind = ',' :: next)
    (others : ReadsItems (skip next) items rest) : ReadsItems text (item :: items) rest

/-- At the front of the first text stands a member: its name, a colon and its value. -/
inductive ReadsMember : List Char → String × Json → List Char → Prop
  | named {text name behind next rest : List Char} {value : Json}
    (quoted : Quoted text name behind) (colon : skip behind = ':' :: next)
    (read : Reads (skip next) value rest) :
    ReadsMember ('"' :: text) (String.ofList name, value) rest

/-- At the front of the first text stand these members with commas between them, and the brace that
closes their object. -/
inductive ReadsMembers : List Char → List (String × Json) → List Char → Prop
  | last {text behind rest : List Char} {member : String × Json}
    (first : ReadsMember text member behind) (closed : skip behind = '\x7d' :: rest) :
    ReadsMembers text [member] rest
  | more {text behind next rest : List Char} {member : String × Json}
    {members : List (String × Json)} (first : ReadsMember text member behind)
    (comma : skip behind = ',' :: next) (others : ReadsMembers (skip next) members rest) :
    ReadsMembers text (member :: members) rest

end

/-- A text is a value, with blanks around it at most. -/
def Spells (text : String) (value : Json) : Prop :=
  ∃ rest, Reads (skip text.toList) value rest ∧ skip rest = []

/-! ## A text spells one value at most -/

theorem Quoted.unique {text chars rest others rest' : List Char} (quoted : Quoted text chars rest)
    (again : Quoted text others rest') : chars = others ∧ rest = rest' := by
  induction quoted generalizing others rest' with
  | close =>
      cases again with
      | close => exact ⟨rfl, rfl⟩
      | plain noQuote => exact absurd rfl noQuote
  | plain noQuote noEscape visible _ ih =>
      cases again with
      | close => exact absurd rfl noQuote
      | plain _ _ _ tail =>
          obtain ⟨rfl, rfl⟩ := ih tail
          exact ⟨rfl, rfl⟩
      | escaped => exact absurd rfl noEscape
      | numbered => exact absurd rfl noEscape
  | escaped known _ ih =>
      cases again with
      | plain _ noEscape => exact absurd rfl noEscape
      | escaped known' tail =>
          obtain ⟨rfl, rfl⟩ := ih tail
          exact ⟨by rw [Option.some.inj (known.symm.trans known')], rfl⟩
      -- no letter of an escape is the one that a number follows
      | numbered => cases known
  | numbered known _ ih =>
      cases again with
      | plain _ noEscape => exact absurd rfl noEscape
      | escaped known' => cases known'
      | numbered known' tail =>
          obtain ⟨rfl, rfl⟩ := ih tail
          have same := Char.toNat_inj.mp (Option.some.inj (known.symm.trans known'))
          exact ⟨by rw [same], rfl⟩

/-- A closing bracket is not the front of an item. -/
theorem not_readsItems_close {text rest : List Char} {items : List Json} :
    ¬ ReadsItems (']' :: text) items rest := by
  rintro (⟨first, -⟩ | ⟨first, -, -⟩) <;> cases first

/-- A closing brace is not the front of a member. -/
theorem not_readsMembers_close {text rest : List Char} {members : List (String × Json)} :
    ¬ ReadsMembers ('\x7d' :: text) members rest := by
  rintro (⟨first, -⟩ | ⟨first, -, -⟩) <;> cases first

mutual

/-- One value at most stands at the front of a text. -/
theorem Reads.unique {text rest rest' : List Char} {value other : Json}
    (read : Reads text value rest) (again : Reads text other rest') :
    value = other ∧ rest = rest' := by
  cases read with
  | yes =>
      cases again
      exact ⟨rfl, rfl⟩
  | no =>
      cases again
      exact ⟨rfl, rfl⟩
  | string quoted =>
      cases again with
      | string quoted' =>
          obtain ⟨rfl, rfl⟩ := quoted.unique quoted'
          exact ⟨rfl, rfl⟩
  | noItems closed =>
      cases again with
      | noItems closed' => exact ⟨rfl, (List.cons.inj (closed.symm.trans closed')).2⟩
      | array inside => exact absurd (closed ▸ inside) not_readsItems_close
  | array inside =>
      cases again with
      | noItems closed => exact absurd (closed ▸ inside) not_readsItems_close
      | array inside' =>
          obtain ⟨rfl, rfl⟩ := inside.unique inside'
          exact ⟨rfl, rfl⟩
  | noMembers closed =>
      cases again with
      | noMembers closed' => exact ⟨rfl, (List.cons.inj (closed.symm.trans closed')).2⟩
      | object inside => exact absurd (closed ▸ inside) not_readsMembers_close
  | object inside =>
      cases again with
      | noMembers closed => exact absurd (closed ▸ inside) not_readsMembers_close
      | object inside' =>
          obtain ⟨rfl, rfl⟩ := inside.unique inside'
          exact ⟨rfl, rfl⟩

theorem ReadsItems.unique {text rest rest' : List Char} {items others : List Json}
    (read : ReadsItems text items rest) (again : ReadsItems text others rest') :
    items = others ∧ rest = rest' := by
  cases read with
  | last first closed =>
      cases again with
      | last first' closed' =>
          obtain ⟨rfl, rfl⟩ := first.unique first'
          exact ⟨rfl, (List.cons.inj (closed.symm.trans closed')).2⟩
      | more first' comma =>
          obtain ⟨rfl, rfl⟩ := first.unique first'
          cases closed.symm.trans comma
  | more first comma tail =>
      cases again with
      | last first' closed =>
          obtain ⟨rfl, rfl⟩ := first.unique first'
          cases closed.symm.trans comma
      | more first' comma' tail' =>
          obtain ⟨rfl, rfl⟩ := first.unique first'
          obtain rfl := (List.cons.inj (comma.symm.trans comma')).2
          obtain ⟨rfl, rfl⟩ := tail.unique tail'
          exact ⟨rfl, rfl⟩

theorem ReadsMember.unique {text rest rest' : List Char} {member other : String × Json}
    (read : ReadsMember text member rest) (again : ReadsMember text other rest') :
    member = other ∧ rest = rest' := by
  cases read with
  | named quoted colon read =>
      cases again with
      | named quoted' colon' read' =>
          obtain ⟨rfl, rfl⟩ := quoted.unique quoted'
          obtain rfl := (List.cons.inj (colon.symm.trans colon')).2
          obtain ⟨rfl, rfl⟩ := read.unique read'
          exact ⟨rfl, rfl⟩

theorem ReadsMembers.unique {text rest rest' : List Char} {members others : List (String × Json)}
    (read : ReadsMembers text members rest) (again : ReadsMembers text others rest') :
    members = others ∧ rest = rest' := by
  cases read with
  | last first closed =>
      cases again with
      | last first' closed' =>
          obtain ⟨rfl, rfl⟩ := first.unique first'
          exact ⟨rfl, (List.cons.inj (closed.symm.trans closed')).2⟩
      | more first' comma =>
          obtain ⟨rfl, rfl⟩ := first.unique first'
          cases closed.symm.trans comma
  | more first comma tail =>
      cases again with
      | last first' closed =>
          obtain ⟨rfl, rfl⟩ := first.unique first'
          cases closed.symm.trans comma
      | more first' comma' tail' =>
          obtain ⟨rfl, rfl⟩ := first.unique first'
          obtain rfl := (List.cons.inj (comma.symm.trans comma')).2
          obtain ⟨rfl, rfl⟩ := tail.unique tail'
          exact ⟨rfl, rfl⟩

end

/-- **A text spells one value at most.** -/
theorem Spells.unique {text : String} {value other : Json} (spells : Spells text value)
    (again : Spells text other) : value = other := by
  obtain ⟨rest, read, -⟩ := spells
  obtain ⟨rest', read', -⟩ := again
  exact (read.unique read').1

/-! ## What is written -/

/-- Blanks at the front of a text do not matter. -/
theorem skip_append {blanks : List Char} (blank : ∀ c ∈ blanks, isBlank c) (text : List Char) :
    skip (blanks ++ text) = skip text :=
  List.dropWhile_append_of_pos blank

theorem skip_cons_of_visible {c : Char} (visible : isBlank c = false) (text : List Char) :
    skip (c :: text) = c :: text :=
  List.dropWhile_cons_of_neg (by simp [visible])

/-- A character that has to be escaped by its number is read back from its digits. -/
theorem exists_fourDigits {c : Char} (low : c < ' ') : ∃ first second third fourth,
    fourDigits c = [first, second, third, fourth] ∧
      hexNumber? [first, second, third, fourth] = some c.toNat := by
  have all : ∀ n < 32, (fourDigits (Char.ofNat n)).length = 4 ∧
      hexNumber? (fourDigits (Char.ofNat n)) = some (Char.ofNat n).toNat := by decide +kernel
  obtain ⟨four, number⟩ := all c.toNat low
  rw [Char.ofNat_toNat] at four number
  obtain ⟨first, second, third, fourth, digits⟩ := List.length_eq_four.mp four
  exact ⟨first, second, third, fourth, digits, digits ▸ number⟩

/-- A character is read back from what is written for it. -/
theorem quoted_escaped_append {text chars rest : List Char} (others : Quoted text chars rest)
    (c : Char) : Quoted (escaped c ++ text) (c :: chars) rest := by
  unfold escaped
  split
  case h_8 noQuote noEscape _ _ _ _ _ =>
    split
    · rename_i low
      obtain ⟨first, second, third, fourth, digits, number⟩ := exists_fourDigits low
      rw [digits]
      exact .numbered number others
    · rename_i visible
      exact .plain noQuote noEscape (Char.not_lt.mp visible) others
  all_goals exact .escaped rfl others

/-- The characters of a text are read back from what is written for them. -/
theorem quoted_flatMap_escaped (chars rest : List Char) :
    Quoted (chars.flatMap escaped ++ '"' :: rest) chars rest := by
  induction chars with
  | nil => exact .close
  | cons c others ih =>
      rw [List.flatMap_cons, List.append_assoc]
      exact quoted_escaped_append ih c

theorem toList_quoted_append (text : String) (rest : List Char) :
    (quoted text).toList ++ rest = '"' :: (text.toList.flatMap escaped ++ '"' :: rest) := by
  simp [quoted]

theorem isBlank_of_mem_margin {level : Nat} {c : Char} (mem : c ∈ (margin level).toList) :
    isBlank c := by
  rw [margin, String.toList_ofList] at mem
  rw [List.eq_of_mem_replicate mem]
  rfl

/-- A line after the margin begins where the margin ends. -/
theorem skip_newline_margin (level : Nat) (text : List Char) :
    skip ('\n' :: ((margin level).toList ++ text)) = skip text := by
  rw [← List.cons_append]
  refine skip_append (fun c mem => ?_) text
  rcases List.mem_cons.mp mem with rfl | mem
  · rfl
  · exact isBlank_of_mem_margin mem

/-- There is no blank at the front of a value. -/
theorem Reads.skip_eq {text rest : List Char} {value : Json} (read : Reads text value rest) :
    skip text = text := by
  cases read <;> exact skip_cons_of_visible rfl _

/-- There is no blank at the front of a member. -/
theorem ReadsMember.skip_eq {text rest : List Char} {member : String × Json}
    (read : ReadsMember text member rest) : skip text = text := by
  cases read
  exact skip_cons_of_visible rfl _

/-- Lines that each have one part, with commas between them and a closing bracket, have all of the
parts.  This is shared by arrays and objects. -/
theorem readsAll_lines {α : Type} (part : List Char → α → List Char → Prop)
    (all : List Char → List α → List Char → Prop) {closing : Char}
    (last : ∀ {text behind rest item}, part text item behind → skip behind = closing :: rest →
      all text [item] rest)
    (more : ∀ {text behind next rest item items}, part text item behind →
      skip behind = ',' :: next → all (skip next) items rest → all text (item :: items) rest)
    (starts : ∀ {text item rest}, part text item rest → skip text = text)
    (closes : isBlank closing = false) (level below : Nat) (rest : List Char) {texts : List String}
    {items : List α}
    (read : List.Forall₂ (fun text item => ∀ rest, part (text.toList ++ rest) item rest) texts items)
    (nonempty : items ≠ []) :
    all (skip ((",\n".intercalate (texts.map (margin level ++ ·))).toList ++
      '\n' :: ((margin below).toList ++ closing :: rest))) items rest := by
  induction read with
  | nil => exact absurd rfl nonempty
  | @cons text item texts items first others ih =>
      cases others with
      | nil =>
          simp only [List.map_cons, List.map_nil, String.intercalate_singleton,
            String.toList_append, List.append_assoc]
          rw [skip_append fun _ => isBlank_of_mem_margin, starts (first _)]
          refine last (first _) ?_
          rw [skip_newline_margin, skip_cons_of_visible closes]
      | @cons text' item' texts items first' others =>
          have later := ih (List.cons_ne_nil _ _)
          rw [List.map_cons] at later ⊢
          rw [List.map_cons, String.intercalate_cons_cons]
          generalize ",\n".intercalate _ = lines at later ⊢
          simp only [String.toList_append, List.append_assoc]
          rw [skip_append fun _ => isBlank_of_mem_margin, starts (first _)]
          exact more (first _) (skip_cons_of_visible rfl _) later

theorem toList_enclosed_append (level : Nat) (opening closing : String) {texts : List String}
    (nonempty : texts ≠ []) (rest : List Char) :
    (enclosed level opening closing texts).toList ++ rest =
      opening.toList ++ ('\n' :: ((",\n".intercalate (texts.map (margin (level + 1) ++ ·))).toList ++
        '\n' :: ((margin level).toList ++ (closing.toList ++ rest)))) := by
  rw [enclosed, if_neg (by simpa using nonempty)]
  simp [List.append_assoc]

mutual

/-- A value is read back from what is written for it. -/
theorem reads_write : ∀ (value : Json) (level : Nat) (rest : List Char),
    Reads ((value.write level).toList ++ rest) value rest
  | .string text, level, rest => by
      rw [write, toList_quoted_append]
      simpa using Reads.string (quoted_flatMap_escaped text.toList rest)
  | .boolean true, level, rest => by simpa [write] using @Reads.yes rest
  | .boolean false, level, rest => by simpa [write] using @Reads.no rest
  | .array [], level, rest => by
      simpa [write, writeAll, enclosed] using Reads.noItems (skip_cons_of_visible rfl rest)
  | .array (item :: items), level, rest => by
      have read := forall_reads_writeAll (item :: items) (level + 1)
      have lines := readsAll_lines Reads ReadsItems .last .more Reads.skip_eq rfl (level + 1) level
        rest read (List.cons_ne_nil _ _)
      rw [write, toList_enclosed_append _ _ _ (by simp [writeAll])]
      exact .array lines
  | .object [], level, rest => by
      simpa [write, writeMembers, enclosed] using Reads.noMembers (skip_cons_of_visible rfl rest)
  | .object (member :: members), level, rest => by
      have read := forall_reads_writeMembers (member :: members) (level + 1)
      have lines := readsAll_lines ReadsMember ReadsMembers .last .more ReadsMember.skip_eq rfl
        (level + 1) level rest read (List.cons_ne_nil _ _)
      rw [write, toList_enclosed_append _ _ _ (by simp [writeMembers])]
      exact .object lines

/-- Several values are read back from what is written for each. -/
theorem forall_reads_writeAll : ∀ (items : List Json) (level : Nat),
    List.Forall₂ (fun (text : String) item => ∀ rest, Reads (text.toList ++ rest) item rest)
      (writeAll level items) items
  | [], _ => .nil
  | item :: items, level => .cons (reads_write item level) (forall_reads_writeAll items level)

/-- Several members are read back from what is written for each. -/
theorem forall_reads_writeMembers : ∀ (members : List (String × Json)) (level : Nat),
    List.Forall₂ (fun (text : String) member => ∀ rest,
      ReadsMember (text.toList ++ rest) member rest) (writeMembers level members) members
  | [], _ => .nil
  | (key, value) :: members, level => by
      refine .cons (fun rest => ?_) (forall_reads_writeMembers members level)
      have read := reads_write value level rest
      have spaced : skip (' ' :: ((value.write level).toList ++ rest)) =
          (value.write level).toList ++ rest := read.skip_eq
      have named := ReadsMember.named (quoted_flatMap_escaped key.toList
        (':' :: ' ' :: ((value.write level).toList ++ rest))) (skip_cons_of_visible rfl _)
        (spaced ▸ read)
      rw [String.ofList_toList] at named
      simpa [toList_quoted_append] using named

end

/-- **The text that is written for a value spells it.** -/
theorem spells_pretty (value : Json) : Spells value.pretty value := by
  have read := reads_write value 0 []
  rw [List.append_nil] at read
  exact ⟨[], by rwa [pretty, read.skip_eq], rfl⟩

end Delegation.Json
