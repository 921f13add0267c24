import Delegation.Source.File

/-!
# Where a source names classes

The imports of a source decide how classes are written, and nothing else.  So the text of a class is a
template: text that is the same for all imports, and places for the names of classes.  Every class that
the base class mentions has its place, in reading order, but for the root class as the superclass.

## Main Definitions

* `Piece`, `fill`, `placed` — templates, filled with names, and the classes that have a place.
* `Places` — a text is a template with places for some classes, whatever the imports are.
* `PlacesLines` — the same of lines.
* `mentioned` — the classes that the source of a base class names behind its imports.

## Main Statements

* `places_write` — a type has a place for each of its classes.
* `places_bodyLines` — the lines behind the imports have places for the classes mentioned.
-/

namespace Delegation.Source

open Java

/-! ## Templates -/

/-- A piece of a template. -/
inductive Piece
  /-- Text that does not depend on the imports. -/
  | text (text : String)
  /-- The place of the name of a class. -/
  | name (class_ : ClassName)

/-- A template with the names in their places. -/
def fill (imports : Imports) : List Piece → String
  | [] => ""
  | .text text :: pieces => text ++ fill imports pieces
  | .name class_ :: pieces => imports.nameOf class_ ++ fill imports pieces

/-- The classes that have a place in a template, in reading order. -/
def placed : List Piece → List ClassName
  | [] => []
  | .text _ :: pieces => placed pieces
  | .name class_ :: pieces => class_ :: placed pieces

@[simp] theorem fill_append (imports : Imports) (pieces others : List Piece) :
    fill imports (pieces ++ others) = fill imports pieces ++ fill imports others := by
  induction pieces with
  | nil => simp [fill]
  | cons piece _ ih => cases piece <;> simp [fill, ih, String.append_assoc]

@[simp] theorem placed_append (pieces others : List Piece) :
    placed (pieces ++ others) = placed pieces ++ placed others := by
  induction pieces with
  | nil => rfl
  | cons piece _ ih => cases piece <;> simp [placed, ih]

/-- A text that depends on the imports is a template with places for these classes. -/
def Places (text : Imports → String) (classes : List ClassName) : Prop :=
  ∃ pieces, (∀ imports, text imports = fill imports pieces) ∧ placed pieces = classes

namespace Places

variable {α : Type} {text other : Imports → String} {classes others : List ClassName}

/-- A text that does not depend on the imports has no places. -/
theorem const (text : String) : Places (fun _ => text) [] :=
  ⟨[.text text], fun _ => String.append_empty.symm, rfl⟩

/-- The name of a class is a place. -/
theorem nameOf (class_ : ClassName) : Places (·.nameOf class_) [class_] :=
  ⟨[.name class_], fun _ => String.append_empty.symm, rfl⟩

theorem of_eq (same : ∀ imports, text imports = other imports) (places : Places other classes) :
    Places text classes :=
  funext same ▸ places

theorem append (places : Places text classes) (places' : Places other others) :
    Places (fun imports => text imports ++ other imports) (classes ++ others) := by
  obtain ⟨pieces, same, rfl⟩ := places
  obtain ⟨pieces', same', rfl⟩ := places'
  refine ⟨pieces ++ pieces', fun imports => ?_, placed_append _ _⟩
  rw [fill_append, ← same, ← same']

/-- Text in front of a template changes no places. -/
theorem before (start : String) (places : Places text classes) :
    Places (fun imports => start ++ text imports) classes :=
  (const start).append places

/-- Text behind a template changes no places. -/
theorem behind (places : Places text classes) (finish : String) :
    Places (fun imports => text imports ++ finish) classes := by
  have whole := places.append (const finish)
  rwa [List.append_nil] at whole

/-- Items that are separated by commas have the places of all of them. -/
theorem separated {list : List α} {text : Imports → α → String} {classes : α → List ClassName}
    (each : ∀ a ∈ list, Places (text · a) (classes a)) :
    Places (fun imports => commaSeparated (list.map (text imports))) (list.flatMap classes) := by
  induction list with
  | nil => exact const ""
  | cons first rest ih =>
      obtain ⟨head, tail⟩ := List.forall_mem_cons.mp each
      rw [List.flatMap_cons]
      cases rest with
      | nil =>
          rw [List.flatMap_nil, List.append_nil]
          exact head
      | cons second others =>
          refine of_eq (fun imports => ?_) ((head.behind ", ").append (ih tail))
          exact String.intercalate_cons_of_ne_nil (List.cons_ne_nil _ _)

/-- A clause has the places of its items. -/
theorem clause (keyword : String) (list : List α) {text : Imports → α → String}
    {classes : α → List ClassName} (each : ∀ a ∈ list, Places (text · a) (classes a)) :
    Places (fun imports => Source.clause keyword (list.map (text imports)))
      (list.flatMap classes) := by
  cases list with
  | nil => exact const ""
  | cons first rest => exact (separated each).before (" " ++ keyword ++ " ")

end Places

/-! ## Types and signatures -/

mutual

/-- **A type has a place for each of its classes.** -/
theorem places_write : (type : TypeName) →
    Places (fun imports => type.write imports.nameOf) type.classes
  | .void => .const "void"
  | .primitive type => .const type.keyword
  | .declared class_ [] => .nameOf class_
  | .declared class_ (first :: rest) => by
    have arguments := Places.separated (places_write_of_mem (first :: rest))
    rw [← TypeName.classesAll_eq_flatMap] at arguments
    refine .of_eq (fun imports => ?_) ((((Places.nameOf class_).behind "<").append arguments).behind ">")
    rw [TypeName.write, ← TypeName.writeAll_eq_map]
    rfl
  | .array component => (places_write component).behind "[]"
  | .wildcard => .const "?"
  | .bounded bound type => (places_write type).before ("? " ++ bound.keyword ++ " ")

/-- So do several types. -/
theorem places_write_of_mem : (types : List TypeName) →
    ∀ type ∈ types, Places (fun imports => type.write imports.nameOf) type.classes
  | [] => nofun
  | type :: types => List.forall_mem_cons.mpr ⟨places_write type, places_write_of_mem types⟩

end

namespace Places

/-- A parameter has the places of its type. -/
theorem parameterText (parameter : Parameter) :
    Places (·.parameterText parameter) parameter.type.classes :=
  ((places_write parameter.type).behind " ").behind parameter.name

/-- So has one that takes any number of arguments. -/
theorem varargsText (parameter : Parameter) :
    Places (·.varargsText parameter) parameter.type.classes := by
  unfold Imports.varargsText
  split
  · rename_i component same
    rw [same]
    exact ((places_write component).behind "... ").behind parameter.name
  · exact parameterText parameter

/-- A list of parameters has the places of their types, whether or not the last one is written in its
own way. -/
theorem parametersText (parameters : List Parameter) (varargs : Bool) :
    Places (·.parametersText parameters varargs) (parameters.flatMap (·.type.classes)) := by
  -- the last parameter is set apart only to be written in its own way
  have split : ∀ fixed open_ : List Parameter, fixed ++ open_ = parameters →
      Places (fun imports => commaSeparated (fixed.map imports.parameterText ++
        open_.map imports.varargsText)) (parameters.flatMap (·.type.classes)) := by
    rintro fixed open_ rfl
    have each : ∀ item ∈ fixed.map Sum.inl ++ open_.map Sum.inr,
        Places (fun imports => Sum.elim imports.parameterText imports.varargsText item)
          (Sum.elim (·.type.classes) (·.type.classes) item) := by
      rintro (parameter | parameter) _
      · exact parameterText parameter
      · exact varargsText parameter
    have whole := separated each
    simpa [List.flatMap_map, Function.comp_def] using whole
  cases varargs with
  | false => simpa [Imports.parametersText] using split parameters [] (List.append_nil _)
  | true =>
      refine split parameters.dropLast parameters.getLast?.toList ?_
      rcases List.eq_nil_or_concat parameters with rfl | ⟨before, last, rfl⟩
      · rfl
      · simp

/-- A signature has the places of its types. -/
theorem signatureText (name : String) (parameters : List Parameter) (varargs : Bool)
    (throws : List TypeName) : Places (·.signatureText name parameters varargs throws)
      ((signatureTypes parameters throws).flatMap TypeName.classes) := by
  have list := ((parametersText parameters varargs).before (name ++ "(")).behind ")"
  have throws_ := clause "throws" throws fun type _ => places_write type
  rw [signatureTypes, List.flatMap_append, List.flatMap_map]
  exact list.append throws_

/-- A field has the place of its interface. -/
theorem fieldLine (field : Field) : Places (·.fieldLine field) [field.interface] :=
  ((((nameOf field.interface).before "private final ").behind " ").behind field.name).behind ";"

/-- The head of a class has the places of its superclass, unless that is the root class, and of its
interfaces. -/
theorem classHeader (base : BaseClass) : Places (·.classHeader base)
    ((if base.superclass.qualified = ClassName.object.qualified then [] else [base.superclass]) ++
      base.interfaces) := by
  have superclass : Places (fun imports => Source.clause "extends"
      (if base.superclass.qualified = ClassName.object.qualified then []
        else [imports.nameOf base.superclass]))
      (if base.superclass.qualified = ClassName.object.qualified then [] else [base.superclass]) := by
    split
    · exact const ""
    · exact (nameOf base.superclass).before " extends "
  have interfaces := clause "implements" base.interfaces fun class_ _ => nameOf class_
  rw [List.flatMap_singleton'] at interfaces
  exact (superclass.before ("abstract class " ++ base.name.simpleName)).append interfaces

/-- The mark of generated code has the place of its class. -/
theorem markerLine (marker : ClassName) : Places (markerLine · marker) [marker] :=
  (((((nameOf marker).before "@").behind "(\"").behind Options.generatorName).behind "\")")

end Places

/-! ## Lines -/

/-- A text with something at its end is not empty. -/
theorem append_ne_empty (text : String) {finish : String} (full : finish ≠ "") :
    text ++ finish ≠ "" :=
  fun empty => full (String.append_eq_empty_iff.mp empty).2

theorem unlines_append (lines others : List String) :
    unlines (lines ++ others) = unlines lines ++ unlines others := by
  rw [unlines, List.map_append, String.join_append]
  rfl

/-- Lines that depend on the imports are templates with places for these classes.  Which of them are
empty does not depend on the imports. -/
inductive PlacesLines : (Imports → List String) → List ClassName → Prop
  | nil : PlacesLines (fun _ => []) []
  | blank {lines : Imports → List String} {classes : List ClassName}
    (rest : PlacesLines lines classes) : PlacesLines (fun imports => "" :: lines imports) classes
  | cons {text : Imports → String} {lines : Imports → List String} {classes others : List ClassName}
    (places : Places text classes) (full : ∀ imports, text imports ≠ "")
    (rest : PlacesLines lines others) :
    PlacesLines (fun imports => text imports :: lines imports) (classes ++ others)

namespace PlacesLines

variable {α : Type} {text : Imports → String} {lines more : Imports → List String}
  {classes others : List ClassName}

/-- A single line. -/
theorem singleton (places : Places text classes) (full : ∀ imports, text imports ≠ "") :
    PlacesLines (fun imports => [text imports]) classes := by
  have line := cons places full nil
  rwa [List.append_nil] at line

/-- Lines that do not depend on the imports have no places. -/
theorem const (lines : List String) : PlacesLines (fun _ => lines) [] := by
  induction lines with
  | nil => exact nil
  | cons line rest ih =>
      by_cases empty : line = ""
      · rw [empty]
        exact ih.blank
      · exact cons (.const line) (fun _ => empty) ih

theorem append (places : PlacesLines lines classes) (places' : PlacesLines more others) :
    PlacesLines (fun imports => lines imports ++ more imports) (classes ++ others) := by
  induction places with
  | nil => exact places'
  | blank _ ih => exact ih.blank
  | cons places full _ ih =>
      rw [List.append_assoc]
      exact cons places full ih

/-- A line that does not depend on the imports changes no places. -/
theorem under (places : PlacesLines lines classes) (line : String) :
    PlacesLines (fun imports => line :: lines imports) classes :=
  (const [line]).append places

/-- The lines of several things, one after the other. -/
theorem flatMap {list : List α} {lines : Imports → α → List String}
    {classes : α → List ClassName} (each : ∀ a ∈ list, PlacesLines (lines · a) (classes a)) :
    PlacesLines (fun imports => list.flatMap (lines imports)) (list.flatMap classes) := by
  induction list with
  | nil => exact nil
  | cons first rest ih =>
      obtain ⟨head, tail⟩ := List.forall_mem_cons.mp each
      exact head.append (ih tail)

/-- Lines keep their places one level deeper. -/
theorem indent (places : PlacesLines lines classes) :
    PlacesLines (fun imports => Source.indent (lines imports)) classes := by
  induction places with
  | nil => exact nil
  | blank _ ih => exact ih.blank
  | @cons text lines _ _ places full _ ih =>
      have deeper : (fun imports => Source.indent (text imports :: lines imports)) =
          fun imports => ("  " ++ text imports) :: Source.indent (lines imports) := by
        funext imports
        have nonempty : ¬(text imports).isEmpty = true := by simpa using full imports
        rw [Source.indent, List.map_cons, if_neg nonempty]
        rfl
      rw [deeper]
      exact cons (places.before "  ") (fun imports => append_ne_empty "  " (full imports)) ih

/-- A block has the places of its header and of its content. -/
theorem block (header : Places text classes) (content : PlacesLines lines others) :
    PlacesLines (fun imports => Source.block (text imports) (lines imports)) (classes ++ others) := by
  have inside := content.indent.append (const ["\x7d"])
  rw [List.append_nil] at inside
  exact cons (header.behind " \x7b") (fun _ => append_ne_empty _ (by decide)) inside

/-- A block whose content does not depend on the imports has the places of its header. -/
theorem block_const (header : Places text classes) (content : List String) :
    PlacesLines (fun imports => Source.block (text imports) content) classes := by
  have whole := block header (const content)
  rwa [List.append_nil] at whole

/-- The text of some lines has their places. -/
theorem unlines (places : PlacesLines lines classes) :
    Places (fun imports => Source.unlines (lines imports)) classes := by
  induction places with
  | nil => exact .const ""
  | @blank lines _ _ ih =>
      refine .of_eq (fun imports => ?_) (ih.before "\n")
      simp [Source.unlines, String.join_cons]
  | @cons text lines _ _ places _ _ ih =>
      refine .of_eq (fun imports => ?_) ((places.behind "\n").append ih)
      simp [Source.unlines, String.join_cons]

/-- A constructor has the places of its signature. -/
theorem constructorLines (name : String) (constructor : BaseConstructor) :
    PlacesLines (·.constructorLines name constructor)
      ((signatureTypes constructor.parameters constructor.throws).flatMap TypeName.classes) :=
  block_const (.signatureText name constructor.parameters constructor.varargs constructor.throws) _

/-- A method has the places of its result and of its signature. -/
theorem methodLines (method : Forwarder) : PlacesLines (·.methodLines method)
    ((method.returns :: signatureTypes method.parameters method.throws).flatMap
      TypeName.classes) := by
  have result := ((places_write method.returns).before "public ").behind " "
  have signature := Places.signatureText method.name method.parameters method.varargs method.throws
  exact (block_const (result.append signature) _).under "@Override"

/-- The members have the places of the fields, the constructors and the methods. -/
theorem memberLines (base : BaseClass) : PlacesLines (·.memberLines base)
    (base.fields.map (·.interface) ++ base.memberTypes.flatMap TypeName.classes) := by
  have fields := flatMap fun (field : Field) (_ : field ∈ base.fields) =>
    singleton (.fieldLine field) fun _ => append_ne_empty _ (by decide)
  have constructors := flatMap fun (constructor : BaseConstructor)
      (_ : constructor ∈ base.constructors) =>
    (constructorLines base.name.simpleName constructor).blank
  have methods := flatMap fun (method : Forwarder) (_ : method ∈ base.methods) =>
    (methodLines method).blank
  have whole := fields.append (constructors.append methods)
  simp only [← List.map_eq_flatMap] at whole
  simpa only [Imports.memberLines, BaseClass.memberTypes, List.flatMap_append, List.flatMap_map,
    List.flatMap_assoc] using whole

end PlacesLines

/-! ## The source of a base class -/

/-- The lines behind the imports. -/
def bodyLines (imports : Imports) (base : BaseClass) (options : Options) : List String :=
  options.marker?.toList.map (markerLine imports) ++
    block (imports.classHeader base) (imports.memberLines base)

/-- The classes that the source names behind its imports, in reading order: those that the base class
mentions and the mark of generated code, but not the root class as the superclass. -/
def mentioned (base : BaseClass) (options : Options) : List ClassName :=
  options.marker?.toList ++
    if base.superclass.qualified = ClassName.object.qualified then base.classes.tail
    else base.classes

/-- **The lines behind the imports have places for the classes mentioned.** -/
theorem places_bodyLines (base : BaseClass) (options : Options) :
    PlacesLines (bodyLines · base options) (mentioned base options) := by
  have marker : PlacesLines (fun imports => options.marker?.toList.map (markerLine imports))
      options.marker?.toList := by
    cases options.marker? with
    | none => exact .nil
    | some marker =>
        exact .singleton (.markerLine marker) fun _ => append_ne_empty _ (by decide)
  have body := PlacesLines.block (.classHeader base) (.memberLines base)
  refine marker.append ?_
  split <;> rename_i root
  · rw [if_pos root] at body
    simpa [BaseClass.classes] using body
  · rw [if_neg root] at body
    simpa [BaseClass.classes] using body

end Delegation.Source
