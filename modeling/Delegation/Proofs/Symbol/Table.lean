import Delegation.Symbol.Table

/-!
# Tables of declarations

A table is lawful when it finds every declaration under its own name.  Lists of declarations are the
simplest lawful tables.

## Main Definitions

* `SymbolTable.ofDecls` — the table of a list of declarations.

## Main Statements

* `SymbolTable.Lawful.map_name_filterMap_lookup` — looking names up and naming what is found.
-/

namespace Delegation

open Java

namespace SymbolTable

/-- The table in which the first declaration of a name is found. -/
def ofDecls (decls : List TypeDecl) : SymbolTable where
  lookup name := decls.find? (·.name = name)
  root := .object
  names := decls.map (·.name)
  mem_names name visible := by
    obtain ⟨decl, mem, same⟩ := List.find?_isSome.mp visible
    exact List.mem_map.mpr ⟨decl, mem, by simpa using same⟩

theorem lawful_ofDecls (decls : List TypeDecl) : (ofDecls decls).Lawful := by
  intro name decl found
  simpa using List.find?_some found

namespace Lawful

variable {table : SymbolTable}

/-- The declarations of some names have these names, as far as they are visible. -/
theorem map_name_filterMap_lookup (lawful : table.Lawful) (names : List ClassName) :
    (names.filterMap table.lookup).map (·.name) = names.filter table.isVisible := by
  induction names with
  | nil => rfl
  | cons name rest ih =>
      cases found : table.lookup name with
      | none => simpa [found, isVisible] using ih
      | some decl => simpa [found, isVisible, lawful name decl found] using ih

end Lawful

end SymbolTable

end Delegation
