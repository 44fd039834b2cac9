import DataAccess.Catalog.Lookup

/-!
# Providers: fixed sources of schemas

Two sources that answer from fixed declarations and count how often they are asked. A `FixedCatalog`
counts all loads and all listings, and may list names that it cannot load. An `AuditedCatalog`
counts the loads of each name, and may be out of order.
-/

namespace DataAccess.Catalog

/-- Fixed declarations with counts of loads and listings. -/
structure FixedCatalog where
  /-- The declarations. -/
  schemas : List SchemaDecl
  /-- Names that are listed and cannot be loaded. -/
  phantoms : List String := []
  /-- The default schema. -/
  defaultName : Option String := none
  /-- How often a schema was asked for. -/
  loads : Nat := 0
  /-- How often the names were asked for. -/
  lists : Nat := 0

/-- Answers a call from the declarations: `load name` gives the first one of exactly that name
(`findDecl?`), and `none` for a phantom. -/
def FixedCatalog.answer : (call : SourceCall) → FixedCatalog →
    Except Error call.Answer × FixedCatalog
  | .listNames, c =>
      (.ok (c.schemas.map (·.name) ++ c.phantoms.map some), { c with lists := c.lists + 1 })
  | .defaultName, c => (.ok c.defaultName, c)
  | .load name, c => (.ok (findDecl? c.schemas name), { c with loads := c.loads + 1 })

/-- Fixed declarations with the count of the loads of each name. -/
structure AuditedCatalog where
  /-- The declarations. -/
  schemas : List SchemaDecl
  /-- The default schema. -/
  defaultName : Option String := none
  /-- Whether every listing and every load fails. -/
  unavailable : Bool := false
  /-- The names that were asked for, one entry for each time. -/
  loaded : List SchemaName := []

namespace AuditedCatalog

/-- Answers a call. -/
def answer : (call : SourceCall) → AuditedCatalog → Except Error call.Answer × AuditedCatalog
  | .listNames, c =>
      (if c.unavailable then .error (.source "schema provider unavailable")
        else .ok (c.schemas.map (·.name)), c)
  | .defaultName, c => (.ok c.defaultName, c)
  | .load name, c =>
      if c.unavailable then (.error (.source "schema provider unavailable"), c)
      else (.ok (findDecl? c.schemas name), { c with loaded := name :: c.loaded })

/-- How often the schema of that name was asked for. -/
def loadsOf (c : AuditedCatalog) (name : SchemaName) : Nat := c.loaded.count name

/-- How often any schema was asked for. -/
def totalLoads (c : AuditedCatalog) : Nat := c.loaded.length

end AuditedCatalog

end DataAccess.Catalog
