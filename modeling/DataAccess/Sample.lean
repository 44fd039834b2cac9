import DataAccess.Memory.Store

/-!
# Sample: tables of customers and employees

A small database to try things out on: a schema with two tables and their rows, a schema that
describes the database itself, and tables that count.
-/

namespace DataAccess.Sample

open Catalog Memory

/-! ## Tables -/

/-- The name of the sample schema. -/
def schemaName : String := "PUBLIC"

/-- The name of the table of customers. -/
def customers : String := "CUSTOMERS"

/-- The name of the table of employees. -/
def employees : String := "EMPLOYEES"

/-- A column of texts of a limited length. -/
def varcharColumn (name : String) (size : UInt32) : ColumnDecl :=
  { name, type := .varchar, nativeType := some s!"VARCHAR({size})", size := some size }

/-- A column of integers. -/
def integerColumn (name : String) : ColumnDecl :=
  { name, type := .integer, nativeType := some "INTEGER" }

/-- A column that admits no null. -/
def required (c : ColumnDecl) : ColumnDecl := { c with nullable := some false }

/-- The table of customers. -/
def customersTable : TableDecl where
  name := customers
  columns := [
    required (integerColumn "CUSTOMERNUMBER"),
    required (varcharColumn "CUSTOMERNAME" 50),
    varcharColumn "CONTACTLASTNAME" 50,
    varcharColumn "COUNTRY" 50,
    { name := "CREDITLIMIT", type := .double, nativeType := some "DOUBLE" }]

/-- The table of employees. -/
def employeesTable : TableDecl where
  name := employees
  columns := [
    required (integerColumn "EMPLOYEENUMBER"),
    required (varcharColumn "LASTNAME" 50),
    varcharColumn "FIRSTNAME" 50,
    varcharColumn "JOBTITLE" 50,
    integerColumn "REPORTSTO"]

/-- The sample schema. -/
def sampleSchema : SchemaDecl := ⟨some schemaName, [customersTable, employeesTable]⟩

/-- A table with one column of texts. -/
def catalogTable (name column : String) : TableDecl :=
  { name, columns := [{ name := column, type := .varchar }] }

/-- A schema about the database itself, with more tables than the sample schema. -/
def informationSchema : SchemaDecl where
  name := some "INFORMATION_SCHEMA"
  tables := [
    catalogTable "TABLES" "TABLE_NAME",
    catalogTable "COLUMNS" "COLUMN_NAME",
    catalogTable "SCHEMATA" "SCHEMA_NAME"]

/-- A table of numbers. -/
def sequenceTable (name : String) : TableDecl :=
  { name, columns := [required (integerColumn "N")] }

/-! ## Rows -/

/-- The rows of a table of numbers, from one to `count`. -/
def sequenceRows (count : Nat) : List Record :=
  (List.range count).map fun n => [.integer (Int64.ofNat (n + 1))]

/-- A row of the table of customers. -/
def customer (number : Int64) (name contact country : String) (credit : Float) : Record :=
  [.integer number, .text name, .text contact, .text country, .float credit]

/-- The customers. -/
def customerRows : List Record := [
  customer 103 "Atelier graphique" "Schmitt" "France" 21000,
  customer 112 "Signal Gift Stores" "King" "USA" 71800,
  customer 114 "Australian Collectors, Co." "Ferguson" "Australia" 117300,
  customer 119 "La Rochelle Gifts" "Labrune" "France" 118200,
  customer 121 "Baane Mini Imports" "Bergulfsen" "Norway" 81700,
  customer 124 "Mini Gifts Distributors Ltd." "Nelson" "USA" 210500,
  customer 125 "Havel & Zbyszek Co" "Piestrzeniewicz" "Poland" 0,
  customer 128 "Blauer See Auto, Co." "Keitel" "Germany" 59700,
  customer 129 "Mini Wheels Co." "Murphy" "USA" 64600,
  customer 131 "Land of Toys Inc." "Lee" "USA" 114900,
  customer 141 "Euro+ Shopping Channel" "Freyre" "Spain" 227600,
  customer 144 "Volvo Model Replicas, Co" "Berglund" "Sweden" 53100,
  customer 146 "Saveley & Henriot, Co." "Saveley" "France" 123900]

/-- A row of the table of employees. -/
def employee (number : Int64) (last first title : String) (reportsTo : Option Int64) : Record :=
  [.integer number, .text last, .text first, .text title, toValue reportsTo]

/-- The employees. -/
def employeeRows : List Record := [
  employee 1002 "Murphy" "Diane" "President" none,
  employee 1056 "Patterson" "Mary" "VP Sales" (some 1002),
  employee 1076 "Firrelli" "Jeff" "VP Marketing" (some 1002),
  employee 1088 "Patterson" "William" "Sales Manager (APAC)" (some 1056),
  employee 1102 "Bondur" "Gerard" "Sale Manager (EMEA)" (some 1056),
  employee 1143 "Bow" "Anthony" "Sales Manager (NA)" (some 1056),
  employee 1165 "Jennings" "Leslie" "Sales Rep" (some 1143)]

/-- The sample database. -/
def store : Store where
  schemas := [informationSchema, sampleSchema]
  contents := [
    ((some schemaName, customers), customerRows),
    ((some schemaName, employees), employeeRows)]

end DataAccess.Sample
