import DataAccess.Text.Blank
import DataAccess.Text.Numeral

/-!
# Products: the databases that speak SQL

A `Product` is the name and version that a source reports. Some names are those of a known `Vendor`,
whose dialect is known too.
-/

namespace DataAccess.Dialect

/-- The makers of databases whose dialect is known. -/
inductive Vendor where
  | sqlServer
  | oracle
  | sqlite
  | postgres
  | mysql
  | mariadb
  | h2
  | hsqldb
deriving DecidableEq, Inhabited

namespace Vendor

/-- The product name that a vendor's databases report. -/
def productName : Vendor → String
  | sqlServer => "Microsoft SQL Server"
  | oracle => "Oracle"
  | sqlite => "SQLite"
  | postgres => "PostgreSQL"
  | mysql => "MySQL"
  | mariadb => "MariaDB"
  | h2 => "H2"
  | hsqldb => "HSQL Database Engine"

/-- All vendors. -/
def all : List Vendor := [sqlServer, oracle, sqlite, postgres, mysql, mariadb, h2, hsqldb]

/-- The vendor of that product name. -/
def ofName? (name : String) : Option Vendor :=
  all.find? fun v => v.productName == name

end Vendor

/-- What a source reports about itself. -/
structure Product where
  /-- The name. -/
  name : String
  /-- The version. -/
  version : String
deriving DecidableEq, Inhabited

namespace Product

/-- The maker whose `productName` is the name of the product, if known. -/
def vendor? (p : Product) : Option Vendor := Vendor.ofName? p.name

/-- The number before the first point of the version (`Text.readUInt32?`), zero if there is no point
or no number. -/
def majorVersion (p : Product) : Nat :=
  let cs := p.version.toList
  if cs.contains '.' then
    ((Text.readUInt32? (Text.trimChars (cs.takeWhile (· != '.')))).map (·.toNat)).getD 0
  else
    0

/-- Name and version. -/
def display (p : Product) : String := p.name ++ " " ++ p.version

end Product

end DataAccess.Dialect
