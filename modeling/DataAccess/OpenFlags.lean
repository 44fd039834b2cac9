/-!
# Open flags: how a database is opened

A `DatabaseConfig` says where a database is kept, in a file or in memory, and with which flags it is
opened.
-/

namespace DataAccess

/-- The flags with which a database is opened. -/
structure OpenFlags where
  /-- Open for reading and writing. -/
  readWrite : Bool := false
  /-- Create the database if it is missing. -/
  create : Bool := false
  /-- Let several threads use one connection. -/
  fullMutex : Bool := false
  /-- Let each thread use connections of its own. -/
  noMutex : Bool := false
  /-- Share the cache between connections. -/
  sharedCache : Bool := false
  /-- Give each connection a cache of its own. -/
  privateCache : Bool := false
  /-- Read the path as an address. -/
  uri : Bool := false
deriving DecidableEq, Inhabited

namespace OpenFlags

/-- No flags. -/
def none : OpenFlags := {}

/-- The flags that are used when none are given. -/
def standard : OpenFlags :=
  { readWrite := true, create := true, fullMutex := true, uri := true }

/-- The names of the flags. -/
inductive Flag where
  | readWrite
  | create
  | fullMutex
  | noMutex
  | sharedCache
  | privateCache
  | uri
deriving DecidableEq, Inhabited

/-- The name of a flag. -/
def Flag.name : Flag → String
  | readWrite => "read_write"
  | create => "create"
  | fullMutex => "full_mutex"
  | noMutex => "no_mutex"
  | sharedCache => "shared_cache"
  | privateCache => "private_cache"
  | uri => "uri"

/-- All flags. -/
def Flag.all : List Flag :=
  [readWrite, create, fullMutex, noMutex, sharedCache, privateCache, uri]

/-- Sets one flag. -/
def set (f : OpenFlags) (value : Bool) : Flag → OpenFlags
  | .readWrite => { f with readWrite := value }
  | .create => { f with create := value }
  | .fullMutex => { f with fullMutex := value }
  | .noMutex => { f with noMutex := value }
  | .sharedCache => { f with sharedCache := value }
  | .privateCache => { f with privateCache := value }
  | .uri => { f with uri := value }

/-- Whether a flag is set. -/
def isSet (f : OpenFlags) : Flag → Bool
  | .readWrite => f.readWrite
  | .create => f.create
  | .fullMutex => f.fullMutex
  | .noMutex => f.noMutex
  | .sharedCache => f.sharedCache
  | .privateCache => f.privateCache
  | .uri => f.uri

/-- Setting a flag changes that flag alone. -/
theorem isSet_set (f : OpenFlags) (value : Bool) (a b : Flag) :
    (f.set value a).isSet b = if b = a then value else f.isSet b := by
  cases a <;> cases b <;> rfl

end OpenFlags

/-- Where a database is kept. -/
inductive DatabasePath where
  /-- In a file. -/
  | file (path : String)
  /-- In memory, under an address by which connections find it. -/
  | memory (address : String)
deriving DecidableEq, Inhabited

/-- Where a database is kept and how it is opened. -/
structure DatabaseConfig where
  /-- Where it is kept. -/
  path : DatabasePath
  /-- How it is opened. -/
  flags : OpenFlags := .standard
deriving DecidableEq, Inhabited

namespace DatabaseConfig

/-- A database in a file, which is created if it is missing. -/
def file (path : String) : DatabaseConfig := { path := .file path }

/-- A database in memory that is known by a name of its own. -/
def inMemory (name : String) : DatabaseConfig where
  path := .memory ("file:tabula-" ++ name ++ "?mode=memory&cache=shared")
  flags := { OpenFlags.standard with sharedCache := true }

end DatabaseConfig

end DataAccess
