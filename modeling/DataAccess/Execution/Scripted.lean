import DataAccess.Catalog.Scripted
import DataAccess.Execution.Source

/-!
# Scripted sources: connections that follow a script

A `ScriptedSource` has plans for the connections that it is asked to open and for the statements
that it is asked to execute, and uses them up one by one. It records what it was asked to do. A plan
that is missing stands for success: a connection that opens, and a statement without rows.
-/

namespace DataAccess.Execution

open Catalog Dialect Streaming

/-- What comes of opening a connection. -/
inductive ConnectPlan where
  /-- It opens. -/
  | accept
  /-- It opens, and the query for which it was opened is closed meanwhile. -/
  | acceptAfterClose
  /-- It fails. -/
  | refuse (e : Error)
deriving Inhabited

/-- What comes of executing a statement: an error, or rows and errors in turn. -/
abbrev ExecutePlan := Except Error (List (Except Error Record))

/-- What a source was asked to do. -/
inductive SourceEvent where
  /-- A connection was refused. -/
  | refused
  /-- A connection was opened. -/
  | connected (c : ConnectionId)
  /-- A statement was executed. -/
  | executed (c : ConnectionId) (statement : Statement)
  /-- A connection was closed. -/
  | closed (c : ConnectionId)
deriving Inhabited

/-- A source that follows a script, and keeps a record of its `events`. Where a list of plans is
used up, connections open and statements give no rows. -/
structure ScriptedSource where
  /-- The source of its schemas. -/
  catalog : ScriptedCatalog
  /-- The product that it reports. -/
  product : Except Error Product
  /-- The plans for connections. -/
  connects : List ConnectPlan := []
  /-- The plans for statements. -/
  executes : List ExecutePlan := []
  /-- The number of connections opened. -/
  opened : Nat := 0
  /-- The events, the last one first. -/
  events : List SourceEvent := []

namespace ScriptedSource

/-- Records an event. -/
def record (s : ScriptedSource) (e : SourceEvent) : ScriptedSource :=
  { s with events := e :: s.events }

/-- Answers a question about schemas. -/
def answer : Answering ScriptedSource := fun call site =>
  let (answer, inner) := ScriptedCatalog.answer call ⟨site.registry, site.source.catalog⟩
  (answer, ⟨inner.registry, { site.source with catalog := inner.source }⟩)

/-- Opens a connection under the number `s.opened`. -/
def accept (s : ScriptedSource) (closedMeanwhile : Bool) : Opening × ScriptedSource :=
  (⟨.ok s.opened, closedMeanwhile⟩,
    { s with opened := s.opened + 1 }.record (.connected s.opened))

/-- Opens a connection as planned by the first of `connects`. -/
def connect (s : ScriptedSource) : Opening × ScriptedSource :=
  let plan := s.connects.headD .accept
  let s := { s with connects := s.connects.tail }
  match plan with
  | .accept => s.accept false
  | .acceptAfterClose => s.accept true
  | .refuse e => (⟨.error e, false⟩, s.record .refused)

/-- Executes a statement as planned by the first of `executes`. -/
def execute (c : ConnectionId) (statement : Statement) (s : ScriptedSource) :
    Except Error Cursor × ScriptedSource :=
  ((s.executes.headD (.ok [])).map .script,
    { s with executes := s.executes.tail }.record (.executed c statement))

/-- The source of a script. It accepts no changes. -/
def source : Source ScriptedSource where
  product s := s.product
  answer := answer
  connect := connect
  execute := execute
  close c s := s.record (.closed c)
  update u s := (.error u.notAccepted, s)

end ScriptedSource

end DataAccess.Execution
