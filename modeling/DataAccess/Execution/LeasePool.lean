import DataAccess.Error

/-!
# Lease pool: the connections of one compiled query

A `LeasePool` lends connections. A connection is idle in the pool, or lent under a lease, or closed.
The idle connections are lent again, the last returned first, before new ones are opened.

Opening a connection takes time, during which others may use the pool. So lending is in two steps:
`reserve` sets the lease aside and `complete` settles it when the connection is open or could not be
opened. Each function here is one atomic step. Steps that take connections out of use give them to
the caller to be closed.
-/

namespace DataAccess.Execution

/-- The identity of an open connection. -/
abbrev ConnectionId := Nat

/-- The error of a query that is closed. -/
def closedQuery : Error := .illegalState "Compiled query has been closed"

/-- The connections that one compiled query has opened. Those that are lent are counted in `active`,
not listed. -/
structure LeasePool where
  /-- The connections that are not lent, the last returned first. -/
  idle : List ConnectionId := []
  /-- The number of leases, those that are set aside included. -/
  active : Nat := 0
  /-- The number of connections opened. -/
  created : Nat := 0
  /-- The number of connections closed. -/
  destroyed : Nat := 0
  /-- Whether the pool is closed. -/
  closed : Bool := false
deriving DecidableEq, Inhabited

/-- A lease that is set aside, by `reserve`, before it is known whether a connection can be
opened. -/
inductive Reservation where
  /-- For a connection that was idle. -/
  | reused (c : ConnectionId)
  /-- For a connection that has yet to be opened. -/
  | opening
deriving DecidableEq, Inhabited

namespace LeasePool

/-- Sets a lease aside: of the last idle connection, or else for a new one, which is counted in
`created` from now on. A closed pool refuses with `closedQuery`. -/
def reserve (p : LeasePool) : Except Error Reservation × LeasePool :=
  if p.closed then (.error closedQuery, p)
  else match p.idle with
    | c :: rest => (.ok (.reused c), { p with active := p.active + 1, idle := rest })
    | [] => (.ok .opening, { p with active := p.active + 1, created := p.created + 1 })

/-- Settles a lease for a new connection. A connection that failed is not counted as `created`. If
the pool was closed meanwhile, the connection is given back to be closed, as `destroyed`. -/
def complete (p : LeasePool) (outcome : Except Error ConnectionId) :
    Except Error ConnectionId × List ConnectionId × LeasePool :=
  match outcome with
  | .ok c =>
      if p.closed then
        (.error closedQuery, [c], { p with active := p.active - 1, destroyed := p.destroyed + 1 })
      else
        (.ok c, [], p)
  | .error e => (.error e, [], { p with active := p.active - 1, created := p.created - 1 })

/-- Ends a lease. The connection becomes the first idle one, or is given back to be closed, as
`destroyed`, if the pool is closed. -/
def release (p : LeasePool) (c : ConnectionId) : List ConnectionId × LeasePool :=
  if p.closed then ([c], { p with active := p.active - 1, destroyed := p.destroyed + 1 })
  else ([], { p with active := p.active - 1, idle := c :: p.idle })

/-- Closes the pool. Its idle connections are given back to be closed, the first returned first, and
are counted as `destroyed`. A second time does nothing. -/
def close (p : LeasePool) : List ConnectionId × LeasePool :=
  if p.closed then ([], p)
  else (p.idle.reverse,
    { p with idle := [], destroyed := p.destroyed + p.idle.length, closed := true })

/-- Gives up the pool. Its idle connections are given back to be closed, and nothing is counted. -/
def drop (p : LeasePool) : List ConnectionId × LeasePool :=
  (p.idle.reverse, { p with idle := [] })

/-- The counters of a pool as they are shown for inspection. -/
def inspect (p : LeasePool) : String :=
  "LeaseStats \x7b active: " ++ toString p.active ++ ", idle: " ++ toString p.idle.length ++
    ", created: " ++ toString p.created ++ ", destroyed: " ++ toString p.destroyed ++ " \x7d"

end LeasePool

end DataAccess.Execution
