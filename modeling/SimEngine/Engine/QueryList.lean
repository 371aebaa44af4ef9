import SimEngine.Signature
/-!
# Query lists

Queries that a system wants delivered in every step. During a delivery the
queries taken out for it are in flight: those cancelled meanwhile are marked,
and queries registered meanwhile wait for the next delivery.
-/

namespace SimEngine

/-- A query to be delivered. -/
structure PendingQuery (κ : Type) where
  id : Nat
  signature : Signature
  callback : κ

/-- The queries of one system. -/
structure QueryList (κ : Type) where
  /-- The number of the last query; a counter of 64 bits agrees with it below `2 ^ 64`. -/
  lastId : Nat
  queries : List (PendingQuery κ)
  /-- The numbers of the queries taken out for the delivery in progress. -/
  inFlight : List Nat
  /-- Those of them that were cancelled meanwhile. -/
  cancelled : List Nat

namespace QueryList

variable {κ : Type}

/-- A list without queries. -/
def empty : QueryList κ := ⟨0, [], [], []⟩

instance : Inhabited (QueryList κ) := ⟨empty⟩

/-- Adds a query behind the others; its number is `lastId` of the result. -/
def register (l : QueryList κ) (signature : Signature) (callback : κ) : QueryList κ :=
  { l with
    lastId := l.lastId + 1
    queries := l.queries ++ [⟨l.lastId + 1, signature, callback⟩] }

/-- Whether a query of that number waits for a delivery. -/
def isWaiting (l : QueryList κ) (id : Nat) : Bool :=
  l.queries.any fun q => q.id == id

/-- Cancels a query; tells whether it was registered. -/
def cancel (l : QueryList κ) (id : Nat) : Bool × QueryList κ :=
  if l.isWaiting id then
    (true, { l with queries := l.queries.eraseP fun q => q.id == id })
  else if id ∈ l.inFlight ∧ id ∉ l.cancelled then
    (true, { l with cancelled := l.cancelled ++ [id] })
  else
    (false, l)

/-- Cancels every query. -/
def clear (l : QueryList κ) : QueryList κ :=
  { l with
    queries := []
    cancelled := l.cancelled ++ l.inFlight.filter fun id => id ∉ l.cancelled }

/-- The number of queries registered and not cancelled. -/
def size (l : QueryList κ) : Nat :=
  l.queries.length + l.inFlight.length - l.cancelled.length

/-- The list while its queries are being delivered. -/
def depart (l : QueryList κ) : QueryList κ :=
  { l with queries := [], inFlight := l.queries.map PendingQuery.id }

/-- The list after the delivery of `taken`. -/
def settle (l : QueryList κ) (taken : List (PendingQuery κ)) : QueryList κ :=
  { l with
    queries := (taken.filter fun q => q.id ∉ l.cancelled) ++ l.queries
    inFlight := []
    cancelled := [] }

end QueryList
end SimEngine
