/-!
Tickets: numbers that tell the latest request from earlier ones.
-/

namespace CaseForm

/-- The number of a request. -/
structure Ticket where
  seq : Nat
  deriving DecidableEq, Repr, Inhabited

/-- The tickets issued so far, by the last of them. -/
structure Tickets where
  latest : Nat := 0
  deriving DecidableEq, Repr, Inhabited

namespace Tickets

/-- Issues a ticket above all earlier ones. -/
def issue (tickets : Tickets) : Ticket × Tickets := (⟨tickets.latest + 1⟩, ⟨tickets.latest + 1⟩)

/-- Whether no ticket has been issued since. -/
def isLatest (tickets : Tickets) (ticket : Ticket) : Bool := ticket.seq == tickets.latest

end Tickets

end CaseForm
