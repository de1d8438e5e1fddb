import StatementGate.Gateway.Handle

/-! # Open gateways

A gateway that is ready to serve: every database of its catalog is open, and the time that a
decision on a write may take is set. -/

namespace StatementGate

/-- An open database, with what its files were opened as. -/
structure Backend (Connection : Type) where
  connection : Connection
  readOnly : Bool

/-- An approval waits for its decision for `approvalTimeout` milliseconds. -/
structure OpenGateway (Connection : Type) where
  catalog : KeyMap (Backend Connection)
  sanitizers : SanitizerRegistry
  approvalTimeout : Nat

namespace OpenGateway

variable {Connection : Type}

/-- What the programs of requests depend on: no more of a backend than whether it is read-only. -/
def gateway (g : OpenGateway Connection) : Gateway :=
  ⟨g.catalog.map (·.readOnly), g.sanitizers⟩

instance : CoeOut (OpenGateway Connection) Gateway := ⟨gateway⟩

end OpenGateway

end StatementGate
