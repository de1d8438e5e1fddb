/-! # Alignment

Text filled up with spaces to a least number of characters. -/

namespace StatementGate

/-- `s` at the right end of at least `width` characters. -/
def alignRight (width : Nat) (s : String) : String :=
  String.ofList (List.replicate (width - s.length) ' ') ++ s

end StatementGate
