import StatementGate.Proofs.Outcome
import StatementGate.Query.Statement

/-! # Writing from left to right

A writer that goes through an operand once and keeps, at every step, the text so far, the values
bound so far and the number of the next one. From any state it fails as the operand does, and else
adds the operand's pieces to what it has written. -/

namespace StatementGate

/-- What has been written of a statement. -/
structure Writer where
  text : String
  parameters : Parameters
  next : Nat

namespace Writer

def empty : Writer := ⟨"", .empty, 0⟩

def push (w : Writer) (s : String) : Writer := { w with text := w.text ++ s }

/-- Gives a value the next number and writes its placeholder. -/
def bind (w : Writer) (v : Scalar) : Writer where
  text := w.text ++ (":" ++ Piece.parameterName w.next)
  parameters := w.parameters.insert (Piece.parameterName w.next) v
  next := w.next + 1

def column (scope : Scope) (ref : ColumnRef) (w : Writer) : Except QueryError Writer := do
  let table ← scope.resolve ref
  let w := if ref.table.isSome || scope.isJoined then (w.push table).push "." else w
  pure (w.push ref.name)

mutual

def operand (scope : Scope) : Operand → Writer → Except QueryError Writer
  | .column ref, w => w.column scope ref
  | .literal value, w => .ok (w.bind value)
  | .function name arguments, w => do
    let f ← SqlFunction.ofCall name arguments.length
    let w ← operands scope true arguments ((w.push f.keyword).push "(")
    pure (w.push ")")
  | .window name _, _ => .error (.unsupportedWindow name)

/-- Operands with a comma before each but the first. -/
def operands (scope : Scope) : (first : Bool) → List Operand → Writer → Except QueryError Writer
  | _, [], w => .ok w
  | first, head :: rest, w => do
    let w ← operand scope head (if first then w else w.push ", ")
    operands scope false rest w

end

def piece (w : Writer) : Piece Scalar → Writer
  | .word s | .symbol s => w.push s
  | .space => w.push " "
  | .bind v => w.bind v

def write (w : Writer) (ps : Pieces) : Writer := ps.foldl piece w

theorem push_push (w : Writer) (s t : String) : (w.push s).push t = w.push (s ++ t) := by
  simp only [push, String.append_assoc]

theorem write_append (w : Writer) (ps qs : Pieces) : w.write (ps ++ qs) = (w.write ps).write qs :=
  List.foldl_append

theorem write_comma (w : Writer) : w.write Piece.comma = w.push ", " :=
  w.push_push "," " "

theorem write_parenthesized (w : Writer) (ps : Pieces) :
    w.write (Piece.parenthesized ps) = ((w.push "(").write ps).push ")" :=
  (w.push "(").write_append ps [.symbol ")"]

theorem column_eq (scope : Scope) (ref : ColumnRef) (w : Writer) :
    w.column scope ref = w.write <$> scope.column ref := by
  rw [column, Scope.column]
  cases scope.resolve ref with
  | error e => rfl
  | ok table =>
    change Except.ok ((if ref.table.isSome || scope.isJoined then _ else w).push ref.name) =
      w.write <$> if ref.table.isSome || scope.isJoined then Except.ok _ else Except.ok _
    split
    · rw [push_push, push_push, ← String.append_assoc]
      rfl
    · rfl

/-- Parts with a comma before each but the first, or before every one. -/
def listed (first : Bool) (parts : List Pieces) : Pieces :=
  if first then Piece.separated Piece.comma parts else parts.flatMap (Piece.comma ++ ·)

theorem listed_cons (first : Bool) (part : Pieces) (parts : List Pieces) :
    listed first (part :: parts) =
      (if first then [] else Piece.comma) ++ part ++ listed false parts := by
  cases first with
  | false => simp [listed]
  | true =>
    induction parts generalizing part with
    | nil => simp [listed, Piece.separated]
    | cons part' parts ih =>
      simp only [listed, Piece.separated, if_true, List.nil_append] at ih ⊢
      rw [ih]
      simp

mutual

/-- Writing an operand adds its pieces to what is there, whatever that is. -/
theorem operand_eq (scope : Scope) (op : Operand) (w : Writer) :
    w.operand scope op = w.write <$> op.render scope := by
  cases op with
  | column ref =>
    rw [operand, Operand.render]
    exact column_eq scope ref w
  | literal value =>
    rw [operand, Operand.render]
    rfl
  | function name arguments =>
    rw [operand, Operand.render]
    cases SqlFunction.ofCall name arguments.length with
    | error e => rfl
    | ok f =>
      change (operands scope true arguments _ >>= _) = _
      rw [operands_eq scope arguments]
      cases Operand.renderAll scope arguments with
      | error e => rfl
      | ok parts => exact congrArg Except.ok (write_parenthesized (w.push f.keyword) _).symm
  | window name partition =>
    rw [operand, Operand.render]
    rfl

theorem operands_eq (scope : Scope) (ops : List Operand) (first : Bool) (w : Writer) :
    w.operands scope first ops = (fun parts => w.write (listed first parts)) <$>
      Operand.renderAll scope ops := by
  cases ops with
  | nil =>
    rw [operands, Operand.renderAll]
    cases first <;> rfl
  | cons op rest =>
    rw [operands, Operand.renderAll, operand_eq scope op]
    cases op.render scope with
    | error e => rfl
    | ok part =>
      change operands scope false rest _ = _
      rw [operands_eq scope rest]
      cases Operand.renderAll scope rest with
      | error e => rfl
      | ok parts =>
        refine congrArg Except.ok ?_
        dsimp only
        rw [listed_cons, write_append, write_append]
        cases first with
        | false =>
          rw [← write_comma]
          rfl
        | true => rfl

end

theorem text_write (w : Writer) (ps : Pieces) :
    (w.write ps).text = w.text ++ Piece.textFrom w.next ps := by
  induction ps generalizing w with
  | nil => exact String.append_empty.symm
  | cons p ps ih =>
    change ((w.piece p).write ps).text = _
    rw [ih]
    cases p <;> simp only [piece, push, bind, Piece.textFrom, String.append_assoc]

theorem entries_write (w : Writer) (ps : Pieces) :
    (w.write ps).parameters.entries =
      (((Piece.values ps).zipIdx w.next).map fun (v, i) => (Piece.parameterName i, v)).foldl
        (fun sorted entry => Entries.put entry.1 entry.2 sorted) w.parameters.entries := by
  induction ps generalizing w with
  | nil => rfl
  | cons p ps ih =>
    change ((w.piece p).write ps).parameters.entries = _
    rw [ih]
    cases p <;> rfl

/-- A statement is what has been written of its pieces in the end. -/
theorem ofPieces_eq (ps : Pieces) (kind : StatementKind) (entity : Entity) :
    SerializedQuery.ofPieces ps kind entity =
      ⟨(empty.write ps).text, (empty.write ps).parameters, kind, entity.name⟩ := by
  have htext : (empty.write ps).text = Piece.text ps :=
    (text_write empty ps).trans String.empty_append
  have hparameters : (empty.write ps).parameters = Piece.parameters ps := by
    cases hw : (empty.write ps).parameters with
    | mk entries ascending =>
      have hentries := entries_write empty ps
      rw [hw] at hentries
      subst hentries
      rfl
  rw [SerializedQuery.ofPieces, htext, hparameters]

end Writer

end StatementGate
