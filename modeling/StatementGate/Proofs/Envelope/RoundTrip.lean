import StatementGate.Envelope.Request
import StatementGate.Envelope.Result
import StatementGate.Proofs.Json.Members
import StatementGate.Proofs.Wire.Encoding
import StatementGate.Store.Connection

/-! # Envelopes that lose nothing

A request whose parameters can be written is read as one that asks for the same and binds the same
cells: decimals and temporal values come back as text, and text is what they are bound as. A result
is read as itself. -/

namespace StatementGate

namespace Scalar

/-- A parameter that has a JSON: no infinity, and no moment outside the range of its text. -/
inductive Writable : Scalar → Prop
  | null : Writable .null
  | bool (b : Bool) : Writable (.bool b)
  | int (i : Int64) : Writable (.int i)
  | float {x : Binary64} (hfinite : x.isFinite = true) : Writable (.float x)
  | text (s : String) : Writable (.text s)
  | decimal (d : Decimal) : Writable (.decimal d)
  | timestamp {t : DateTime} (hyear : 0 ≤ t.date.year) (hday : t.offset.natAbs < 24 * 3600)
      (hminute : t.offset % 60 = 0) : Writable (.timestamp t)
  | date (d : Date) : Writable (.date d)

theorem encode_float_eq_ok {x : Binary64} {j : Json} :
    (float x).encode = .ok j ↔ x.isFinite = true ∧ j = .number (.float x) := by
  rw [encode]
  by_cases hfinite : x.isFinite = true
  · simp [hfinite, eq_comm]
  · simp [hfinite]

theorem encode_timestamp_eq_ok {t : DateTime} {j : Json} :
    (timestamp t).encode = .ok j ↔ ∃ s, t.render = .ok s ∧ j = .string s := by
  rw [encode]
  cases t.render with
  | error cause => simp
  | ok s => simp [eq_comm]

theorem writable_iff {v : Scalar} : v.Writable ↔ ∃ j, v.encode = .ok j := by
  constructor
  · intro h
    cases h with
    | float hfinite => exact ⟨_, encode_float_eq_ok.2 ⟨hfinite, rfl⟩⟩
    | timestamp hyear hday hminute =>
      exact ⟨_, encode_timestamp_eq_ok.2 ⟨_, DateTime.render_eq hyear hday hminute, rfl⟩⟩
    | _ => exact ⟨_, rfl⟩
  · rintro ⟨j, h⟩
    cases v with
    | null => exact .null
    | bool b => exact .bool b
    | int i => exact .int i
    | float x => exact .float (encode_float_eq_ok.1 h).1
    | text s => exact .text s
    | decimal d => exact .decimal d
    | timestamp t =>
      obtain ⟨s, hrender, -⟩ := encode_timestamp_eq_ok.1 h
      obtain ⟨hyear, hday, hminute⟩ := DateTime.bounds_of_render hrender
      exact .timestamp hyear hday hminute
    | date d => exact .date d

/-- What the JSON of a parameter is read as: its text, where it has one. -/
def reread (v : Scalar) : Scalar := (v.textForm.map text).getD v

theorem reread_of_textForm {v : Scalar} {s : String} (h : v.textForm = some s) :
    v.reread = .text s := by
  rw [reread, h]
  rfl

theorem decode?_of_encode {v : Scalar} {j : Json} (h : v.encode = .ok j) :
    decode? j = some v.reread := by
  cases v with
  | int i =>
    cases h
    rw [Json.int, decode?, if_pos (fitsInt64_toInt i), Int64.ofInt_toInt]
    rfl
  | float x =>
    obtain ⟨-, rfl⟩ := encode_float_eq_ok.1 h
    rfl
  | timestamp t =>
    obtain ⟨s, hrender, rfl⟩ := encode_timestamp_eq_ok.1 h
    have htext : (timestamp t).textForm = some s := congrArg Except.toOption hrender
    rw [reread_of_textForm htext]
    rfl
  | _ =>
    cases h
    rfl

/-- A text is bound as the textual value that it was written for. -/
theorem ofScalar_reread (v : Scalar) : Store.Cell.ofScalar v.reread = Store.Cell.ofScalar v := by
  cases v with
  | timestamp t =>
    cases htext : (timestamp t).textForm with
    | none => rw [reread, htext, Option.map_none, Option.getD_none]
    | some s => simp only [reread_of_textForm htext, Store.Cell.ofScalar, htext]
  | _ => rfl

end Scalar

namespace Parameters

theorem exists_encode {parameters : Parameters} (h : ∀ v ∈ parameters.values, v.Writable) :
    ∃ j, parameters.encode = .ok j := by
  have hentries : ∀ entry ∈ parameters.entries,
      ∃ member, (do pure (entry.1, ← entry.2.encode) : Except ScalarError (String × Json)) =
        .ok member := by
    intro entry hmem
    obtain ⟨j, hj⟩ := Scalar.writable_iff.1 (h entry.2 (List.mem_map_of_mem hmem))
    rw [hj]
    exact ⟨_, rfl⟩
  obtain ⟨members, hmembers⟩ := exists_mapM hentries
  exact ⟨.object members, bind_eq_ok.2 ⟨members, hmembers, rfl⟩⟩

/-- Parameters are read one by one, each under its name. -/
theorem keyMap?_of_encode {parameters : Parameters} {j : Json} (h : parameters.encode = .ok j) :
    Json.keyMap? Scalar.decode? j = some (parameters.map Scalar.reread) := by
  obtain ⟨members, hmembers, h⟩ := bind_eq_ok.1 h
  cases h
  rw [mapM_eq_ok] at hmembers
  apply Json.keyMap?_eq_some
  rw [KeyMap.map, List.forall₂_map_right_iff]
  refine (hmembers.imp fun entry member hmember => ?_).flip
  obtain ⟨j, hj, h⟩ := bind_eq_ok.1 hmember
  cases h
  exact ⟨rfl, Scalar.decode?_of_encode hj⟩

theorem bindValues_reread (parameters : Parameters) :
    Store.bindValues (parameters.map Scalar.reread) = Store.bindValues parameters := by
  rw [Store.bindValues, KeyMap.map, List.mapM_map]
  simp only [Function.comp_def, Scalar.ofScalar_reread]
  rfl

end Parameters

namespace ApprovalContext

theorem decode?_encode (c : ApprovalContext) : decode? c.encode = some c := by
  have hread : shape.read? c.encode = some c.encode := by
    apply RecordShape.read?_object
    · simp
    · simp [RecordShape.names, shape]
    · simp [shape]
  have hreason : c.encode.need? "reason" Json.string? = some c.reason := rfl
  have hdescriptions : c.encode.field? "entityDescriptions" (Json.keyMap? Json.string?)
      KeyMap.empty = some c.entityDescriptions := by
    apply Json.keyMap?_eq_some
    rw [KeyMap.map, List.forall₂_map_left_iff]
    exact List.forall₂_same.2 fun _ _ => ⟨rfl, rfl⟩
  simp only [decode?, hread, hreason, hdescriptions, Option.bind_eq_bind, Option.bind_some,
    Option.pure_def]

end ApprovalContext

namespace ExecuteRequest

/-- Requests that ask for the same and bind the same cells. -/
structure SameExecution (r r' : ExecuteRequest) : Prop where
  sql : r'.sql = r.sql
  databaseId : r'.databaseId = r.databaseId
  writeIntent : r'.writeIntent = r.writeIntent
  approvalContext : r'.approvalContext = r.approvalContext
  entityType : r'.entityType = r.entityType
  parameterNames : r'.parameterNames = r.parameterNames
  cells : ∀ name, (r'.parameters.get? name).map Store.Cell.ofScalar =
    (r.parameters.get? name).map Store.Cell.ofScalar
  bound : Store.bindValues r'.parameters = Store.bindValues r.parameters

theorem exists_encode {r : ExecuteRequest} (h : ∀ v ∈ r.parameters.values, v.Writable) :
    ∃ j, r.encode = .ok j := by
  obtain ⟨parameters, hparameters⟩ := Parameters.exists_encode h
  exact ⟨_, bind_eq_ok.2 ⟨parameters, hparameters, rfl⟩⟩

/-- The request as it is read. -/
def reread (r : ExecuteRequest) : ExecuteRequest :=
  { r with parameters := r.parameters.map Scalar.reread }

theorem sameExecution_reread (r : ExecuteRequest) : r.SameExecution r.reread where
  sql := rfl
  databaseId := rfl
  writeIntent := rfl
  approvalContext := rfl
  entityType := rfl
  parameterNames := KeyMap.keys_map _ _
  cells name := by
    rw [reread, KeyMap.get?_map, Option.map_map]
    exact congrArg (Option.map · _) (funext Scalar.ofScalar_reread)
  bound := r.parameters.bindValues_reread

/-- The members of a request's JSON are found under their names. -/
theorem lookup_members (context entityType : Option Json) (databaseId parameters sql intent : Json) :
    let members := optionalMember "approvalContext" context ++ [("databaseId", databaseId)] ++
      optionalMember "entityType" entityType ++
      [("parameters", parameters), ("sqlText", sql), ("writeIntent", intent)]
    shape.read? (.object members) = some (.object members) ∧
      members.lookup "approvalContext" = context ∧ members.lookup "databaseId" = some databaseId ∧
      members.lookup "entityType" = entityType ∧ members.lookup "parameters" = some parameters ∧
      members.lookup "sqlText" = some sql ∧ members.lookup "writeIntent" = some intent := by
  refine ⟨RecordShape.read?_object ?_ ?_ ?_, ?_⟩
  all_goals cases context <;> cases entityType
  all_goals simp [optionalMember, RecordShape.names, shape, List.lookup_cons]

theorem decode?_of_encode {r : ExecuteRequest} {j : Json} (h : r.encode = .ok j) :
    decode? j = some r.reread := by
  obtain ⟨parameters, hparameters, h⟩ := bind_eq_ok.1 h
  cases h
  obtain ⟨hread, hcontext, hdatabase, hentity, hmember, hsql, hintent⟩ :=
    lookup_members (r.approvalContext.map ApprovalContext.encode) (r.entityType.map .string)
      (.string r.databaseId) parameters (.string r.sql) (.bool r.writeIntent)
  replace hsql := Json.need?_of_lookup hsql Json.string?
  replace hdatabase := Json.need?_of_lookup hdatabase Json.string?
  replace hintent := Json.field?_of_lookup hintent Json.bool? false
  replace hmember := Json.field?_of_lookup hmember (Json.keyMap? Scalar.decode?) KeyMap.empty
  replace hcontext := Json.field?_of_optional hcontext (fun _ => Json.noConfusion)
    fun c _ => c.decode?_encode
  replace hentity := Json.field?_of_optional hentity (fun _ => Json.noConfusion)
    fun _ _ => (rfl : Json.string? (.string _) = _)
  rw [Parameters.keyMap?_of_encode hparameters] at hmember
  simp only [decode?, hread, hsql, hmember, hdatabase, hintent, hcontext, hentity, Json.string?,
    Json.bool?, Option.bind_eq_bind, Option.bind_some, Option.pure_def]
  rfl

end ExecuteRequest

namespace ExecutionResult

/-- A result as JSON holds it: the objects in its rows are in key order, its count is one word. -/
structure Representable (r : ExecutionResult) : Prop where
  rows : ∀ rows, r.rows = some rows → ∀ row ∈ rows, row.Ordered
  rowsAffected : ∀ count, r.rowsAffected = some count → count < UInt64.size

theorem decode?_encode {r : ExecutionResult} (h : r.Representable) : decode? r.encode = some r := by
  have hread : shape.read? r.encode = some r.encode := by
    apply RecordShape.read?_object
    · simp
    · simp [RecordShape.names, shape]
    · simp [shape]
  have hexecuted : r.encode.need? "executed" Json.bool? = some r.executed := rfl
  have happroved : r.encode.need? "approved" (Json.optional? Json.bool?) = some r.approved :=
    Json.optional?_ofOption (fun _ => Json.noConfusion) fun _ _ => rfl
  have hrows : r.encode.need? "rows" (Json.optional? Json.array?) = some r.rows :=
    Json.optional?_ofOption (fun _ => Json.noConfusion) fun _ _ => rfl
  have herror : r.encode.need? "error" (Json.optional? Json.string?) = some r.error :=
    Json.optional?_ofOption (fun _ => Json.noConfusion) fun _ _ => rfl
  have hid : r.encode.field? "requestId" (Json.optional? Json.string?) none = some r.requestId :=
    Json.optional?_ofOption (fun _ => Json.noConfusion) fun _ _ => rfl
  have hcount : r.encode.field? "rowsAffected" (Json.optional? (Json.nat? (UInt64.size - 1))) none =
      some r.rowsAffected := by
    cases hcount : r.rowsAffected with
    | none =>
      simp only [encode, hcount]
      rfl
    | some count =>
      have hlimit := Nat.le_sub_one_of_lt (h.rowsAffected count hcount)
      simp only [encode, hcount]
      exact congrArg (Option.map some) (Json.nat?_int hlimit)
  have hnormal : r.rows.map (·.map Json.normalize) = r.rows := by
    cases hrows : r.rows with
    | none => rfl
    | some rows =>
      have hsame : ∀ row ∈ rows, row.normalize = row :=
        fun row hmem => (h.rows rows hrows row hmem).normalize_eq
      rw [Option.map_some, List.map_congr_left hsame, List.map_id']
  simp only [decode?, hread, hexecuted, happroved, hrows, herror, hcount, hid, hnormal,
    Option.bind_eq_bind, Option.bind_some, Option.pure_def]

end ExecutionResult

/-- A request whose parameters can be written is read from its JSON as one that executes alike, and
a result is read from its JSON as itself. -/
theorem envelopes_lossless :
    (∀ request : ExecuteRequest, (∀ v ∈ request.parameters.values, v.Writable) →
      ∃ j read, request.encode = .ok j ∧ ExecuteRequest.decode? j = some read ∧
        request.SameExecution read) ∧
    ∀ result : ExecutionResult, result.Representable →
      ExecutionResult.decode? result.encode = some result := by
  refine ⟨fun request hwritable => ?_, fun result hresult => ExecutionResult.decode?_encode hresult⟩
  obtain ⟨j, hencode⟩ := ExecuteRequest.exists_encode hwritable
  exact ⟨j, request.reread, hencode, ExecuteRequest.decode?_of_encode hencode,
    request.sameExecution_reread⟩

/-- Half an hour before midnight on a leap day, in a zone of its own. -/
def lateOnLeapDay : DateTime where
  date := ⟨2024, 2, 29, by decide, by decide, by decide⟩
  hour := 23
  minute := 30
  second := 0
  nanosecond := 250000000
  offset := -12600
  time_bounds := by decide
  offset_bounds := by decide

/-- A write with a parameter of every kind. -/
def settlement : ExecuteRequest where
  sql := "UPDATE invoice SET paid = :paid, total = :total, rate = :rate, note = :note " ++
    "WHERE id = :id AND due < :due AND late = :late AND term = :term"
  parameters := KeyMap.ofList [("id", .int Int64.minValue), ("paid", .timestamp lateOnLeapDay),
    ("total", .decimal ⟨1250, 2⟩), ("due", .date lateOnLeapDay.date), ("note", .null),
    ("rate", .float (Binary64.zero true)), ("late", .bool false), ("term", .text "2024-02-29")]
  databaseId := "main"
  writeIntent := true
  approvalContext := some ((ApprovalContext.ofReason "settled").describe "invoice" "the late one")
  entityType := none

theorem settlement_writable : ∀ v ∈ settlement.parameters.values, v.Writable := by
  intro v hv
  obtain ⟨entry, hentry, rfl⟩ := List.mem_map.1 hv
  have hmem := (Entries.mem_of_mem_putAll hentry).resolve_right List.not_mem_nil
  simp only [List.mem_cons, List.not_mem_nil, or_false] at hmem
  rcases hmem with rfl | rfl | rfl | rfl | rfl | rfl | rfl | rfl
  · exact .int _
  · exact .timestamp (by decide) (by decide) (by decide)
  · exact .decimal _
  · exact .date _
  · exact .null
  · exact .float (by decide)
  · exact .bool _
  · exact .text _

def invoiceLine : Json := .object [("note", .null), ("sum", .string "12.50")]

def invoices : ExecutionResult :=
  .read [.object [("id", .int 7), ("lines", .array [invoiceLine])]] (requestId 1)

theorem invoiceLine_ordered : invoiceLine.Ordered := by
  apply Json.Ordered.object
  · exact List.pairwise_pair.2 (by decide)
  · simp only [List.forall_mem_cons]
    exact ⟨.null, .string _, List.forall_mem_nil _⟩

theorem invoices_representable : invoices.Representable where
  rows rows h row hrow := by
    cases h
    cases List.mem_singleton.1 hrow
    apply Json.Ordered.object
    · exact List.pairwise_pair.2 (by decide)
    · simp only [List.forall_mem_cons]
      refine ⟨.number _, .array ?_, List.forall_mem_nil _⟩
      exact List.forall_mem_singleton.2 invoiceLine_ordered
  rowsAffected count h := nomatch h

theorem settlement_lossless :
    (∀ v ∈ settlement.parameters.values, v.Writable) ∧ invoices.Representable ∧
    (∃ j read, settlement.encode = .ok j ∧ ExecuteRequest.decode? j = some read ∧
      settlement.SameExecution read) ∧
    ExecutionResult.decode? invoices.encode = some invoices :=
  ⟨settlement_writable, invoices_representable, envelopes_lossless.1 settlement settlement_writable,
    envelopes_lossless.2 invoices invoices_representable⟩

end StatementGate
