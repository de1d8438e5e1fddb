import StatementGate.Approval.Prompt
import StatementGate.Approval.State
import StatementGate.Text.CharClass
import StatementGate.Text.Ascii
import StatementGate.Text.Utf8

/-! # Approval at a terminal

A console that one request holds at a time. Its input arrives in chunks; what was buffered before a
prompt appears is discarded, and only a line that names the request approves it. -/

namespace StatementGate

/-- What reading the console's input meets next. An empty chunk of bytes is the end of input, and
`blocked` input that has not arrived yet. -/
inductive InputChunk where
  | bytes (content : List UInt8)
  | blocked
  | failure (reason : String)
  deriving DecidableEq

/-- The write of the given number fails, counted from one. -/
structure Console where
  buffer : List UInt8
  input : List InputChunk
  output : String
  writes : Nat
  failingWrite : Option Nat

/-- Bytes that one read takes in; the rest of a longer chunk is lost. -/
def maxReadBytes : Nat := 8192

inductive LineRead where
  | line (bytes : List UInt8)
  | closed
  | failed (reason : String)
  | waiting
  deriving DecidableEq

namespace Console

def ofInput (input : List InputChunk) (failingWrite : Option Nat) : Console :=
  ⟨[], input, "", 0, failingWrite⟩

def discardBuffered (c : Console) : Console := { c with buffer := [] }

def terminalGone : ApprovalError := .unavailable "terminal gone"

def write (c : Console) (text : String) : Except ApprovalError Unit × Console :=
  let c := { c with writes := c.writes + 1 }
  if c.failingWrite = some c.writes then (.error terminalGone, c)
  else (.ok (), { c with output := c.output ++ text })

/-- The bytes up to the first line feed, and those behind it. -/
def takeLine? : List UInt8 → Option (List UInt8 × List UInt8)
  | [] => none
  | b :: rest =>
    if b = 10 then some ([b], rest)
    else (takeLine? rest).map fun (line, rest) => (b :: line, rest)

/-- The end of input ends a line that has begun. -/
def atEnd (line : List UInt8) : LineRead := if line.isEmpty then .closed else .line line

/-- Completes a line of which the given bytes are read; returns what is left in the buffer and of
the input. -/
def completeLine (line : List UInt8) :
    List InputChunk → LineRead × List UInt8 × List InputChunk
  | [] => (atEnd line, [], [])
  | .bytes content :: input =>
    if content.isEmpty then (atEnd line, [], input)
    else
      match takeLine? (content.take maxReadBytes) with
      | some (tail, rest) => (.line (line ++ tail), rest, input)
      | none => completeLine (line ++ content.take maxReadBytes) input
  | .blocked :: input => (.waiting, [], .blocked :: input)
  | .failure reason :: input => (.failed reason, [], input)

/-- The next line with its line feed, which the last one may lack. -/
def readLine (c : Console) : LineRead × Console :=
  match takeLine? c.buffer with
  | some (line, rest) => (.line line, { c with buffer := rest })
  | none =>
    let (read, buffer, input) := completeLine c.buffer c.input
    (read, { c with buffer, input })

private def chunkSize : InputChunk → Nat
  | .bytes content => content.length + 1
  | _ => 1

private def inputSize : List InputChunk → Nat
  | [] => 0
  | chunk :: rest => chunkSize chunk + inputSize rest

/-- Bytes and chunks that are still to be read. -/
def unread (c : Console) : Nat := c.buffer.length + inputSize c.input

private theorem takeLine_length {bytes line rest : List UInt8}
    (h : takeLine? bytes = some (line, rest)) : rest.length < bytes.length := by
  induction bytes generalizing line with
  | nil => simp [takeLine?] at h
  | cons b bytes ih =>
    unfold takeLine? at h
    split at h
    · simp only [Option.some.injEq, Prod.mk.injEq] at h
      simp [h.2]
    · obtain ⟨⟨line', rest'⟩, htail, heq⟩ := Option.map_eq_some_iff.1 h
      simp only [Prod.mk.injEq] at heq
      have := ih (heq.2 ▸ htail)
      simp
      omega

private theorem atEnd_line {line bytes : List UInt8} (h : atEnd line = .line bytes) :
    0 < line.length := by
  unfold atEnd at h
  split at h
  · simp at h
  · exact List.length_pos_iff.2 (by simpa using ‹¬line.isEmpty = true›)

private theorem completeLine_size {line bytes buffer : List UInt8} {input rest : List InputChunk}
    (h : completeLine line input = (.line bytes, buffer, rest)) :
    buffer.length + inputSize rest < line.length + inputSize input := by
  fun_induction completeLine line input with
  | case1 line =>
    simp only [Prod.mk.injEq] at h
    have := atEnd_line h.1
    simp [← h.2.1, ← h.2.2]
    omega
  | case2 line content input hempty =>
    simp only [Prod.mk.injEq] at h
    simp [← h.2.1, ← h.2.2, inputSize, chunkSize]
    omega
  | case3 line content input hne tail left htake =>
    simp only [Prod.mk.injEq] at h
    have := takeLine_length htake
    simp [← h.2.1, ← h.2.2, inputSize, chunkSize, List.length_take] at this ⊢
    omega
  | case4 line content input hne htake ih =>
    have := ih h
    simp [inputSize, chunkSize, List.length_take] at this ⊢
    omega
  | case5 => simp at h
  | case6 => simp at h

theorem unread_readLine {c c' : Console} {bytes : List UInt8}
    (h : c.readLine = (.line bytes, c')) : c'.unread < c.unread := by
  unfold readLine at h
  split at h
  · rename_i htake
    simp only [Prod.mk.injEq] at h
    have := takeLine_length htake
    simp [← h.2, unread]
    omega
  · simp only [Prod.mk.injEq] at h
    rw [← h.2]
    exact completeLine_size (Prod.ext h.1 (Prod.ext rfl rfl))

theorem unread_write {c c' : Console} {text : String} {result : Except ApprovalError Unit}
    (h : c.write text = (result, c')) : c'.unread = c.unread := by
  unfold write at h
  dsimp only at h
  split at h <;> simp only [Prod.mk.injEq] at h <;> rw [← h.2] <;> rfl

end Console

/-- What a line says about the request that holds the console. -/
inductive OperatorReply where
  | decided (decision : Decision)
  | otherRequest
  | missingId
  deriving DecidableEq

namespace OperatorReply

def isYes (word : String) : Bool :=
  let word := Ascii.lower word
  word == "y" || word == "yes"

def ofLine (line requestId : String) : OperatorReply :=
  match wordsOf line with
  | [] => .decided .rejected
  | [answer] => if isYes answer then .missingId else .decided .rejected
  | [answer, id] =>
    if id ≠ requestId then .otherRequest
    else .decided (if isYes answer then .approved else .rejected)
  | _ => .otherRequest

end OperatorReply

inductive TerminalAnswer where
  | decided (decision : Decision)
  | failed (error : ApprovalError)
  | waiting
  deriving DecidableEq

namespace Console

/-- Shows the prompt of a request that gets hold of the console. -/
def surface (c : Console) (r : ApprovalRequest) : Except ApprovalError Unit × Console :=
  c.discardBuffered.write r.prompt

/-- The next line as text, or the end of a prompt that gets none. -/
def readText (c : Console) : Except TerminalAnswer String × Console :=
  match c.readLine with
  | (.waiting, c) => (.error .waiting, c)
  | (.closed, c) => (.error (.failed (.unavailable "operator input closed")), c)
  | (.failed reason, c) => (.error (.failed (.unavailable reason)), c)
  | (.line bytes, c) =>
    match Utf8.decode bytes with
    | .error error => (.error (.failed (.unavailable error.message)), c)
    | .ok line => (.ok line, c)

/-- What a line brings to the prompt of a request; nothing if the prompt goes on. -/
def hear (c : Console) (requestId line : String) : Option TerminalAnswer × Console :=
  match OperatorReply.ofLine line requestId with
  | .decided decision => (some (.decided decision), c)
  | .otherRequest => (none, c)
  | .missingId =>
    match c.write (ApprovalRequest.reminder requestId) with
    | (.ok (), c) => (none, c)
    | (.error error, c) => (some (.failed error), c)

theorem readText_ok {c c' : Console} {line : String} (h : c.readText = (.ok line, c')) :
    ∃ bytes, c.readLine = (.line bytes, c') ∧ Utf8.decode bytes = .ok line := by
  unfold readText at h
  split at h
  any_goals cases h
  split at h
  · cases h
  · cases h
    exact ⟨_, by assumption, by assumption⟩

theorem unread_hear {c c' : Console} {requestId line : String} {answer : Option TerminalAnswer}
    (h : c.hear requestId line = (answer, c')) : c'.unread = c.unread := by
  unfold hear at h
  split at h
  · cases h
    rfl
  · cases h
    rfl
  · split at h
    all_goals
      cases h
      exact unread_write (by assumption)

/-- Reads lines until one decides the request. -/
def answer (c : Console) (requestId : String) : TerminalAnswer × Console :=
  match _hread : c.readText with
  | (.error answer, c) => (answer, c)
  | (.ok line, next) =>
    match _hhear : next.hear requestId line with
    | (some answer, next) => (answer, next)
    | (none, next) => answer next requestId
termination_by c.unread
decreasing_by
  obtain ⟨bytes, hread, _⟩ := readText_ok _hread
  have := unread_readLine hread
  have := unread_hear _hhear
  omega

end Console

end StatementGate
