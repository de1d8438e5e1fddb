import Mathlib.Data.List.Forall2
import Mathlib.Data.List.Infix
import StatementGate.Approval.Terminal

/-! # Prompts at one console

Requests are prompted one after another at a console. The operator's input, the order of the steps and
the moments at which a prompt is cut off are those of whoever drives the sitting. A request is
approved only by a line that names it, and no line serves two prompts. -/

namespace StatementGate

namespace OperatorReply

/-- Two words: a yes in any case, and the identity of the request. -/
def SaysYesTo (requestId line : String) : Prop :=
  ∃ answer, wordsOf line = [answer, requestId] ∧
    (Ascii.lower answer = "y" ∨ Ascii.lower answer = "yes")

/-- A bare yes, a line whose second word names another request, or one of more than two words. -/
def PassesOver (requestId line : String) : Prop :=
  (∃ answer, wordsOf line = [answer] ∧ (Ascii.lower answer = "y" ∨ Ascii.lower answer = "yes")) ∨
    (∃ answer id, wordsOf line = [answer, id] ∧ id ≠ requestId) ∨ 2 < (wordsOf line).length

theorem isYes_iff {word : String} :
    isYes word = true ↔ Ascii.lower word = "y" ∨ Ascii.lower word = "yes" := by
  simp [isYes]

theorem ofLine_eq_approved {requestId line : String} :
    ofLine line requestId = .decided .approved ↔ SaysYesTo requestId line := by
  constructor
  · intro h
    unfold ofLine at h
    split at h
    · cases h
    · split at h <;> cases h
    · rename_i answer id hwords
      split at h
      · cases h
      · rename_i hid
        obtain rfl : id = requestId := Decidable.not_not.1 hid
        refine ⟨answer, hwords, isYes_iff.1 ?_⟩
        by_contra hno
        rw [if_neg hno] at h
        cases h
    · cases h
  · rintro ⟨answer, hwords, hyes⟩
    simp [ofLine, hwords, isYes_iff.2 hyes]

theorem passesOver_of_ofLine {requestId line : String}
    (h : ofLine line requestId = .otherRequest ∨ ofLine line requestId = .missingId) :
    PassesOver requestId line := by
  unfold ofLine at h
  split at h
  · rcases h with h | h <;> cases h
  · rename_i answer hwords
    split at h
    · exact .inl ⟨answer, hwords, isYes_iff.1 (by assumption)⟩
    · rcases h with h | h <;> cases h
  · rename_i answer id hwords
    split at h
    · exact .inr (.inl ⟨answer, id, hwords, by assumption⟩)
    · rcases h with h | h <;> cases h
  · rename_i hnil hone htwo
    refine .inr (.inr ?_)
    match hwords : wordsOf line with
    | [] => exact absurd hwords hnil
    | [answer] => exact absurd hwords (hone answer)
    | [answer, id] => exact absurd hwords (htwo answer id)
    | _ :: _ :: _ :: _ => simp

end OperatorReply

/-- The bytes of the chunks that are still to come. -/
def InputChunk.bytesOf : List InputChunk → List UInt8
  | [] => []
  | .bytes content :: rest => content ++ bytesOf rest
  | .blocked :: rest | .failure _ :: rest => bytesOf rest

/-- The bytes of the line that was read, if one was. -/
def LineRead.bytes : LineRead → List UInt8
  | .line bytes => bytes
  | _ => []

namespace Console

open InputChunk (bytesOf)

/-- All bytes that have not been read yet. -/
def pending (c : Console) : List UInt8 := c.buffer ++ bytesOf c.input

theorem takeLine?_append {bytes line rest : List UInt8} (h : takeLine? bytes = some (line, rest)) :
    line ++ rest = bytes := by
  induction bytes generalizing line with
  | nil => cases h
  | cons b bytes ih =>
    unfold takeLine? at h
    split at h
    · cases h
      rfl
    · obtain ⟨⟨tail, rest'⟩, htail, heq⟩ := Option.map_eq_some_iff.1 h
      cases heq
      rw [List.cons_append, ih htail]

theorem bytes_atEnd_sublist (line : List UInt8) : (atEnd line).bytes.Sublist line := by
  unfold atEnd
  split
  · exact List.nil_sublist line
  · exact List.Sublist.refl line

theorem completeLine_sublist (line : List UInt8) (input : List InputChunk) :
    ((completeLine line input).1.bytes ++
      ((completeLine line input).2.1 ++ bytesOf (completeLine line input).2.2)).Sublist
      (line ++ bytesOf input) := by
  fun_induction completeLine line input with
  | case1 line => simpa [bytesOf] using bytes_atEnd_sublist line
  | case2 line content input hempty =>
    exact (bytes_atEnd_sublist line).append (List.sublist_append_right _ _)
  | case3 line content input hne tail rest htake =>
    have hline : tail ++ rest = content.take maxReadBytes := takeLine?_append htake
    have heq : (line ++ tail) ++ (rest ++ bytesOf input) =
        line ++ (content.take maxReadBytes ++ bytesOf input) := by
      rw [← hline]
      simp only [List.append_assoc]
    exact heq ▸ ((List.take_sublist _ content).append_right _).append_left line
  | case4 line content input hne htake ih =>
    refine ih.trans ?_
    rw [List.append_assoc]
    exact ((List.take_sublist _ content).append_right _).append_left line
  | case5 line input => exact List.sublist_append_right _ _
  | case6 line reason input => exact List.sublist_append_right _ _

/-- What is read and what is still to be read lie in order in what there was. -/
theorem readLine_sublist (c : Console) :
    (c.readLine.1.bytes ++ c.readLine.2.pending).Sublist c.pending := by
  unfold readLine
  split
  · rename_i line rest htake
    have hline : line ++ rest = c.buffer := takeLine?_append htake
    rw [pending, pending, ← hline, List.append_assoc]
    exact List.Sublist.refl _
  · exact completeLine_sublist c.buffer c.input

theorem readText_sublist {c c' : Console} {result : Except TerminalAnswer String}
    (h : c.readText = (result, c')) : c'.pending.Sublist c.pending := by
  have hread := c.readLine_sublist
  have hnext : c.readLine.2 = c' := by
    unfold readText at h
    split at h
    any_goals
      cases h
      simp only [*]
    split at h
    all_goals
      cases h
      simp only [*]
  rw [← hnext]
  exact (List.sublist_append_right _ _).trans hread

/-- Without a line there is no decision. -/
theorem ne_decided_of_readText {c c' : Console} {answer : TerminalAnswer}
    (h : c.readText = (.error answer, c')) (decision : Decision) : answer ≠ .decided decision := by
  unfold readText at h
  split at h
  any_goals
    cases h
    simp
  split at h
  · cases h
    simp
  · cases h

theorem pending_write (c : Console) (text : String) : (c.write text).2.pending = c.pending := by
  simp only [write]
  split <;> rfl

theorem pending_hear (c : Console) (requestId line : String) :
    (c.hear requestId line).2.pending = c.pending := by
  have hwrite := c.pending_write (ApprovalRequest.reminder requestId)
  unfold hear
  split
  · rfl
  · rfl
  · split
    all_goals
      rename_i heq
      rw [heq] at hwrite
      exact hwrite

/-- A line after which the prompt goes on was passed over. -/
theorem passesOver_of_hear {c c' : Console} {requestId line : String}
    (h : c.hear requestId line = (none, c')) : OperatorReply.PassesOver requestId line := by
  unfold hear at h
  split at h
  · cases h
  · exact OperatorReply.passesOver_of_ofLine (.inl (by assumption))
  · exact OperatorReply.passesOver_of_ofLine (.inr (by assumption))

theorem ofLine_of_hear {c c' : Console} {requestId line : String} {decision : Decision}
    (h : c.hear requestId line = (some (.decided decision), c')) :
    OperatorReply.ofLine line requestId = .decided decision := by
  unfold hear at h
  split at h
  · cases h
    assumption
  · cases h
  · split at h <;> cases h

/-- What was buffered before a prompt is not read any more. -/
theorem surface_sublist (c : Console) (r : ApprovalRequest) :
    (c.surface r).2.pending.Sublist c.pending := by
  rw [surface, pending_write]
  exact List.sublist_append_right _ _

/-- Input that had not arrived when a prompt was cut off comes after it. -/
def arrive (c : Console) : Console :=
  match c.input with
  | .blocked :: input => { c with input }
  | _ => c

theorem pending_arrive (c : Console) : c.arrive.pending = c.pending := by
  unfold arrive
  split
  · rename_i heq
    rw [pending, pending, heq]
    rfl
  · rfl

end Console

/-- A prompt, and the lines that were read while it held the console. -/
structure Prompt where
  request : ApprovalRequest
  lines : List String
  deriving DecidableEq

/-- A console with the prompts that it is done with, and the one that holds it. The end of a prompt
that was cut off is that it is still waiting. -/
structure Sitting where
  console : Console
  past : List (Prompt × TerminalAnswer)
  holder : Option Prompt

inductive SittingAction where
  | prompt (request : ApprovalRequest)
  | listen
  | cutOff

namespace Sitting

def ofConsole (c : Console) : Sitting := ⟨c, [], none⟩

/-- The prompt ends, and the console is free for the next. -/
def release (t : Sitting) (console : Console) (p : Prompt) (answer : TerminalAnswer) : Sitting :=
  ⟨if answer = .waiting then console.arrive else console, t.past ++ [(p, answer)], none⟩

/-- The prompt that holds the console reads a line. -/
def listen (t : Sitting) (p : Prompt) : Sitting :=
  match t.console.readText with
  | (.error answer, console) => t.release console p answer
  | (.ok line, console) =>
    let p := { p with lines := p.lines ++ [line] }
    match console.hear p.request.requestId line with
    | (some answer, console) => t.release console p answer
    | (none, console) => { t with console, holder := some p }

/-- A request is prompted when nobody holds the console, and gets hold of it when its prompt could be
written. Its prompt may be cut off at any time, also while it waits for the rest of a line. -/
def act (t : Sitting) : SittingAction → Sitting
  | .prompt request =>
    match t.holder, t.console.surface request with
    | some _, _ => t
    | none, (.ok (), console) => { t with console, holder := some ⟨request, []⟩ }
    | none, (.error _, console) => { t with console }
  | .listen =>
    match t.holder with
    | none => t
    | some p => t.listen p
  | .cutOff =>
    match t.holder with
    | none => t
    | some p => t.release t.console p .waiting

/-- What a list of actions leads to. -/
def after (c : Console) (actions : List SittingAction) : Sitting := actions.foldl act (ofConsole c)

/-- The lines that prompts read up to their ends. -/
def linesOf (ended : List (Prompt × TerminalAnswer)) : List String := ended.flatMap (·.1.lines)

/-- All lines that were read, in order. -/
def lines (t : Sitting) : List String := linesOf t.past ++ t.holder.toList.flatMap (·.lines)

/-- A decision comes with the last line that was read, and the lines before it were passed over. -/
def EndsAs (p : Prompt) : TerminalAnswer → Prop
  | .decided decision => ∃ earlier line, p.lines = earlier ++ [line] ∧
      OperatorReply.ofLine line p.request.requestId = .decided decision ∧
      ∀ line ∈ earlier, OperatorReply.PassesOver p.request.requestId line
  | _ => True

/-- The lines are spelled by pieces of the console's input, in order, and what is still to be read
comes after them. -/
def Reads (start : Console) (lines : List String) (console : Console) : Prop :=
  ∃ pieces, List.Forall₂ (fun bytes line => Utf8.decode bytes = .ok line) pieces lines ∧
    (pieces.flatten ++ console.pending).Sublist start.pending

theorem Reads.rest {start console console' : Console} {lines : List String}
    (h : Reads start lines console) (hrest : console'.pending.Sublist console.pending) :
    Reads start lines console' := by
  obtain ⟨pieces, hpieces, hsub⟩ := h
  exact ⟨pieces, hpieces, (hrest.append_left _).trans hsub⟩

theorem Reads.unchanged {start console console' : Console} {lines : List String}
    (h : Reads start lines console) (hsame : console'.pending = console.pending) :
    Reads start lines console' :=
  h.rest (hsame ▸ List.Sublist.refl _)

theorem Reads.next {start console console' : Console} {lines : List String} {line : String}
    (h : Reads start lines console) (hread : console.readText = (.ok line, console')) :
    Reads start (lines ++ [line]) console' := by
  obtain ⟨pieces, hpieces, hsub⟩ := h
  obtain ⟨bytes, hline, hdecode⟩ := Console.readText_ok hread
  refine ⟨pieces ++ [bytes], List.rel_append hpieces (.cons hdecode .nil), ?_⟩
  have hpending := console.readLine_sublist
  rw [hline] at hpending
  have heq : (pieces ++ [bytes]).flatten ++ console'.pending =
      pieces.flatten ++ (bytes ++ console'.pending) := by simp
  rw [heq]
  exact (hpending.append_left _).trans hsub

/-- What holds of a sitting from its start on. -/
structure Lawful (start : Console) (t : Sitting) : Prop where
  ended : ∀ e ∈ t.past, EndsAs e.1 e.2
  holding : ∀ p, t.holder = some p →
    ∀ line ∈ p.lines, OperatorReply.PassesOver p.request.requestId line
  reads : Reads start t.lines t.console

variable {start : Console} {t : Sitting} {p : Prompt}

theorem Lawful.ofConsole (c : Console) : Lawful c (ofConsole c) where
  ended := by simp [Sitting.ofConsole]
  holding := by simp [Sitting.ofConsole]
  reads := ⟨[], .nil, List.Sublist.refl _⟩

theorem pending_release (console : Console) (answer : TerminalAnswer) :
    (t.release console p answer).console.pending = console.pending := by
  unfold Sitting.release
  dsimp only
  split
  · exact console.pending_arrive
  · rfl

theorem Lawful.release (h : t.Lawful start) {console : Console} {answer : TerminalAnswer}
    (hends : EndsAs p answer) (hreads : Reads start (linesOf t.past ++ p.lines) console) :
    (t.release console p answer).Lawful start where
  ended e hmem := by
    rcases List.mem_append.1 hmem with hmem | hmem
    · exact h.ended e hmem
    · cases List.mem_singleton.1 hmem
      exact hends
  holding := by simp [Sitting.release]
  reads := by
    refine Reads.unchanged ?_ (pending_release console answer)
    simpa [Sitting.release, lines, linesOf] using hreads

theorem Lawful.reads_holder (h : t.Lawful start) (hp : t.holder = some p) :
    Reads start (linesOf t.past ++ p.lines) t.console := by
  simpa [lines, hp] using h.reads

/-- A line is passed over, or it decides the prompt that reads it. -/
theorem Lawful.listen (h : t.Lawful start) (hp : t.holder = some p) :
    (t.listen p).Lawful start := by
  have hbefore := h.reads_holder hp
  unfold Sitting.listen
  split
  · rename_i answer console hread
    refine h.release ?_ ?_
    · cases answer with
      | decided decision => exact absurd rfl (Console.ne_decided_of_readText hread decision)
      | _ => trivial
    · exact hbefore.rest (Console.readText_sublist hread)
  · rename_i line console hread
    have hnext := hbefore.next hread
    have hpending := console.pending_hear p.request.requestId line
    rw [List.append_assoc] at hnext
    dsimp only
    split
    all_goals
      rename_i console' hhear
      rw [hhear] at hpending
      replace hnext : Reads start _ console' := hnext.unchanged hpending
    · rename_i answer
      refine h.release ?_ hnext
      cases answer with
      | decided decision =>
        exact ⟨p.lines, line, rfl, Console.ofLine_of_hear hhear, h.holding p hp⟩
      | _ => trivial
    · refine ⟨h.ended, ?_, by simpa [lines] using hnext⟩
      rintro _ ⟨rfl⟩ line' hmem
      rcases List.mem_append.1 hmem with hmem | hmem
      · exact h.holding p hp line' hmem
      · cases List.mem_singleton.1 hmem
        exact Console.passesOver_of_hear hhear

theorem Lawful.act (h : t.Lawful start) (a : SittingAction) : (t.act a).Lawful start := by
  cases a with
  | prompt request =>
    have hsurface := t.console.surface_sublist request
    simp only [Sitting.act]
    split
    · exact h
    all_goals
      rename_i console hholder hshown
      rw [hshown] at hsurface
      have hreads := h.reads.rest hsurface
    · refine ⟨h.ended, ?_, by simpa [lines, hholder] using hreads⟩
      rintro _ ⟨rfl⟩
      simp
    · exact ⟨h.ended, h.holding, hreads⟩
  | listen =>
    simp only [Sitting.act]
    split
    · exact h
    · exact h.listen (by assumption)
  | cutOff =>
    simp only [Sitting.act]
    split
    · exact h
    · rename_i p hp
      exact h.release trivial (h.reads_holder hp)

/-- What one action keeps true holds after any list of them. -/
theorem lawful_after (c : Console) (actions : List SittingAction) :
    (after c actions).Lawful c :=
  List.foldlRecOn actions Sitting.act (.ofConsole c) fun _ h a _ => h.act a

/-- The line of this number, among all that were read, is the one that decided this prompt: the last
of those that the prompt read. -/
def DecidedBy (t : Sitting) (prompt line : Nat) : Prop :=
  ∃ p decision, t.past[prompt]? = some (p, .decided decision) ∧ p.lines ≠ [] ∧
    line + 1 = (linesOf (t.past.take (prompt + 1))).length

theorem linesOf_take_succ {ended : List (Prompt × TerminalAnswer)} {i : Nat}
    {answer : TerminalAnswer} (h : ended[i]? = some (p, answer)) :
    linesOf (ended.take (i + 1)) = linesOf (ended.take i) ++ p.lines := by
  simp [linesOf, List.take_add_one, h]

theorem exists_decidedBy {i : Nat} {decision : Decision} (h : t.Lawful start)
    (hi : t.past[i]? = some (p, .decided decision)) :
    ∃ n line, p.lines.getLast? = some line ∧ t.lines[n]? = some line ∧ t.DecidedBy i n := by
  obtain ⟨earlier, line, hlines : p.lines = _, -, -⟩ := h.ended _ (List.mem_of_getElem? hi)
  have htake := linesOf_take_succ hi
  rw [hlines, ← List.append_assoc] at htake
  have hall : t.lines = linesOf (t.past.take (i + 1)) ++
      (linesOf (t.past.drop (i + 1)) ++ t.holder.toList.flatMap (·.lines)) := by
    rw [lines, ← List.append_assoc, linesOf, linesOf, linesOf, ← List.flatMap_append,
      List.take_append_drop]
  refine ⟨(linesOf (t.past.take i) ++ earlier).length, line, by simp [hlines], ?_,
    p, decision, hi, by simp [hlines], ?_⟩
  · simp [hall, htake]
  · simp [htake, Nat.add_assoc]

/-- Lines are read one after another, so the last one of a prompt comes before those of later
prompts. -/
theorem DecidedBy.lt {i j m n : Nat} (hi : t.DecidedBy i m) (hj : t.DecidedBy j n) (hij : i < j) :
    m < n := by
  obtain ⟨p, _, -, -, hm⟩ := hi
  obtain ⟨q, _, hq, hne, hn⟩ := hj
  have hearlier : t.past.take (i + 1) <+: t.past.take j := List.take_prefix_take_left hij
  have hle : (linesOf (t.past.take (i + 1))).length ≤ (linesOf (t.past.take j)).length :=
    (hearlier.flatMap _).length_le
  have hpos := List.length_pos_iff.2 hne
  rw [linesOf_take_succ hq, List.length_append] at hn
  omega

/-- A prompt that listens until it ends gets the answer that the console gives for its request. -/
theorem exists_listens (t : Sitting) (p : Prompt) (hp : t.holder = some p) :
    ∃ n lines, (List.replicate n SittingAction.listen).foldl Sitting.act t =
      t.release (t.console.answer p.request.requestId).2 { p with lines := p.lines ++ lines }
        (t.console.answer p.request.requestId).1 := by
  generalize hc : t.console = c
  generalize hid : p.request.requestId = requestId
  have hact : t.act .listen = t.listen p := by simp [Sitting.act, hp]
  fun_induction Console.answer c requestId generalizing t p with
  | case1 c answer rest hread =>
    refine ⟨1, [], ?_⟩
    rw [List.replicate_one, List.foldl_cons, List.foldl_nil, hact, Sitting.listen, hc, hread,
      List.append_nil]
  | case2 c line next hread answer rest hhear =>
    refine ⟨1, [line], ?_⟩
    rw [List.replicate_one, List.foldl_cons, List.foldl_nil, hact, Sitting.listen, hc, hread]
    dsimp only
    rw [hid, hhear]
  | case3 c line next hread rest hhear ih =>
    let p' : Prompt := { p with lines := p.lines ++ [line] }
    let t' : Sitting := { t with console := rest, holder := some p' }
    have hstep : t.listen p = t' := by
      rw [Sitting.listen, hc, hread]
      dsimp only
      rw [hid, hhear]
    obtain ⟨n, lines, hrun⟩ := ih t' p' rfl rfl hid rfl
    refine ⟨n + 1, line :: lines, ?_⟩
    rw [List.replicate_succ, List.foldl_cons, hact, hstep, hrun]
    simp [Sitting.release, t', p']

/-- Whatever an operator types, and wherever prompts are cut off: a request is decided by the last line
that its own prompt read, after lines that were passed over, and it is approved exactly if that line
says yes to this very request. Every decision has its line, and no line has two. The lines are made of
the input's bytes, in order, none of them used twice. -/
theorem approved_by_own_line (c : Console) (actions : List SittingAction) :
    (∀ p decision, (p, .decided decision) ∈ (after c actions).past →
      ∃ earlier line, p.lines = earlier ++ [line] ∧
        (decision = .approved ↔ OperatorReply.SaysYesTo p.request.requestId line) ∧
        ∀ l ∈ earlier, OperatorReply.PassesOver p.request.requestId l) ∧
    (∀ i p decision, (after c actions).past[i]? = some (p, .decided decision) →
      ∃ n line, p.lines.getLast? = some line ∧ (after c actions).lines[n]? = some line ∧
        (after c actions).DecidedBy i n) ∧
    (∀ i j n, (after c actions).DecidedBy i n → (after c actions).DecidedBy j n → i = j) ∧
    ∃ pieces,
      List.Forall₂ (fun bytes line => Utf8.decode bytes = .ok line) pieces (after c actions).lines ∧
        pieces.flatten.Sublist c.pending := by
  have hlawful := lawful_after c actions
  refine ⟨fun p decision hp => ?_, fun i p decision hi => exists_decidedBy hlawful hi,
    fun i j n hi hj => ?_, ?_⟩
  · obtain ⟨earlier, line, hlines, hline, hearlier⟩ := hlawful.ended _ hp
    refine ⟨earlier, line, hlines, ?_, hearlier⟩
    rw [← OperatorReply.ofLine_eq_approved, hline]
    simp
  · rcases Nat.lt_trichotomy i j with hij | hij | hij
    · exact absurd (hi.lt hj hij) (Nat.lt_irrefl n)
    · exact hij
    · exact absurd (hj.lt hi hij) (Nat.lt_irrefl n)
  · obtain ⟨pieces, hpieces, hsub⟩ := hlawful.reads
    exact ⟨pieces, hpieces, (List.sublist_append_left _ _).trans hsub⟩

def requestNamed (requestId : String) : ApprovalRequest :=
  ⟨requestId, "shop", "DELETE FROM orders", [], .ofReason "cleanup"⟩

def typed (text : String) : InputChunk := .bytes (text.toList.map fun c => c.toNat.toUInt8)

/-- Answers that come too early, too late, or without a name. -/
def keyboard : Console :=
  .ofInput [typed "yes\ny req-2\n", .blocked, typed "YES req-2\ny req-3\n", .blocked] none

def prompts : List SittingAction :=
  [.prompt (requestNamed "req-1"), .listen, .listen, .listen, .prompt (requestNamed "req-2"), .listen,
    .prompt (requestNamed "req-3"), .listen]

def pastPrompts : List (Prompt × TerminalAnswer) :=
  [(⟨requestNamed "req-1", ["yes\n", "y req-2\n"]⟩, .waiting),
    (⟨requestNamed "req-2", ["YES req-2\n"]⟩, .decided .approved),
    (⟨requestNamed "req-3", []⟩, .waiting)]

theorem past_prompts : (after keyboard prompts).past = pastPrompts := by decide +kernel

/-- One of three requests is approved, by the third of three lines. -/
theorem second_approved_by_third_line :
    (after keyboard prompts).past = pastPrompts ∧
      OperatorReply.SaysYesTo "req-2" "YES req-2\n" ∧
      (after keyboard prompts).DecidedBy 1 2 ∧
      ∀ i, (after keyboard prompts).DecidedBy i 2 → i = 1 := by
  obtain ⟨happroved, hdecided, honce, _⟩ := approved_by_own_line keyboard prompts
  have hsecond : (after keyboard prompts).past[1]? =
      some (⟨requestNamed "req-2", ["YES req-2\n"]⟩, .decided .approved) := by
    rw [past_prompts]
    rfl
  obtain ⟨earlier, line, hlines, hline, _⟩ := happroved _ _ (List.mem_of_getElem? hsecond)
  obtain ⟨n, _, _, _, hn⟩ := hdecided 1 _ _ hsecond
  have hlast : n = 2 := by
    obtain ⟨_, _, _, _, hcount⟩ := hn
    rw [past_prompts] at hcount
    exact Nat.succ.inj hcount
  subst hlast
  have hown : "YES req-2\n" = line := by simpa using congrArg List.getLast? hlines
  subst hown
  exact ⟨past_prompts, hline.1 rfl, hn, fun i hi => honce i 1 2 hi hn⟩

end Sitting

end StatementGate
