import StatementGate.Proofs.Descriptor.Grammar
import StatementGate.Proofs.Text.Bytes

/-! # Where descriptors go wrong

An error that names a byte of a descriptor names the start of a character, and what it says of that
place is so: the character or the token that stands there is the one told, and the end of the text is
told of nowhere else. All that comes before what the scanner refuses is made of tokens. -/

namespace StatementGate

/-- The byte that the error names. -/
def DescriptorError.offset? : DescriptorError → Option Nat
  | .unexpectedChar _ offset | .unterminatedQuote offset | .invalidIdentifier _ offset
  | .expected _ offset _ | .unknownGeneric _ offset => some offset
  | .empty | .tooLong | .invalidNamespace _ | .arity _ _ | .tooDeep => none

/-- What a descriptor may go on with; no token is the end of the text. -/
inductive Expectation.Meets : Expectation → Option Token → Prop
  | name (text : String) : Meets .type (some (.name text))
  | quoted (text : String) : Meets .type (some (.quoted text))
  | closing : Meets .separator (some .closing)
  | comma : Meets .separator (some .comma)
  | nothing : Meets .nothing none

namespace Token

/-- How a token is written. -/
inductive Spells : Token → List Char → Prop
  | single {c : Char} {token : Token} (h : Single c token) : Spells token [c]
  | quoted {q : Char} {text : List Char} (hq : q = '\'' ∨ q = '"') (h : IsDotted text) :
      Spells (.quoted (String.ofList text)) (q :: (text ++ [q]))
  | name {text : List Char} (h : IsDotted text) : Spells (.name (String.ofList text)) text

/-- A name ends before a text that it does not go on with, and other tokens before every text. -/
def EndsBefore (token : Token) (rest : List Char) : Prop := ∀ text, token = .name text → Apart rest

/-- The token stands at a byte of the text with `rest` behind it, and is one of those that the text is
split into. -/
inductive StandsAt (text : String) : (offset : Nat) → Token → (rest : List Char) → Prop
  | mk {token : Token} {before lexeme rest : List Char} {earlier later : List Token}
      (htext : text.toList = before ++ (lexeme ++ rest)) (h : Spells token lexeme)
      (hbefore : Splits before earlier) (hrest : Splits rest later)
      (hsplits : Splits text.toList (earlier ++ token :: later)) :
      StandsAt text (Utf8.size before) token rest

/-- What is wrong with the head of a text that starts at a byte. -/
inductive Fault (offset : Nat) : List Char → DescriptorError → Prop
  | unexpectedChar {c : Char} {s : List Char} (hspace : Ascii.isSpace c = false)
      (hstart : ∀ token lexeme, ¬Spells token (c :: lexeme)) :
      Fault offset (c :: s) (.unexpectedChar c offset)
  | unterminatedQuote {q : Char} {s : List Char} (hq : q = '\'' ∨ q = '"') (hopen : q ∉ s) :
      Fault offset (q :: s) (.unterminatedQuote offset)
  | invalidName {c : Char} {more rest : List Char} (hc : Ascii.isNameStart c = true)
      (hmore : ∀ d ∈ more, isNameChar d = true) (h : ¬IsDotted (c :: more)) (hends : Apart rest) :
      Fault offset (c :: more ++ rest) (.invalidIdentifier (String.ofList (c :: more)) offset)
  | invalidQuoted {q : Char} {text rest : List Char} (hq : q = '\'' ∨ q = '"') (h : ¬IsDotted text)
      (hinside : q ∉ text) :
      Fault offset (q :: (text ++ q :: rest)) (.invalidIdentifier (String.ofList text) offset)

end Token

/-- What the error says of the text is so. -/
inductive DescriptorError.Truthful (text : String) : DescriptorError → Prop
  | fault {before rest : List Char} {e : DescriptorError} (htext : text.toList = before ++ rest)
      (hbefore : Succeeds (Token.scan 0 before)) (h : Token.Fault (Utf8.size before) rest e) :
      Truthful text e
  | unknownGeneric {name : String} {offset : Nat} {spaces rest : List Char}
      (h : Token.StandsAt text offset (.name name) (spaces ++ '[' :: rest))
      (hspaces : ∀ c ∈ spaces, Ascii.isSpace c = true)
      (hunknown : Descriptor.Generic.ofName? name = none) :
      Truthful text (.unknownGeneric name offset)
  | expected {what : Expectation} {offset : Nat} {token : Token} {rest : List Char}
      (h : Token.StandsAt text offset token rest) (hunmet : ¬what.Meets (some token)) :
      Truthful text (.expected what offset (some token))
  | expectedAtEnd {what : Expectation} (hunmet : ¬what.Meets none) :
      Truthful text (.expected what text.utf8ByteSize none)
  | unplaced {e : DescriptorError} (h : e.offset? = none) : Truthful text e

namespace Token

variable {start stop : Nat} {s rest : List Char} {token : Token} {ts : List LocatedToken}

theorem Apart.of_append {t : List Char} (h : Apart (s ++ t)) : Apart s := by
  rintro c more rfl
  exact h c (more ++ t) rfl

theorem Splits.spelled {lexeme : List Char} (h : Spells token lexeme) (hends : token.EndsBefore s)
    {tokens : List Token} (hs : Splits s tokens) : Splits (lexeme ++ s) (token :: tokens) := by
  cases h with
  | single h => exact .single h hs
  | quoted hq h =>
    rw [List.cons_append, List.append_assoc]
    exact .quoted hq h hs
  | name h => exact .name_of_apart h (hends _ rfl) hs

/-- From one byte of a text up to another, where `rest` is left of it, there are these tokens, and
space between them. -/
inductive Passes : (start : Nat) → List Char → List LocatedToken → (stop : Nat) → List Char → Prop
  | done (start : Nat) (s : List Char) : Passes start s [] start s
  | space {start stop : Nat} {c : Char} {s rest : List Char} {ts : List LocatedToken}
      (h : Ascii.isSpace c = true) (hs : Passes (start + c.utf8Size) s ts stop rest) :
      Passes start (c :: s) ts stop rest
  | token {start stop : Nat} {token : Token} {lexeme s rest : List Char} {ts : List LocatedToken}
      (h : Spells token lexeme) (hends : token.EndsBefore s)
      (hs : Passes (start + Utf8.size lexeme) s ts stop rest) :
      Passes start (lexeme ++ s) (⟨token, start⟩ :: ts) stop rest

namespace Passes

/-- What is passed takes as many bytes as there are between the two, and is split into the tokens. -/
theorem exists_before (h : Passes start s ts stop rest) :
    ∃ before, s = before ++ rest ∧ stop = start + Utf8.size before ∧
      Splits before (ts.map (·.token)) := by
  induction h with
  | done => exact ⟨[], rfl, rfl, .nil⟩
  | space h _ ih =>
    obtain ⟨before, rfl, rfl, hsplits⟩ := ih
    exact ⟨_ :: before, rfl, Nat.add_assoc _ _ _, .space h hsplits⟩
  | @token _ _ _ lexeme _ _ _ h hends _ ih =>
    obtain ⟨before, rfl, rfl, hsplits⟩ := ih
    refine ⟨lexeme ++ before, (List.append_assoc _ _ _).symm, ?_, ?_⟩
    · rw [Utf8.size_append, Nat.add_assoc]
    · exact hsplits.spelled h fun text htext => (hends text htext).of_append

/-- Every token stands where it is located. -/
theorem at_token {earlier later : List LocatedToken} {t : LocatedToken}
    (h : Passes start s (earlier ++ t :: later) stop rest) :
    ∃ lexeme after, Passes start s earlier t.offset (lexeme ++ after) ∧ Spells t.token lexeme ∧
      Passes (t.offset + Utf8.size lexeme) after later stop rest := by
  generalize hts : earlier ++ t :: later = ts at h
  induction h generalizing earlier with
  | done => simp at hts
  | space h _ ih =>
    obtain ⟨lexeme, after, hearlier, hspells, hlater⟩ := ih hts
    exact ⟨lexeme, after, .space h hearlier, hspells, hlater⟩
  | @token _ _ _ lexeme s _ _ h hends hs ih =>
    cases earlier with
    | nil =>
      cases hts
      exact ⟨lexeme, s, .done _ _, h, hs⟩
    | cons first earlier =>
      cases hts
      obtain ⟨lexeme', after, hearlier, hspells, hlater⟩ := ih rfl
      exact ⟨lexeme', after, .token h hends hearlier, hspells, hlater⟩

/-- Without tokens there is space alone. -/
theorem exists_spaces (h : Passes start s [] stop rest) :
    ∃ spaces, s = spaces ++ rest ∧ ∀ c ∈ spaces, Ascii.isSpace c = true := by
  generalize hts : ([] : List LocatedToken) = ts at h
  induction h with
  | done => exact ⟨[], rfl, List.forall_mem_nil _⟩
  | space h _ ih =>
    obtain ⟨spaces, rfl, hspaces⟩ := ih hts
    exact ⟨_ :: spaces, rfl, List.forall_mem_cons.2 ⟨h, hspaces⟩⟩
  | token => cases hts

end Passes

theorem Fault.offset?_eq {e : DescriptorError} (h : Fault start s e) : e.offset? = some start := by
  cases h <;> rfl

/-- What the scanner gives for a text: all of its tokens, or what is wrong behind some of them. -/
def Describes (start : Nat) (s : List Char) : Except DescriptorError (List LocatedToken) → Prop
  | .ok located => ∃ stop, Passes start s located stop []
  | .error e => ∃ ts stop rest, Passes start s ts stop rest ∧ Fault stop rest e

namespace Describes

variable {x : Except DescriptorError (List LocatedToken)}

theorem space {c : Char} (h : Ascii.isSpace c = true) (hx : Describes (start + c.utf8Size) s x) :
    Describes start (c :: s) x := by
  cases x with
  | ok located =>
    obtain ⟨stop, hs⟩ := hx
    exact ⟨stop, .space h hs⟩
  | error e =>
    obtain ⟨ts, stop, rest, hs, hfault⟩ := hx
    exact ⟨ts, stop, rest, .space h hs, hfault⟩

theorem spelled {lexeme : List Char} (h : Spells token lexeme) (hends : token.EndsBefore s)
    (hx : Describes (start + Utf8.size lexeme) s x) :
    Describes start (lexeme ++ s) (x >>= fun tokens => .ok (⟨token, start⟩ :: tokens)) := by
  cases x with
  | ok located =>
    obtain ⟨stop, hs⟩ := hx
    exact ⟨stop, .token h hends hs⟩
  | error e =>
    obtain ⟨ts, stop, rest, hs, hfault⟩ := hx
    exact ⟨⟨token, start⟩ :: ts, stop, rest, .token h hends hs, hfault⟩

theorem fault {e : DescriptorError} (h : Fault start s e) : Describes start s (.error e) :=
  ⟨[], start, s, .done start s, h⟩

end Describes

theorem Single.endsBefore {c : Char} (h : Single c token) (s : List Char) : token.EndsBefore s := by
  rintro text rfl
  cases h

/-- A character that is none of what the scanner takes starts no token. -/
theorem not_spells {c : Char} (hsingle : c ≠ '[' ∧ c ≠ ']' ∧ c ≠ ',') (hquote : ¬isQuote c = true)
    (hstart : ¬Ascii.isNameStart c = true) (token : Token) (lexeme : List Char) :
    ¬Spells token (c :: lexeme) := by
  intro h
  generalize htext : c :: lexeme = text at h
  cases h with
  | single h =>
    cases htext
    cases h with
    | opening => exact hsingle.1 rfl
    | closing => exact hsingle.2.1 rfl
    | comma => exact hsingle.2.2 rfl
  | quoted hq =>
    cases htext
    exact hquote (isQuote_iff.2 hq)
  | name h =>
    obtain ⟨first, rest, rfl, hfirst⟩ := h.exists_head
    cases htext
    exact hstart hfirst

theorem not_mem_takeWhile_bne (q : Char) (s : List Char) : q ∉ s.takeWhile (· != q) := by
  intro hmem
  have := List.mem_takeWhile_imp hmem
  simp at this

/-- A quoted token is as long as its text and the two quotes. -/
theorem size_quoted {q : Char} (hq : q = '\'' ∨ q = '"') (text : List Char) :
    Utf8.size (q :: (text ++ [q])) = Utf8.size text + 2 := by
  change q.utf8Size + Utf8.size (text ++ [q]) = Utf8.size text + 2
  rw [Utf8.size_append]
  rcases hq with rfl | rfl
  · exact Nat.add_comm 1 (Utf8.size text + 1)
  · exact Nat.add_comm 1 (Utf8.size text + 1)

theorem quoted_endsBefore (text : String) (s : List Char) : (quoted text).EndsBefore s := by
  intro _ h
  cases h

theorem scan_describes (start : Nat) (s : List Char) : Describes start s (scan start s) := by
  fun_induction scan start s with
  | case1 => exact ⟨_, .done _ _⟩
  | case2 _ _ _ hspace ih => exact .space hspace ih
  | case3 =>
    rename_i ih
    exact .spelled (.single .opening) (Single.opening.endsBefore _) ih
  | case4 =>
    rename_i ih
    exact .spelled (.single .closing) (Single.closing.endsBefore _) ih
  | case5 =>
    rename_i ih
    exact .spelled (.single .comma) (Single.comma.endsBefore _) ih
  | case6 _ q rest _ _ _ _ hquote hdrop =>
    refine .fault (.unterminatedQuote (isQuote_iff.1 hquote) fun hmem => ?_)
    have := List.dropWhile_eq_nil_iff.1 hdrop q hmem
    simp at this
  | case7 start q rest _ _ _ _ hquote text head after hdrop hdotted =>
    rename_i ih
    have hq := isQuote_iff.1 hquote
    have hrest : q :: rest = q :: (text ++ [q]) ++ after := by
      rw [eq_append_quote hdrop, List.cons_append, List.append_assoc]
      rfl
    rw [Nat.add_assoc, ← size_quoted hq] at ih ⊢
    rw [hrest]
    exact .spelled (.quoted hq (isDottedIdentifier_ofList.1 hdotted)) (quoted_endsBefore _ _) ih
  | case8 _ q rest _ _ _ _ hquote text head after hdrop hdotted =>
    have hrest : rest = text ++ q :: after := eq_append_quote hdrop
    rw [hrest]
    exact .fault (.invalidQuoted (isQuote_iff.1 hquote) (mt isDottedIdentifier_ofList.2 hdotted)
      (not_mem_takeWhile_bne q rest))
  | case9 _ c rest _ _ _ _ _ _ text hdotted =>
    rename_i ih
    have hrest : c :: rest = text ++ rest.dropWhile isNameChar := by
      rw [List.cons_append, List.takeWhile_append_dropWhile]
    rw [hrest]
    exact .spelled (.name (isDottedIdentifier_ofList.1 hdotted))
      (fun _ _ _ _ => head_dropWhile) ih
  | case10 _ c rest _ _ _ _ _ hstart text hdotted =>
    have hrest : c :: rest = text ++ rest.dropWhile isNameChar := by
      rw [List.cons_append, List.takeWhile_append_dropWhile]
    rw [hrest]
    exact .fault (.invalidName hstart (fun _ => List.mem_takeWhile_imp)
      (mt isDottedIdentifier_ofList.2 hdotted) fun _ _ => head_dropWhile)
  | case11 _ c rest hspace hopening hclosing hcomma hquote hstart =>
    exact .fault (.unexpectedChar (Bool.eq_false_iff.2 hspace)
      (not_spells ⟨hopening, hclosing, hcomma⟩ hquote hstart))

/-- The tokens of a text stand in it, each before the next. -/
theorem standsAt_of_passes {text : String} {earlier later : List LocatedToken} {token : Token}
    {offset : Nat} (h : Passes 0 text.toList (earlier ++ ⟨token, offset⟩ :: later) stop []) :
    ∃ rest start, StandsAt text offset token rest ∧ Passes start rest later stop [] := by
  obtain ⟨lexeme, rest, hearlier, hspells, hlater⟩ := h.at_token
  obtain ⟨before, htext, hoffset, hbefore⟩ := hearlier.exists_before
  obtain ⟨all, hall, _, hsplits⟩ := h.exists_before
  obtain ⟨after, hafter, _, hrest⟩ := hlater.exists_before
  rw [List.append_nil] at hall hafter
  rw [List.map_append, List.map_cons, ← hall] at hsplits
  rw [← hafter] at hrest
  rw [Nat.zero_add] at hoffset
  dsimp only at hoffset
  subst hoffset
  exact ⟨rest, _, .mk htext hspells hbefore hrest hsplits, hlater⟩

end Token

namespace Descriptor

/-- What the reader finds wrong with tokens: one that it cannot go on with, or that there are no more,
or a name of no generic in front of a bracket. -/
inductive Amiss (stop : Nat) (tokens : List LocatedToken) : DescriptorError → Prop
  | unexpected {what : Expectation} {earlier rest : List LocatedToken}
      (htokens : tokens = earlier ++ rest) (hunmet : ¬what.Meets (rest.head?.map (·.token))) :
      Amiss stop tokens (unexpected what stop rest)
  | unknownGeneric {name : String} {offset bracket : Nat} {earlier rest : List LocatedToken}
      (htokens : tokens = earlier ++ ⟨.name name, offset⟩ :: ⟨.opening, bracket⟩ :: rest)
      (hunknown : Generic.ofName? name = none) : Amiss stop tokens (.unknownGeneric name offset)
  | unplaced {e : DescriptorError} (h : e.offset? = none) : Amiss stop tokens e

variable {stop fuel budget : Nat} {tokens : List LocatedToken} {e : DescriptorError}

theorem Amiss.behind (h : Amiss stop tokens e) (earlier : List LocatedToken) :
    Amiss stop (earlier ++ tokens) e := by
  cases h with
  | unexpected htokens hunmet =>
    rw [htokens, ← List.append_assoc]
    exact .unexpected rfl hunmet
  | unknownGeneric htokens hunknown =>
    rw [htokens, ← List.append_assoc]
    exact .unknownGeneric rfl hunknown
  | unplaced h => exact .unplaced h

/-- A list of arguments fails at the first, or at what follows it, or at the others behind a
comma. -/
theorem arguments_eq_error
    {item : List LocatedToken → Except DescriptorError (Descriptor × List LocatedToken)}
    (h : arguments item stop fuel tokens = .error e) :
    item tokens = .error e ∨ ∃ d after, item tokens = .ok (d, after) ∧
      ((¬Expectation.separator.Meets (after.head?.map (·.token)) ∧
          e = unexpected .separator stop after) ∨
        ∃ offset others, after = ⟨.comma, offset⟩ :: others ∧
          (e = .empty ∨ ∃ fuel', fuel = fuel' + 1 ∧
            arguments item stop fuel' others = .error e)) := by
  rw [arguments.eq_def] at h
  rcases bind_eq_error.1 h with hfirst | ⟨⟨d, after⟩, hd, hafter⟩
  · exact .inl hfirst
  · refine .inr ⟨d, after, hd, ?_⟩
    dsimp only at hafter
    split at hafter
    · cases hafter
    · refine .inr ⟨_, _, rfl, ?_⟩
      cases fuel with
      | zero =>
        cases hafter
        exact .inl rfl
      | succ fuel =>
        rcases bind_eq_error.1 hafter with hothers | ⟨_, _, hothers⟩
        · exact .inr ⟨fuel, rfl, hothers⟩
        · cases hothers
    · rename_i hclosing hcomma
      cases hafter
      refine .inl ⟨fun hmeets => ?_, rfl⟩
      cases after with
      | nil => cases hmeets
      | cons t after =>
        obtain ⟨token, offset⟩ := t
        change Expectation.separator.Meets (some token) at hmeets
        cases hmeets with
        | closing => exact hclosing _ _ rfl
        | comma => exact hcomma _ _ rfl

/-- Arguments fail as one of them does, or where neither a comma nor the closing bracket follows. -/
theorem arguments_amiss
    {item : List LocatedToken → Except DescriptorError (Descriptor × List LocatedToken)}
    (hused : ∀ {tokens d rest}, item tokens = .ok (d, rest) → ∃ used, tokens = used ++ rest)
    (hamiss : ∀ {tokens e}, item tokens = .error e → Amiss stop tokens e)
    (h : arguments item stop fuel tokens = .error e) : Amiss stop tokens e := by
  induction fuel using Nat.strongRecOn generalizing tokens with
  | ind fuel ih =>
    rcases arguments_eq_error h with h | ⟨d, after, hd, ⟨hunmet, rfl⟩ |
      ⟨offset, others, rfl, rfl | ⟨fuel', rfl, hothers⟩⟩⟩
    · exact hamiss h
    · obtain ⟨used, rfl⟩ := hused hd
      exact .unexpected rfl hunmet
    · exact .unplaced rfl
    · obtain ⟨used, rfl⟩ := hused hd
      exact ((ih fuel' (Nat.lt_succ_self _) hothers).behind [⟨.comma, offset⟩]).behind used

theorem Generic.offset?_of_apply {generic : Generic} {name : String} {ds : List Descriptor}
    (h : generic.apply name ds = .error e) : e.offset? = none := by
  rw [Generic.apply.eq_def] at h
  split at h
  · cases h
  · cases h
  · cases h
  · cases h
    rfl

theorem parseType_amiss {space : String} (h : parseType space stop budget tokens = .error e) :
    Amiss stop tokens e := by
  induction budget generalizing tokens e with
  | zero =>
    cases h
    exact .unplaced rfl
  | succ budget ih =>
    rw [parseType.eq_def] at h
    dsimp only at h
    split at h
    · rename_i name offset bracket rest
      split at h
      · rename_i hunknown
        cases h
        exact .unknownGeneric (List.nil_append _).symm hunknown
      · have hused {tokens d rest} (h : parseType space stop budget tokens = .ok (d, rest)) :
            ∃ used, tokens = used ++ rest :=
          (derives_of_parseType h).imp fun _ h => h.1
        rcases bind_eq_error.1 h with h | ⟨_, _, h⟩
        · exact (arguments_amiss hused ih h).behind [⟨.name name, offset⟩, ⟨.opening, bracket⟩]
        · rcases bind_eq_error.1 h with h | ⟨_, _, h⟩
          · exact .unplaced (Generic.offset?_of_apply h)
          · cases h
    · cases h
    · cases h
    · rename_i hname hquoted
      cases h
      refine .unexpected (List.nil_append _).symm fun hmeets => ?_
      cases tokens with
      | nil => cases hmeets
      | cons t tokens =>
        obtain ⟨token, offset⟩ := t
        change Expectation.type.Meets (some token) at hmeets
        cases hmeets with
        | name text => exact hname _ _ _ rfl
        | quoted text => exact hquoted _ _ _ rfl

/-- What is amiss with the tokens of a text is so in the text. -/
theorem Amiss.truthful {text : String} {last : Nat} (h : Amiss text.utf8ByteSize tokens e)
    (htokens : Token.Passes 0 text.toList tokens last []) : e.Truthful text := by
  cases h with
  | @unexpected what earlier rest hsplit hunmet =>
    subst hsplit
    cases rest with
    | nil => exact .expectedAtEnd hunmet
    | cons t rest =>
      obtain ⟨after, _, hstands, _⟩ := Token.standsAt_of_passes htokens
      exact .expected hstands hunmet
  | @unknownGeneric name offset bracket earlier rest hsplit hunknown =>
    subst hsplit
    obtain ⟨after, start, hstands, hafter⟩ := Token.standsAt_of_passes htokens
    have hbracket : Token.Passes start after ([] ++ ⟨.opening, bracket⟩ :: rest) last [] := hafter
    obtain ⟨lexeme, inside, hspace, hspells, _⟩ := hbracket.at_token
    obtain ⟨spaces, rfl, hspaces⟩ := hspace.exists_spaces
    cases hspells with
    | single hsingle =>
      cases hsingle
      exact .unknownGeneric hstands hspaces hunknown
  | unplaced h => exact .unplaced h

theorem truthful_of_parse {text space : String} (h : parse text space = .error e) :
    e.Truthful text := by
  rw [parse] at h
  dsimp only at h
  rcases throwIf_eq_error.1 h with ⟨_, rfl⟩ | ⟨_, h⟩
  · exact .unplaced rfl
  rcases throwIf_eq_error.1 h with ⟨_, rfl⟩ | ⟨_, h⟩
  · exact .unplaced rfl
  have hscan := Token.scan_describes 0 text.toList
  rcases bind_eq_error.1 h with h | ⟨tokens, htokens, h⟩
  · rw [h] at hscan
    obtain ⟨ts, stop, rest, hpasses, hfault⟩ := hscan
    obtain ⟨before, htext, rfl, hsplits⟩ := hpasses.exists_before
    obtain ⟨located, hlocated, _⟩ := hsplits.scan_eq 0
    rw [Nat.zero_add] at hfault
    exact .fault htext ⟨located, hlocated⟩ hfault
  rw [htokens] at hscan
  obtain ⟨last, hpasses⟩ := hscan
  rcases throwIf_eq_error.1 h with ⟨_, rfl⟩ | ⟨_, h⟩
  · exact .unplaced rfl
  rcases bind_eq_error.1 h with h | ⟨⟨d, rest⟩, hparse, h⟩
  · exact (parseType_amiss h).truthful hpasses
  rcases throwIf_eq_error.1 h with ⟨hrest, rfl⟩ | ⟨_, h⟩
  · obtain ⟨used, rfl, _⟩ := derives_of_parseType hparse
    refine Amiss.truthful (.unexpected rfl ?_) hpasses
    cases rest with
    | nil => simp at hrest
    | cons => nofun
  · cases h

end Descriptor

/-- A byte that a true error names lies in the text, on the boundary of a character. -/
theorem DescriptorError.Truthful.isValid {text : String} {e : DescriptorError} (h : e.Truthful text)
    {offset : Nat} (hoffset : e.offset? = some offset) :
    (String.Pos.Raw.mk offset).IsValid text := by
  have hstands {offset' : Nat} {token : Token} {rest : List Char}
      (h : Token.StandsAt text offset' token rest) (heq : some offset' = some offset) :
      (String.Pos.Raw.mk offset).IsValid text := by
    cases heq
    cases h with
    | mk htext => exact Utf8.isValid_size htext
  cases h with
  | fault htext hbefore hfault =>
    cases hfault.offset?_eq.symm.trans hoffset
    exact Utf8.isValid_size htext
  | unknownGeneric h => exact hstands h hoffset
  | expected h => exact hstands h hoffset
  | expectedAtEnd =>
    cases hoffset
    exact String.Pos.Raw.isValid_rawEndPos
  | unplaced h =>
    rw [h] at hoffset
    cases hoffset

namespace Descriptor

/-- Whatever a text is refused for, the byte that the error names lies in the text on the boundary of
a character, and what the error says of it is so. -/
theorem diagnostics_truthful {text space : String} {e : DescriptorError}
    (h : parse text space = .error e) :
    e.Truthful text ∧ ∀ offset, e.offset? = some offset →
      offset ≤ text.utf8ByteSize ∧ (String.Pos.Raw.mk offset).IsValid text := by
  have htrue := truthful_of_parse h
  exact ⟨htrue, fun offset hoffset => ⟨(htrue.isValid hoffset).le_rawEndPos, htrue.isValid hoffset⟩⟩

/-- Between quotes any character is read, and the name refused as a whole. -/
theorem accented_refused :
    parse "Union[ 'a.B' , 'é..Z' ]" "app" = .error (.invalidIdentifier "é..Z" 15) ∧
      DescriptorError.Truthful "Union[ 'a.B' , 'é..Z' ]" (.invalidIdentifier "é..Z" 15) ∧
      15 ≤ "Union[ 'a.B' , 'é..Z' ]".utf8ByteSize ∧
      (String.Pos.Raw.mk 15).IsValid "Union[ 'a.B' , 'é..Z' ]" := by
  have hparse : parse "Union[ 'a.B' , 'é..Z' ]" "app" = .error (.invalidIdentifier "é..Z" 15) := by
    decide +kernel
  obtain ⟨htrue, hoffset⟩ := diagnostics_truthful hparse
  exact ⟨hparse, htrue, hoffset 15 rfl⟩

/-- A quoted name takes no arguments. -/
example : parse "list[ 'a.B' [int] ]" "app" = .error (.expected .separator 12 (some .opening)) := by
  decide +kernel

end Descriptor

end StatementGate
