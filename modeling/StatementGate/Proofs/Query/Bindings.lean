import Mathlib.Data.List.Nodup
import StatementGate.Proofs.Query.Clauses

/-! # Bindings

A serialized statement has one placeholder for each of its values, numbered in the order of the
text, and a parameter of that name with that value. -/

namespace StatementGate

open Piece (Renders RendersAll parameterName textFrom)

namespace Piece

theorem textFrom_append {β : Type} (next : Nat) (ps qs : List (Piece β)) :
    textFrom next (ps ++ qs) = textFrom next ps ++ textFrom (next + (values ps).length) qs := by
  induction ps generalizing next with
  | nil => exact String.empty_append.symm
  | cons p ps ih =>
    cases p with
    | bind v =>
      simp only [List.cons_append, textFrom, values, ih, List.length_cons, String.append_assoc]
      rw [Nat.add_assoc, Nat.add_comm 1]
    | _ => simp only [List.cons_append, textFrom, values, ih, String.append_assoc]

theorem values_append {β : Type} (ps qs : List (Piece β)) :
    values (ps ++ qs) = values ps ++ values qs := by
  induction ps with
  | nil => rfl
  | cons p ps ih =>
    cases p with
    | bind v => exact congrArg _ ih
    | _ => exact ih

def placeholder (i : Nat) : String := ":" ++ parameterName i

/-- The texts of parts that follow one another. -/
def textsFrom : (next : Nat) → List Pieces → List String
  | _, [] => []
  | next, part :: rest => textFrom next part :: textsFrom (next + (values part).length) rest

theorem textFrom_separated_comma (next : Nat) (parts : List Pieces) :
    textFrom next (separated comma parts) = ", ".intercalate (textsFrom next parts) := by
  induction parts generalizing next with
  | nil => rfl
  | cons part parts ih =>
    cases parts with
    | nil => exact String.intercalate_singleton.symm
    | cons part' parts =>
      have hcomma : ∀ n, textFrom n (comma : Pieces) = ", " := fun _ => rfl
      have hvalues : values (comma : Pieces) = [] := rfl
      rw [separated, textFrom_append, textFrom_append, values_append, hvalues, hcomma,
        List.append_nil, ih]
      · exact String.intercalate_cons_cons.symm
      · simp

theorem textsFrom_words (next : Nat) (names : List String) :
    textsFrom next (names.map fun name => [.word name]) = names := by
  induction names with
  | nil => rfl
  | cons name names ih =>
    rw [List.map_cons, textsFrom]
    exact congrArg₂ _ (String.append_empty) ih

theorem textsFrom_binds (next : Nat) (vs : List Scalar) :
    textsFrom next (vs.map fun v => [.bind v]) =
      (List.range' next vs.length).map placeholder := by
  induction vs generalizing next with
  | nil => rfl
  | cons v vs ih =>
    rw [List.map_cons, textsFrom, List.length_cons, List.range'_succ, List.map_cons]
    exact congrArg₂ _ String.append_empty (ih (next + 1))

theorem textsFrom_assignments (next : Nat) (assignments : List (String × Scalar)) :
    textsFrom next (assignments.map Update.assignmentPieces) =
      (assignments.zipIdx next).map fun (a, i) => a.1 ++ " = " ++ placeholder i := by
  induction assignments generalizing next with
  | nil => rfl
  | cons a assignments ih =>
    rw [List.map_cons, textsFrom, List.zipIdx_cons, List.map_cons]
    refine congrArg₂ _ ?_ (ih (next + 1))
    have hequals : " = " = " " ++ ("=" ++ " ") := rfl
    rw [hequals]
    simp only [Update.assignmentPieces, textFrom, placeholder, String.append_assoc,
      String.append_empty]

theorem keys_parameters (ps : Pieces) :
    ((values ps).zipIdx.map fun (v, i) => (parameterName i, v)).map Prod.fst =
      (List.range (values ps).length).map parameterName := by
  rw [List.map_map, List.range_eq_range', ← List.zipIdx_map_snd 0, List.map_map]
  rfl

end Piece

theorem Insert.text_eq {s : Insert} {ps : Pieces} (h : s.pieces = .ok ps) :
    Piece.text ps = "INSERT INTO " ++ s.entity.table ++ " (" ++
      ", ".intercalate (s.values.map Prod.fst) ++ ") VALUES (" ++
      ", ".intercalate ((List.range s.values.length).map Piece.placeholder) ++ ")" := by
  obtain ⟨_, hcolumns, rfl⟩ := pieces_eq_ok h
  have hnone := ((rendersAll_words hcolumns).separated Piece.separates_comma).values_eq
  have hinto : "INSERT INTO " = "INSERT" ++ (" " ++ ("INTO" ++ " ")) := rfl
  have hopen : " (" = " " ++ "(" := rfl
  have hvalues : ") VALUES (" = ")" ++ (" " ++ ("VALUES" ++ (" " ++ "("))) := rfl
  rw [hinto, hopen, hvalues]
  simp only [Piece.text, Piece.words, Piece.phrase, Piece.parenthesized, Piece.separated,
    List.map_cons, List.map_nil, Piece.textFrom_append, Piece.textFrom_separated_comma,
    Piece.textsFrom_words, Piece.textsFrom_binds, Piece.values_append, Piece.values, textFrom,
    List.cons_append, List.nil_append, String.append_assoc, String.append_empty, hnone,
    List.length_nil, Nat.add_zero, List.length_map, List.range_eq_range']

theorem Update.text_eq {s : Update} {ps : Pieces} (h : s.pieces = .ok ps) :
    ∃ rest, (rest = "" ∨ ∃ condition, rest = " WHERE " ++ condition) ∧
      Piece.text ps = "UPDATE " ++ s.entity.table ++ " SET " ++
        ", ".intercalate (s.assignments.zipIdx.map fun (a, i) => a.1 ++ " = " ++ Piece.placeholder i)
        ++ rest := by
  obtain ⟨_, _, condition, hcondition, rfl⟩ := pieces_eq_ok h
  have hupdate : "UPDATE " = "UPDATE" ++ " " := rfl
  have hset : " SET " = " " ++ ("SET" ++ " ") := rfl
  have hwhere : " WHERE " = " " ++ ("WHERE" ++ " ") := rfl
  let places := Piece.values (Piece.separated Piece.comma (s.assignments.map assignmentPieces))
  refine ⟨textFrom places.length condition, ?_, ?_⟩
  · rcases wherePieces_eq_ok hcondition with rfl | ⟨rest, rfl⟩
    · exact .inl rfl
    · refine .inr ⟨textFrom places.length rest, ?_⟩
      rw [hwhere]
      simp only [Piece.phrase, Piece.words, Piece.separated, List.map_cons, List.map_nil,
        List.cons_append, List.nil_append, textFrom, String.append_assoc]
  · rw [hupdate, hset]
    simp only [Piece.text, Piece.words, Piece.phrase, Piece.separated, List.map_cons,
      List.map_nil, Piece.textFrom_append, Piece.textFrom_separated_comma,
      Piece.textsFrom_assignments, textFrom, List.cons_append, List.nil_append,
      String.append_assoc, Nat.zero_add, places]

namespace Statement

/-- Where the assigned columns stand: the place of the value assigned to the column that comes
first in the list comes first, and so on. -/
def AssignsIn : Statement → String → Prop
  | .insert s, sql =>
    sql = "INSERT INTO " ++ s.entity.table ++ " (" ++ ", ".intercalate (s.values.map Prod.fst) ++
      ") VALUES (" ++ ", ".intercalate ((List.range s.values.length).map Piece.placeholder) ++ ")"
  | .update s, sql =>
    ∃ rest, (rest = "" ∨ ∃ condition, rest = " WHERE " ++ condition) ∧
      sql = "UPDATE " ++ s.entity.table ++ " SET " ++
        ", ".intercalate (s.assignments.zipIdx.map fun (a, i) => a.1 ++ " = " ++ Piece.placeholder i)
        ++ rest
  | _, _ => True

/-- The placeholders of a text and the parameters beside it are those of the statement's values. -/
structure BoundBy (s : Statement) (q : SerializedQuery) : Prop where
  placeholders_eq :
    placeholders q.sql.toList = (List.range s.literals.length).map parameterName
  distinct : ((List.range s.literals.length).map parameterName).Nodup
  keys : q.parameters.keys.Perm ((List.range s.literals.length).map parameterName)
  value : ∀ i v, s.literals[i]? = some v → q.parameters.get? (parameterName i) = some v
  assigned : ∀ i column v, s.assignments[i]? = some (column, v) →
    q.parameters.get? (parameterName i) = some v
  text : s.AssignsIn q.sql

end Statement

theorem Piece.parameterNames_nodup (n : Nat) : ((List.range n).map parameterName).Nodup :=
  List.Nodup.map (fun _ _ => Piece.parameterName_injective) List.nodup_range

/-- Placeholders, parameters and values of a serialized statement correspond one to one. -/
theorem placeholders_match_parameters {s : Statement} {q : SerializedQuery}
    (h : s.serialize = .ok q) : s.BoundBy q := by
  obtain ⟨ps, hps, rfl⟩ := Statement.serialize_eq_ok h
  have hrenders := Statement.renders hps
  have hdistinct := Piece.parameterNames_nodup s.literals.length
  have hnames := Piece.keys_parameters ps
  rw [hrenders.values_eq] at hnames
  have hentries : (((Piece.values ps).zipIdx.map fun (v, i) => (parameterName i, v)).map
      Prod.fst).Nodup := by
    rw [hrenders.values_eq, hnames]
    exact hdistinct
  have hvalue : ∀ i v, s.literals[i]? = some v →
      (Piece.parameters ps).get? (parameterName i) = some v := by
    intro i v hi
    refine KeyMap.get?_ofList hentries (List.mem_map.2 ⟨(v, i), ?_, rfl⟩)
    rw [hrenders.values_eq]
    exact List.mk_mem_zipIdx_iff_getElem?.2 hi
  refine ⟨?_, hdistinct, ?_, hvalue, ?_, ?_⟩
  · rw [List.range_eq_range']
    exact hrenders.placeholders_textFrom 0
  · refine (List.perm_ext_iff_of_nodup (Piece.parameters ps).ascending.keys_nodup hdistinct).2
      fun name => ?_
    rw [← hnames, ← hrenders.values_eq]
    exact KeyMap.mem_keys_ofList
  · intro i column v hi
    apply hvalue i v
    have hlt := (List.getElem?_eq_some_iff.1 hi).1
    simp only [Statement.literals, List.append_assoc]
    rw [List.getElem?_append_left (by rwa [List.length_map]), List.getElem?_map, hi]
    rfl
  · cases s with
    | select s => trivial
    | insert s => exact Insert.text_eq hps
    | update s => exact Update.text_eq hps
    | delete s => trivial

/-- A change with equal values and a test against an empty list. -/
def nameChange : Update :=
  ((Update.of ⟨"User", "users", ["id", "name"]⟩).set "name" (.text "Ann")).filter
    (.any [.member (.column ⟨none, "id"⟩) [.int 1, .int 1] false,
      .member (.function "lower" [.literal (.text "x")]) [] false])

theorem nameChange_bound : ∃ q, (Statement.update nameChange).serialize = .ok q ∧
    q.sql = "UPDATE users SET name = :p0 WHERE id IN (:p1, :p2) OR 1 = 0" ∧
    (Statement.update nameChange).BoundBy q := by
  exact ⟨_, rfl, rfl, placeholders_match_parameters rfl⟩

end StatementGate
