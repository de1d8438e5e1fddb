import StatementGate.Descriptor.Basic
import StatementGate.Descriptor.Token

/-! # Reading descriptors

`Descriptor.parse` reads a text against the grammar

    Type := Name | Quoted | Optional[Type] | list[Type] | List[Type] | Union[Type, Type, …]

where names without a namespace take the one of the place they were written in. -/

namespace StatementGate.Descriptor

inductive Generic where
  | optional | list | union

def Generic.ofName? (name : String) : Option Generic :=
  if name = "Optional" then some .optional
  else if name = "list" ∨ name = "List" then some .list
  else if name = "Union" then some .union
  else none

/-- The generic applied to its arguments, of which there is at least one. -/
def Generic.apply (generic : Generic) (name : String) (arguments : List Descriptor) :
    Except DescriptorError Descriptor :=
  match generic, arguments with
  | .optional, [inner] => .ok (.optional inner)
  | .list, [item] => .ok (.list item)
  | .union, first :: second :: rest => .ok (.union (first :: second :: rest))
  | _, arguments => .error (.arity name arguments.length)

/-- Splits a dotted text at its last dot. -/
def splitLastDot? (s : String) : Option (String × String) :=
  let reversed := s.toList.reverse
  match reversed.dropWhile (· != '.') with
  | [] => none
  | _ :: before =>
    some (String.ofList before.reverse, String.ofList (reversed.takeWhile (· != '.')).reverse)

def ofName (space : String) (text : String) : Descriptor :=
  match ScalarKind.ofName? text with
  | some kind => .scalar kind
  | none =>
    match splitLastDot? text with
    | some (space, name) => .named ⟨space, name⟩
    | none => .named ⟨space, text⟩

/-- The error of finding something else; `stop` is the byte length of the text. -/
def unexpected (what : Expectation) (stop : Nat) : List LocatedToken → DescriptorError
  | [] => .expected what stop none
  | found :: _ => .expected what found.offset (some found.token)

/-- Arguments up to the closing bracket. With a `fuel` of the number of tokens, the last argument
read without fuel finds none left. -/
def arguments (item : List LocatedToken → Except DescriptorError (Descriptor × List LocatedToken))
    (stop : Nat) : (fuel : Nat) → List LocatedToken →
    Except DescriptorError (List Descriptor × List LocatedToken)
  | fuel, tokens => do
    let (first, rest) ← item tokens
    match rest with
    | ⟨.closing, _⟩ :: rest => pure ([first], rest)
    | ⟨.comma, _⟩ :: rest =>
      match fuel with
      | 0 => throw .empty
      | fuel + 1 =>
        let (others, rest) ← arguments item stop fuel rest
        pure (first :: others, rest)
    | rest => throw (unexpected .separator stop rest)

/-- One type at the head of the tokens, with `budget - 1` brackets still allowed inside it. -/
def parseType (space : String) (stop : Nat) : (budget : Nat) → List LocatedToken →
    Except DescriptorError (Descriptor × List LocatedToken)
  | 0, _ => throw .tooDeep
  | budget + 1, tokens =>
    match tokens with
    | ⟨.name name, offset⟩ :: ⟨.opening, _⟩ :: rest =>
      match Generic.ofName? name with
      | none => throw (.unknownGeneric name offset)
      | some generic => do
        let (inner, rest) ← arguments (parseType space stop budget) stop rest.length rest
        pure (← generic.apply name inner, rest)
    | ⟨.name text, _⟩ :: rest | ⟨.quoted text, _⟩ :: rest => pure (ofName space text, rest)
    | tokens => throw (unexpected .type stop tokens)

/-- Reads a descriptor written in namespace `space`. -/
def parse (text : String) (space : String) : Except DescriptorError Descriptor := do
  let stop := text.utf8ByteSize
  if stop > maxDescriptorBytes then throw .tooLong
  if !isDottedIdentifier space then throw (.invalidNamespace space)
  let tokens ← Token.scan 0 text.toList
  if tokens.isEmpty then throw .empty
  let (descriptor, rest) ← parseType space stop (maxDescriptorDepth + 1) tokens
  if !rest.isEmpty then throw (unexpected .nothing stop rest)
  pure descriptor

end StatementGate.Descriptor
