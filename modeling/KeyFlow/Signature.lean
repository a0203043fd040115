import KeyFlow.Key

/-!
Signatures list the keys a task takes and returns, with markers for the cancellation context and
the error. A signature has a shape when the context stands first and the error last.
-/

namespace KeyFlow

structure Signature where
  params : List Key := []
  results : List Key := []
  variadic : Bool := false
  deriving DecidableEq, Repr

/-- The ways in which a signature fails to have a shape. -/
inductive Misuse where
  | variadic
  | contextNotFirst
  | errorParam
  | errorNotLast
  | contextResult
  deriving DecidableEq, Repr

def Misuse.text : Misuse → String
  | .variadic => "variadic functions are not yet supported"
  | .contextNotFirst => "only the first argument may be the cancellation context"
  | .errorParam => "the error marker cannot be used as an argument"
  | .errorNotLast => "only the last result may be an error"
  | .contextResult => "the cancellation context cannot be returned"

/-- What is left of a signature once the markers are taken out. -/
structure Shape where
  inputs : List Key
  outputs : List Key
  wantsContext : Bool
  hasError : Bool
  deriving DecidableEq, Repr

namespace Signature

/-- One more parameter. -/
def param (s : Signature) (k : Key) : Signature := { s with params := s.params ++ [k] }

/-- One more result. -/
def result (s : Signature) (k : Key) : Signature := { s with results := s.results ++ [k] }

/-- Misplaced markers among parameters; `first` says whether the list starts at the first one. -/
def paramMisuses : Bool → List Key → List Misuse
  | _, [] => []
  | first, k :: ks =>
    (match k with
      | .context => if first then [] else [.contextNotFirst]
      | .error => [.errorParam]
      | _ => []) ++ paramMisuses false ks

/-- Misplaced markers among results. -/
def resultMisuses : List Key → List Misuse
  | [] => []
  | k :: ks =>
    (match k with
      | .error => if ks.isEmpty then [] else [.errorNotLast]
      | .context => [.contextResult]
      | _ => []) ++ resultMisuses ks

/-- A variadic signature is refused for that alone. -/
def misuses (s : Signature) : List Misuse :=
  if s.variadic then [.variadic] else paramMisuses true s.params ++ resultMisuses s.results

def inputs (s : Signature) : List Key := s.params.filter (!·.isMarker)

def outputs (s : Signature) : List Key := s.results.filter (!·.isMarker)

def wantsContext (s : Signature) : Bool := s.params.head? == some .context

def hasError (s : Signature) : Bool := s.results.getLast? == some .error

def shape (s : Signature) : Except (List Misuse) Shape :=
  match s.misuses with
  | [] => .ok ⟨s.inputs, s.outputs, s.wantsContext, s.hasError⟩
  | problems => .error problems

/-- Parameters as written, dots before the last one of a variadic signature. -/
def paramTexts (variadic : Bool) : List Key → List String
  | [] => []
  | [k] => [if variadic then "..." ++ k.text else k.text]
  | k :: ks => k.text :: paramTexts variadic ks

def text (s : Signature) : String :=
  let params := ", ".intercalate (paramTexts s.variadic s.params)
  let results := ", ".intercalate (s.results.map Key.text)
  match s.results with
  | [] => s!"fn({params})"
  | [_] => s!"fn({params}) -> {results}"
  | _ => s!"fn({params}) -> ({results})"

end Signature

end KeyFlow
