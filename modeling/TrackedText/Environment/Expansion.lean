import TrackedText.Environment
import TrackedText.Text.Alphanumeric

namespace TrackedText

inductive Fragment
  | plain (t : Text)
  | mention (name : Text) (fallback? : Option Text)
  deriving DecidableEq, Repr

namespace Fragment

def isNameChar (c : Char) : Bool := Text.isAlphanumeric c || c == '_'

def splitFallback : Text → Option (Text × Text)
  | [] => none
  | ':' :: '-' :: t => some ([], t)
  | c :: t => (splitFallback t).map fun (a, b) => (c :: a, b)

def braced (inner : Text) : Fragment :=
  match splitFallback inner with
  | some (c :: name, fallback) => mention (c :: name) (some fallback)
  | _ => mention inner none

def afterDollar : Text → Fragment × Nat
  | [] => (plain ['$'], 0)
  | c :: t =>
    if c = '\x7b' then
      if t.contains '\x7d' then
        let inner := t.takeWhile (· != '\x7d')
        (braced inner, inner.length + 2)
      else (plain ['$', c], 1)
    else if isNameChar c then
      let name := (c :: t).takeWhile isNameChar
      (mention name none, name.length)
    else if c = '$' then (plain ['$'], 1)
    else (plain ['$'], 0)

/-- The fragments of a text whose first `skip` characters belong to one already read. -/
def split : (skip : Nat) → Text → List Fragment
  | _, [] => []
  | skip + 1, _ :: t => split skip t
  | 0, c :: t =>
    if c = '$' then (afterDollar t).1 :: split (afterDollar t).2 t
    else plain [c] :: split 0 t

def value? (env : Environment) : Fragment → Option Text
  | plain t => some t
  | mention name fallback? => (env.get? name).or fallback?

end Fragment

namespace Environment

variable (env : Environment)

def expandVariables (t : Text) : Option Text :=
  ((Fragment.split 0 t).mapM (Fragment.value? env)).map List.flatten

def expandTilde (t : Text) : Text :=
  match t, env.home? with
  | ['~'], some home => home
  | '~' :: '/' :: rest, some home => home ++ '/' :: rest
  | t, _ => t

/-- Variables first, then the tilde, unless a variable brought it to the front. -/
def expand? (t : Text) : Option Text :=
  (env.expandVariables t).map fun expanded =>
    if expanded.head? = some '~' ∧ t.head? ≠ some '~' then expanded else env.expandTilde expanded

def expand (t : Text) : Text := (env.expand? t).getD t

end Environment

end TrackedText
