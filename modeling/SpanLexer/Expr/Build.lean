import SpanLexer.Expr

/-!
Building: from an expression to the pattern it asks for, or to the first reason against it.

An expression's observer is made before its parts and the parts from left to right; the checks of
an expression run when all of them are made. Building never matches anything. Besides its result
it tells which lists observers were made for, also when it fails later on.
-/
namespace SpanLexer

/-- A result of building, with the lists that observers were made for on the way. -/
structure Build (α : Type) where
  opened : List String
  result : Except Fault α

namespace Build

variable {α β : Type}

/-- A value that needs no building. -/
def done (value : α) : Build α :=
  ⟨[], .ok value⟩

/-- Goes on with what has been built, unless that was refused. -/
def andThen (first : Build α) (next : α → Build β) : Build β :=
  match first.result with
  | .error fault => ⟨first.opened, .error fault⟩
  | .ok value => ⟨first.opened ++ (next value).opened, (next value).result⟩

instance : Monad Build where
  pure := done
  bind := andThen

/-- A check that makes no observer. -/
def lift (value : Except Fault α) : Build α :=
  ⟨[], value⟩

/-- Refuses a composition. -/
def refuse (why : Malformed) : Build α :=
  ⟨[], .error (.malformed why)⟩

/-- Makes the observer that is offered, before it is checked. -/
def offer (observer : Observer.Offer) : Build Unit :=
  match observer with
  | .collector list => ⟨[list], .ok ()⟩
  | _ => ⟨[], .ok ()⟩

end Build

/-- What an expression turns out to be. -/
inductive Part where
  | pattern (built : Pattern Callable)
  | callable (label : String) (target : Callable)
  | datum (value : Datum)

namespace Part

/-- What the type of a part is called. -/
def typeName : Part → String
  | .pattern _ => "Tokenizer"
  | .callable _ _ => "function"
  | .datum value => value.typeName

/-- The part is a pattern already, and not only a callable that could be made one. -/
def isPattern : Part → Bool
  | .pattern _ => true
  | _ => false

/-- A part as a pattern: a callable is one under its own name, a datum is none. -/
def asPattern : Part → Except Fault (Pattern Callable)
  | .pattern built => .ok built
  | .callable label target => .ok (.callable label target)
  | .datum value => .error (.malformed (.notPattern value))

/-- Several parts as patterns; the first that is none is the reason against all. -/
def allPatterns : List Part → Except Fault (List (Pattern Callable))
  | [] => .ok []
  | part :: others =>
    match part.asPattern, allPatterns others with
    | .error fault, _ => .error fault
    | .ok _, .error fault => .error fault
    | .ok first, .ok rest => .ok (first :: rest)

/-- Anything taken for a pattern under a label, or else under the name it has or the name of its
type. Nothing is checked: a datum gives a pattern that cannot be run. -/
def labelled (label : String) : Part → Pattern Callable
  | .pattern built => .labelled (Pattern.labelOr label "Tokenizer") built
  | .callable name target => .callable (Pattern.labelOr label name) target
  | .datum value => .inert (Pattern.labelOr label value.typeName) value.typeName

end Part

/-- The count a datum stands for: only integers that are not negative are counts. -/
def Datum.count : Datum → Except Fault Nat
  | .int value =>
    if value < 0 then .error (.malformed (.badCount (.int value))) else .ok value.toNat
  | given => .error (.malformed (.badCount given))

namespace Expr

open Build

/-- A pattern on top of a body that has been built. -/
def ofBody (body : Part) (observer : Observer.Offer)
    (make : Pattern Callable → Observer → Pattern Callable) : Build Part := do
  let pattern ← lift body.asPattern
  let accepted ← lift observer.accept
  return .pattern (make pattern accepted)

mutual

/-- Builds an expression, with the patterns that have names now. -/
def build (library : Library) : Expr → Build Part
  | .ofClass unitClass observer => do
    offer observer
    let accepted ← lift observer.accept
    return .pattern (.ofClass unitClass accepted)
  | .recipe token observer => do
    offer observer
    let accepted ← lift observer.accept
    return .pattern (token.pattern accepted)
  | .literal argument observer => do
    offer observer
    let text ← lift argument.characters
    if text.isEmpty then
      refuse .emptyLiteral
    else
      let accepted ← lift observer.accept
      return .pattern (.literal text accepted)
  | .character argument observer => do
    offer observer
    let text ← lift argument.characters
    match text with
    | [wanted] =>
      let accepted ← lift observer.accept
      return .pattern (.character wanted accepted)
    | given => refuse (.notOneCharacter given)
  | .anyOf argument observer => do
    offer observer
    let group ← lift argument.characters
    let accepted ← lift observer.accept
    return .pattern (.anyOf group accepted)
  | .noneOf argument observer => do
    offer observer
    let group ← lift argument.characters
    let accepted ← lift observer.accept
    return .pattern (.noneOf group accepted)
  | .unit predicate observer label => do
    offer observer
    let asked ← lift predicate.accept
    let accepted ← lift observer.accept
    return .pattern (.unit (Pattern.labelOr (label.getD "") "single_char") asked accepted)
  | .seq parts observer => do
    offer observer
    let built ← buildAll library parts
    if built.isEmpty then
      refuse .emptySequence
    else
      let patterns ← lift (Part.allPatterns built)
      let accepted ← lift observer.accept
      return .pattern (.seq patterns accepted)
  | .choice alternatives observer => do
    offer observer
    let built ← buildAll library alternatives
    if built.isEmpty then
      refuse .emptyChoice
    else
      let patterns ← lift (Part.allPatterns built)
      let accepted ← lift observer.accept
      return .pattern (.choice patterns accepted)
  | .operator sign first second => do
    let left ← first.build library
    let right ← second.build library
    if left.isPattern || right.isPattern then
      let patterns ← lift (Part.allPatterns [left, right])
      return .pattern (sign.compose patterns .silent)
    else
      lift (.error (.operandsUnsupported sign.symbol left.typeName right.typeName))
  | .star body observer => do
    offer observer
    ofBody (← body.build library) observer .star
  | .plus body observer => do
    offer observer
    ofBody (← body.build library) observer .plus
  | .times body count observer => do
    offer observer
    let built ← body.build library
    let pattern ← lift built.asPattern
    let number ← lift count.count
    let accepted ← lift observer.accept
    return .pattern (.times pattern number accepted)
  | .optional body observer => do
    offer observer
    ofBody (← body.build library) observer .optional
  | .observed body observer => do
    offer observer
    let built ← body.build library
    if observer.isAbsent then
      refuse .observerMissing
    else
      ofBody built observer .observed
  | .labelled body label => do
    let built ← body.build library
    return .pattern (built.labelled (label.getD ""))
  | .datum value => return .datum value
  | .named name =>
    match library.lookup name with
    | some pattern => return .pattern pattern
    | none => lift (.error (.unknownName name))
  | .late name => return .callable "lazy" (.late name)
  | .script label actions => return .callable label (.script actions)

/-- Builds several expressions from left to right. -/
def buildAll (library : Library) : List Expr → Build (List Part)
  | [] => return []
  | expression :: others => do
    let part ← expression.build library
    let parts ← buildAll library others
    return part :: parts

end

/-- Builds an expression that has to be a pattern. -/
def buildPattern (library : Library) (expression : Expr) : Build (Pattern Callable) := do
  let part ← expression.build library
  lift part.asPattern

end Expr

end SpanLexer
