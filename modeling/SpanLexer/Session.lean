import SpanLexer.Grammar

/-!
Sessions: buffers, cursors, patterns and spans under names, used step by step.

Buffers are shared. A cursor or a span holds numbers and the place of its buffer, so it sees the
buffer as it is when it is used; changing a buffer changes no number. A step that fails defines
nothing.
-/
namespace SpanLexer

/-- A cursor without the contents of its buffer, which are found at a place of the session. -/
structure Placement where
  source : Nat
  origin : Nat
  position : Nat
  limit : Nat
  deriving DecidableEq, Repr

/-- What the positions of a span count: units of the buffer a source makes, or rows of the source
itself, whether it makes a buffer or not. -/
inductive Basis where
  | units
  | rows
  deriving DecidableEq, Repr

/-- A span, what it counts and the place of its source. -/
structure PlacedSpan where
  source : Nat
  basis : Basis
  span : Span
  deriving DecidableEq, Repr

/-- What there is under names, and the lists that observers collect into. -/
structure Session where
  sources : List Source
  buffers : List (String × Nat)
  cursors : List (String × Placement)
  library : Library
  spans : List (String × Option PlacedSpan)
  lists : List (String × List (List Char))

/-- A buffer that is given with a step, or one that has a name. -/
inductive BufferRef where
  | fresh (offer : Source.Offer)
  | named (name : String)

/-- A span together with what it stands for in its buffer now. -/
structure SpanReport where
  span : Span
  length : Except Fault Nat
  text : List Char
  typeName : String

/-- One run of a pattern: its span or its fault, where the cursor is now, and what happened. -/
structure RunReport where
  outcome : Except Fault (Option SpanReport)
  position : Nat
  remaining : Nat
  trace : Trace

namespace Session

/-- Nothing has a name yet. -/
def empty : Session :=
  ⟨[], [], [], [], [], []⟩

/-- What has the name, or that nothing has. -/
def find {α : Type} (table : List (String × α)) (name : String) : Except Fault α :=
  match table.lookup name with
  | some value => .ok value
  | none => .error (.unknownName name)

/-- The source at a place. -/
def sourceAt (session : Session) (source : Nat) : Source :=
  session.sources.getD source (.text [])

/-- The contents of the buffer at a place. -/
def contentsAt (session : Session) (source : Nat) : Buffer :=
  (session.sourceAt source).contents

/-- The cursor of a placement on the contents its buffer has now. -/
def cursorAt (session : Session) (placement : Placement) : Cursor :=
  ⟨session.contentsAt placement.source, placement.origin, placement.position, placement.limit⟩

/-- The place of a buffer; a given one takes the next place. -/
def locate (session : Session) : BufferRef → Except Fault (Session × Nat)
  | .fresh offer =>
    match offer.make with
    | .error why => .error (.source why)
    | .ok source =>
      .ok ({ session with sources := session.sources ++ [source] }, session.sources.length)
  | .named name => (find session.buffers name).map fun source => (session, source)

/-- Puts a cursor on a buffer. -/
def place (session : Session) (buffer : BufferRef) (start : Int) (stop : Option Int) :
    Except Fault (Session × Placement) := do
  let (session, source) ← session.locate buffer
  let buffer ← (session.sourceAt source).buffer
  let cursor ← Cursor.ofBuffer buffer start stop
  return (session, ⟨source, cursor.origin, cursor.position, cursor.limit⟩)

/-- A list that observers collect into, empty unless it is there already. -/
def openList (session : Session) (name : String) : Session :=
  match session.lists.lookup name with
  | some _ => session
  | none => { session with lists := session.lists ++ [(name, [])] }

/-- Puts a text at the end of a list. -/
def append (session : Session) (name : String) (text : List Char) : Session :=
  { session with
    lists := session.lists.map fun (other, texts) =>
      if other = name then (other, texts ++ [text]) else (other, texts) }

/-- What an event does to the lists. -/
def absorb (session : Session) : Event → Session
  | .opened name => session.openList name
  | .observed (.list name) _ text _ => session.append name text
  | _ => session

/-- A span of the buffer at a place with what it stands for now. -/
def report (session : Session) (source : Nat) (span : Span) : SpanReport :=
  let buffer := session.contentsAt source
  ⟨span, span.length?, buffer.textOf span, buffer.typeName⟩

/-- A placed span with what it stands for now, if its source can be divided at all. -/
def reportPlaced (session : Session) (placed : PlacedSpan) : Except Fault SpanReport :=
  match placed.basis with
  | .units => .ok (session.report placed.source placed.span)
  | .rows =>
    match (session.sourceAt placed.source).part placed.span with
    | .error why => .error (.source why)
    | .ok text => .ok { session.report placed.source placed.span with text }

/-- Runs a pattern at a placement. -/
def runAt (session : Session) (pattern : Pattern Callable) (placement : Placement) :
    Session × Run (Option Span) :=
  let done := (session.library.run pattern).run (session.cursorAt placement)
  (done.trace.foldl absorb session, done)

/-- What there is to tell of a run. -/
def reportRun (session : Session) (placement : Placement) (done : Run (Option Span)) :
    RunReport :=
  ⟨done.outcome.map fun span => span.map (session.report placement.source),
    done.position, placement.limit - done.position, done.trace⟩

end Session

/-- Several runs of one pattern on one cursor. -/
structure Trial where
  label : String
  runs : List RunReport
  lists : List (String × List (List Char))

namespace Session

/-- Runs a pattern again and again from where it left the cursor, also after a fault. -/
def repeatRun (pattern : Pattern Callable) :
    Nat → Session → Placement → Session × List RunReport
  | 0, session, _ => (session, [])
  | times + 1, session, placement =>
    let (next, done) := session.runAt pattern placement
    let (last, others) := repeatRun pattern times next { placement with position := done.position }
    (last, next.reportRun placement done :: others)

/-- Builds a pattern, puts a cursor on a buffer and runs the one on the other. -/
def trial (expression : Expr) (buffer : BufferRef) (start : Int) (stop : Option Int)
    (times : Nat) : Except Fault Trial := do
  let built := expression.buildPattern []
  let pattern ← built.result
  let (session, placement) ← (built.opened.foldl openList empty).place buffer start stop
  let (last, runs) := repeatRun pattern times session placement
  return ⟨pattern.label, runs, last.lists⟩

end Session

end SpanLexer
