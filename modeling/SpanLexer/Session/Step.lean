import SpanLexer.Session

/-!
Steps of a session and their answers.
-/
namespace SpanLexer

/-- Something asked of a cursor. -/
inductive Query where
  | position
  | remaining
  | hasMore
  | text
  | render
  | units
  | seek (target : Int)
  | advance (amount : Int)
  | unitAt (index : Int)
  | startsWith (literal : List Char)
  | spanFrom (start : Int) (as : Option String)
  | buffer

/-- A step of a session. -/
inductive Step where
  /-- Names a buffer. -/
  | buffer (name : String) (buffer : BufferRef)
  /-- Names a cursor. -/
  | cursor (name : String) (buffer : BufferRef) (start : Int) (stop : Option Int)
  /-- Names a pattern. -/
  | pattern (name : String) (expression : Expr)
  /-- Runs a pattern on a cursor and names what it gave. -/
  | run (pattern cursor : String) (as : Option String)
  /-- Names a span of the rows of a source. -/
  | span (name : String) (buffer : BufferRef) (start stop : Int)
  /-- Shows a span. -/
  | inspect (span : String)
  /-- Compares two spans by their positions. -/
  | equal (first second : String)
  /-- Counts different spans. -/
  | distinct (spans : List String)
  /-- Assigns an octet, an item or a row of a buffer. -/
  | poke (buffer : String) (index value : Int)
  /-- Shortens a buffer. -/
  | truncate (buffer : String) (stop : Int)
  /-- Lengthens a buffer. -/
  | extend (buffer : String) (octets : List UInt8)
  /-- Shows what was collected into a list. -/
  | collected (list : String)
  /-- Asks something of a cursor. -/
  | query (cursor : String) (query : Query)

/-- What a cursor answers. -/
inductive Reply where
  | nothing
  | number (value : Nat)
  | truth (value : Bool)
  | text (value : List Char)
  | units (value : List Char)
  | span (value : SpanReport)
  | buffer (typeName : String) (size : Nat)

/-- The answer to a step. -/
inductive Answer where
  | done
  | placed (position remaining : Nat)
  | built (label written : String)
  | ran (report : RunReport)
  | span (report : SpanReport)
  | inspected (report : SpanReport) (written : String)
  | noSpan
  | truth (value : Bool)
  | count (value : Nat)
  | texts (value : List (List Char))
  | replied (reply : Except Fault Reply) (position : Nat)
  | failed (fault : Fault)

namespace Session

/-- Gives a name to a value; it hides an older value of the name. -/
def define {α : Type} (table : List (String × α)) (name : String) (value : α) :
    List (String × α) :=
  (name, value) :: table.filter fun (other, _) => other ≠ name

/-- Gives a name to a span, if there is a name. -/
def keepSpan (session : Session) (name : Option String) (span : Option PlacedSpan) : Session :=
  match name with
  | none => session
  | some name => { session with spans := define session.spans name span }

/-- Asks something of a cursor: the session afterwards, the reply and the position. -/
def ask (session : Session) (name : String) (placement : Placement) (query : Query) :
    Session × Answer :=
  let cursor := session.cursorAt placement
  let unmoved (reply : Except Fault Reply) := (session, Answer.replied reply cursor.position)
  let moved (target : Except Fault Cursor) : Session × Answer :=
    match target with
    | .error fault => unmoved (.error fault)
    | .ok target =>
      ({ session with
          cursors := define session.cursors name { placement with position := target.position } },
        .replied (.ok .nothing) target.position)
  match query with
  | .position => unmoved (.ok (.number cursor.position))
  | .remaining => unmoved (.ok (.number cursor.remaining))
  | .hasMore => unmoved (.ok (.truth (0 < cursor.remaining)))
  | .text => unmoved (.ok (.text cursor.rest))
  | .render => unmoved (.ok (.text cursor.render.toList))
  | .units => unmoved (.ok (.units cursor.rest))
  | .seek target => moved (cursor.seek target)
  | .advance amount => moved (cursor.advance amount)
  | .unitAt index => unmoved ((cursor.unitAt index).map fun unit => .text [unit])
  | .startsWith literal => unmoved (.ok (.truth (cursor.startsWith literal)))
  | .spanFrom start name =>
    let span := cursor.spanFrom start
    (session.keepSpan name (some ⟨placement.source, .units, span⟩),
      .replied (.ok (.span (session.report placement.source span))) cursor.position)
  | .buffer => unmoved (.ok (.buffer cursor.buffer.typeName cursor.buffer.size))

/-- Changes a named buffer in place. -/
def change (session : Session) (name : String) (edit : Source → Except Fault Source) :
    Except Fault (Session × Answer) := do
  let place ← find session.buffers name
  let source ← edit (session.sourceAt place)
  return ({ session with sources := session.sources.set place source }, .done)

/-- Performs a step, or tells why it cannot be performed. -/
def attempt (session : Session) : Step → Except Fault (Session × Answer)
  | .buffer name buffer => do
    let (session, place) ← session.locate buffer
    return ({ session with buffers := define session.buffers name place }, .done)
  | .cursor name buffer start stop => do
    let (session, placement) ← session.place buffer start stop
    return ({ session with cursors := define session.cursors name placement },
      .placed placement.position (placement.limit - placement.position))
  | .pattern name expression => do
    let built := expression.buildPattern session.library
    let pattern ← built.result
    let session := built.opened.foldl openList session
    return ({ session with library := define session.library name pattern },
      .built pattern.label pattern.render)
  | .run patternName cursorName name => do
    let pattern ← find session.library patternName
    let placement ← find session.cursors cursorName
    let (session, done) := session.runAt pattern placement
    let moved := { placement with position := done.position }
    let session := { session with cursors := define session.cursors cursorName moved }
    let report := session.reportRun placement done
    match done.outcome with
    | .error _ => return (session, .ran report)
    | .ok span =>
      let placed := span.map (PlacedSpan.mk placement.source .units)
      return (session.keepSpan name placed, .ran report)
  | .span name buffer start stop => do
    let (session, place) ← session.locate buffer
    let placed : PlacedSpan := ⟨place, .rows, ⟨start, stop⟩⟩
    let report ← session.reportPlaced placed
    return (session.keepSpan (some name) (some placed), .span report)
  | .inspect name => do
    match ← find session.spans name with
    | none => return (session, .noSpan)
    | some placed =>
      let report ← session.reportPlaced placed
      return (session, .inspected report placed.span.render)
  | .equal first second => do
    let one ← find session.spans first
    let other ← find session.spans second
    return (session, .truth (one.map PlacedSpan.span = other.map PlacedSpan.span))
  | .distinct names => do
    let spans ← names.mapM (find session.spans)
    return (session, .count (spans.map fun span => span.map PlacedSpan.span).eraseDups.length)
  | .poke name index value => session.change name (Source.poke index value)
  | .truncate name stop => session.change name fun source => .ok (source.truncate stop)
  | .extend name octets => session.change name fun source => .ok (source.extend octets)
  | .collected name => return (session, .texts ((session.lists.lookup name).getD []))
  | .query name query => do
    let placement ← find session.cursors name
    return session.ask name placement query

/-- Performs a step; one that fails changes nothing. -/
def step (session : Session) (step : Step) : Session × Answer :=
  match session.attempt step with
  | .ok result => result
  | .error fault => (session, .failed fault)

/-- Performs steps one after another. -/
def steps (session : Session) : List Step → Session × List Answer
  | [] => (session, [])
  | step :: others =>
    let (next, answer) := session.step step
    let (last, answers) := next.steps others
    (last, answer :: answers)

end Session

end SpanLexer
