import PathSets.Log.Notice
import PathSets.Session.Query

/-!
# Sessions

A session is a run of steps that share names, a supply and a log.  A step asks about sets or works
on the log; a step that fails binds nothing, and the session goes on.
-/

namespace PathSets

/-- A step that works on the log. -/
inductive LogStep where
  /-- Open a handle and bind it.  Without a name it is on the library's channel, without a level
  at that of warnings, and without sinks on a new console. -/
  | openHandle (bound : String) (name level : Option Expression) (sinks : Option (List Sink))
  /-- Get the global handle of a name, the library's if none is given, and perhaps bind it. -/
  | acquire (name : Option Expression) (bound : Option String)
  /-- Make a bound handle the global one, or have none. -/
  | setCurrent (handle : Option String)
  /-- Set the level of the channel of a bound handle. -/
  | setLevel (handle : String) (level : Expression)
  /-- Emit a debugging record, unless a key of its context is reserved. -/
  | debug (handle message : String) (context : List (String × Expression))
  /-- Look at a bound handle. -/
  | inspect (handle : String)
  /-- Look at the global handle. -/
  | inspectCurrent
deriving Inhabited

/-- A step of a session. -/
inductive Step where
  | query (query : Query)
  | log (step : LogStep)
deriving Inhabited

/-- A handle and the state of its channel. -/
structure HandleView where
  /-- The name of the channel. -/
  name : String
  /-- The configuration of the channel. -/
  channel : Channel
  /-- Whether debugging records of the channel pass. -/
  enabled : Bool
deriving DecidableEq, Repr, Inhabited

/-- The answer to a step. -/
inductive Answer where
  | finding (finding : Finding)
  /-- A handle. -/
  | handle (view : HandleView)
  /-- The global handle that was asked for, and the names it was already bound to. -/
  | acquired (view : HandleView) (names : List String)
  /-- The global handle, if there is one. -/
  | current (view : Option HandleView)
  /-- Nothing but that it was done. -/
  | done
deriving Inhabited

/-- What comes of a step. -/
structure Report where
  /-- The answer, or why there is none. -/
  answer : Except Fault Answer
  /-- What was delivered to sinks during the step, in order. -/
  deliveries : List Delivery

/-- The state of a session. -/
structure Session where
  /-- The values that have names. -/
  names : Names
  /-- The handles that have names, each name once. -/
  handles : List (String × Handle)
  /-- What builds share. -/
  supply : Supply
  /-- The log. -/
  log : Log

/-- A handle and the state of its channel. -/
def Log.view (log : Log) (handle : Handle) : HandleView :=
  { name := handle.name, channel := log.channels handle.name, enabled := log.isEnabled handle.name }

/-- The context of a record from its entries; the last value of a key counts, at the first place of
the key. -/
def setContext (context : List (String × String)) (entry : String × String) :
    List (String × String) :=
  if context.any (·.1 = entry.1) then
    context.map fun held => if held.1 = entry.1 then entry else held
  else context ++ [entry]

namespace Session

variable {audience : Audience}

/-- The state before the first step. -/
def initial : Session where
  names := fun _ => none
  handles := []
  supply := .initial
  log := .initial

instance : Inhabited Session := ⟨initial⟩

/-- Give a value a name. -/
def define (session : Session) (name : String) (value : Value) : Session :=
  { session with names := fun other => if other = name then some value else session.names other }

/-- Give a handle a name. -/
def bindHandle (session : Session) (name : String) (handle : Handle) : Session :=
  { session with handles := (name, handle) :: session.handles.filter (·.1 ≠ name) }

/-- The handle of a name. -/
def handle? (session : Session) (name : String) : Except Fault Handle :=
  match session.handles.lookup name with
  | some handle => .ok handle
  | none => .error (.unbound name)

/-- The names of a handle, sorted. -/
def namesOf (session : Session) (handle : Handle) : List String :=
  ((session.handles.filter (·.2 = handle)).map (·.1)).mergeSort (fun left right => left ≤ right)

/-- Perform a build on the supply of a session, before its log. -/
def perform {α : Type} (session : Session) (build : Build .log α) :
    Except Fault α × List Delivery × Session :=
  let done := Build.perform build session.supply session.log
  (done.outcome, done.outputs, { session with supply := done.supply, log := done.state })

/-- Take a step that asks about sets. -/
def ask (session : Session) (query : Query) : Report × Session :=
  let (outcome, deliveries, session) := session.perform (query.find session.names)
  (⟨outcome.map .finding, deliveries⟩,
    match query, outcome with
    | .define name _, .ok (.value value) => session.define name value
    | _, _ => session)

/-- Evaluate an expression, or make a datum in its place if there is none. -/
def evaluateOr (session : Session) (default : Datum) (expression : Option Expression) :
    Build audience Value :=
  (expression.getD (.constant default)).evaluate session.names

/-- The name and the level that a handle is opened with. -/
def handleArguments (session : Session) (name level : Option Expression) :
    Build audience (Value × Value) := do
  let name ← session.evaluateOr (.text libraryChannel) name
  let level ← session.evaluateOr (.level .warning) level
  return (name, level)

/-- Evaluate the entries of a context, in order. -/
def evaluateContext (names : Names) :
    List (String × Expression) → Build audience (List (String × String))
  | [] => pure []
  | (key, expression) :: rest => do
      let value ← expression.evaluate names
      let others ← evaluateContext names rest
      return (key, value.plain) :: others

/-- Work on the log. -/
def operate (session : Session) : LogStep → Report × Session
  | .openHandle bound name level sinks =>
      let (outcome, deliveries, session) := session.perform (session.handleArguments name level)
      match outcome.bind fun (name, level) => session.log.openHandle name level sinks with
      | .error fault => (⟨.error fault, deliveries⟩, session)
      | .ok (handle, log) =>
          (⟨.ok (.handle (log.view handle)), deliveries⟩,
            { session with log }.bindHandle bound handle)
  | .acquire name bound =>
      let (outcome, deliveries, session) :=
        session.perform (session.evaluateOr (.text libraryChannel) name)
      match outcome.bind session.log.acquireNamed with
      | .error fault => (⟨.error fault, deliveries⟩, session)
      | .ok (handle, log) =>
          let answer := .acquired (log.view handle) (session.namesOf handle)
          let session := { session with log }
          (⟨.ok answer, deliveries⟩,
            match bound with
            | some name => session.bindHandle name handle
            | none => session)
  | .setCurrent none =>
      (⟨.ok .done, []⟩, { session with log := session.log.setCurrent none })
  | .setCurrent (some name) =>
      match session.handle? name with
      | .error fault => (⟨.error fault, []⟩, session)
      | .ok handle =>
          (⟨.ok .done, []⟩, { session with log := session.log.setCurrent (some handle) })
  | .setLevel name level =>
      match session.handle? name with
      | .error fault => (⟨.error fault, []⟩, session)
      | .ok handle =>
          let (outcome, deliveries, session) := session.perform (level.evaluate session.names)
          match outcome.bind (session.log.setLevel handle) with
          | .error fault => (⟨.error fault, deliveries⟩, session)
          | .ok log => (⟨.ok (.handle (log.view handle)), deliveries⟩, { session with log })
  | .debug name message context =>
      match session.handle? name with
      | .error fault => (⟨.error fault, []⟩, session)
      | .ok handle =>
          let (outcome, deliveries, session) :=
            session.perform (evaluateContext session.names context)
          match outcome with
          | .error fault => (⟨.error fault, deliveries⟩, session)
          | .ok entries =>
              match reservedKey? entries with
              | some key => (⟨.error (.keyReserved key), deliveries⟩, session)
              | none =>
                  let record := session.log.deliveries handle.name message
                    (entries.foldl setContext [])
                  (⟨.ok .done, deliveries ++ record⟩, session)
  | .inspect name =>
      (⟨(session.handle? name).map fun handle => .handle (session.log.view handle), []⟩, session)
  | .inspectCurrent =>
      (⟨.ok (.current (session.log.current.map session.log.view)), []⟩, session)

/-- Take a step. -/
def step (session : Session) : Step → Report × Session
  | .query query => session.ask query
  | .log step => session.operate step

/-- Take steps, in order. -/
def run (session : Session) : List Step → List Report × Session
  | [] => ([], session)
  | step :: rest =>
      let (report, session) := session.step step
      let (reports, session) := session.run rest
      (report :: reports, session)

end Session
end PathSets
