import Aegis.Library.Action
import Aegis.Library.Loop
import Aegis.Model.Payments

/-! # The reliable producer and its two fallbacks

An event goes to the broker, else to a Redis list of its topic, else to the table of dead
letters; two jobs bring what waits there back to the broker. The broker, Redis and the store
are one state with the memory of the service. -/

namespace Aegis.Kafka

open Payments (storeDown)

/-- What became of a remote call. A call that fails may have taken effect all the same. -/
inductive Reply where
  | ok
  | error (effective : Bool)
  deriving DecidableEq, Repr

namespace Reply

def returned : Reply → Bool
  | ok => true
  | error _ => false

def effective : Reply → Bool
  | ok => true
  | error effective => effective

@[simp] theorem returned_ok : ok.returned = true := rfl

@[simp] theorem returned_error (b : Bool) : (error b).returned = false := rfl

@[simp] theorem effective_ok : ok.effective = true := rfl

@[simp] theorem effective_error (b : Bool) : (error b).effective = b := rfl

theorem effective_of_returned {r : Reply} (h : r.returned = true) : r.effective = true := by
  cases r with
  | ok => rfl
  | error b => cases h

end Reply

/-- A message for the broker. The payload is the value that its JSON text stands for. -/
structure Event (P : Type) where
  topic : String
  key : Option String
  payload : P
  deriving DecidableEq

/-- An event in a fallback list. -/
structure QueueEntry (P : Type) extends Event P where
  pushedAt : ℤ
  deriving DecidableEq

/-- An element of a fallback list, by what `JSON.parse` makes of its text. -/
inductive Raw (P : Type) where
  | entry (entry : QueueEntry P)
  | corrupt (text : String)
  deriving DecidableEq

/-- The payload column of a dead letter, by what `JSON.parse` makes of its text. -/
inductive Parsed (P : Type) where
  | value (payload : P)
  | corrupt
  deriving DecidableEq

/-- A row of `kafka_dlq`. -/
structure DlqEntry (P : Type) where
  id : String
  topic : String
  eventKey : Option String
  payload : Parsed P
  error : Option String
  retryCount : ℕ
  status : String
  createdAt : ℤ
  deriving DecidableEq

def DlqEntry.keys {P : Type} (r : DlqEntry P) : List String := [r.id]

/-- A call of the replay function for a dead letter, and whether the broker got the message. -/
structure Replay (P : Type) where
  id : String
  event : Event P
  delivered : Bool

structure State (P : Type) where
  /-- The producer exists and is registered with both jobs. -/
  initialised : Bool := false
  kafkaAvailable : Bool := false
  redisClient : Bool := false
  /-- What the broker has, in the order in which it got it. -/
  delivered : List (Event P) := []
  /-- The list of each topic; `lPush` adds at its head and `rPop` takes from its end. -/
  queues : String → List (Raw P) := fun _ => []
  kafkaDLQ : Table (DlqEntry.keys (P := P)) := .empty
  /-- The deliveries of the drain so far, with the topic of the list each one came from. -/
  drained : List (String × QueueEntry P) := []
  /-- The calls of the replay function so far. -/
  replays : List (Replay P) := []

section Service

variable {P : Type}

/-! ## The producer -/

/-- `onModuleInit`, with whether the broker was reached. -/
def onModuleInit (connected : Bool) (s : State P) : State P :=
  { s with initialised := true, kafkaAvailable := connected }

/-- The memory of a process that has ended. -/
def down (s : State P) : State P :=
  { s with initialised := false, kafkaAvailable := false, redisClient := false }

/-- `onModuleDestroy` disconnects, whether or not that fails, and the process ends. -/
def onModuleDestroy (s : State P) : State P := down s

def sendFailed : Exn := .error "The broker did not acknowledge the message"

def emitRaw (send : Reply) (event : Event P) (s : State P) : Except Exn Unit × State P :=
  if s.initialised then
    let s := if send.effective then { s with delivered := s.delivered ++ [event] } else s
    if send.returned then (.ok (), { s with kafkaAvailable := true }) else (.error sendFailed, s)
  else (.error (.error "Producer not initialised"), s)

/-! ## The Redis fallback -/

/-- The client once there is one; `connect` says whether a new one can connect. -/
def getRedis (connect : Bool) (s : State P) : Bool × State P :=
  if s.redisClient || connect then (true, { s with redisClient := true }) else (false, s)

def lPush (r : Reply) (topic : String) (raw : Raw P) (s : State P) : Bool × State P :=
  (r.returned,
    if r.effective then
      { s with queues := Function.update s.queues topic (raw :: s.queues topic) }
    else s)

def rPop (r : Reply) (topic : String) (s : State P) : Option (Raw P) × State P :=
  (if r.returned then (s.queues topic).getLast? else none,
    if r.effective then
      { s with queues := Function.update s.queues topic (s.queues topic).dropLast }
    else s)

structure PushIo where
  connect : Bool
  lPush : Reply
  now : ℤ

def push (io : PushIo) (event : Event P) (s : State P) : Bool × State P :=
  match getRedis io.connect s with
  | (false, s) => (false, s)
  | (true, s) => lPush io.lPush event.topic (.entry ⟨event, io.now⟩) s

def DRAIN_BATCH_SIZE : ℕ := 50

/-- What draining one topic meets: the turns of the loop, the deliveries and the restore. -/
structure DrainIo where
  rPop : ℕ → Reply
  send : ℕ → Reply
  lPush : Reply

/-- A turn of the loop over a topic's list, `processed` entries having been delivered. -/
def drainTurn (io : DrainIo) (topic : String) (turn : ℕ) (c : ℕ × State P) :
    Loop.Flow (ℕ × State P) :=
  let (processed, s) := c
  if processed < DRAIN_BATCH_SIZE then
    match rPop (io.rPop turn) topic s with
    | (none, s) => .stop (processed, s)
    | (some (.corrupt text), s) =>
        -- an empty text counts as an empty list, any other corrupt entry is discarded
        if text = "" then .stop (processed, s) else .next (processed, s)
    | (some (.entry entry), s) =>
        match emitRaw (io.send processed) entry.toEvent s with
        | (.ok _, s) => .next (processed + 1, { s with drained := s.drained ++ [(topic, entry)] })
        | (.error _, s) => .stop (processed, (lPush io.lPush topic (.entry entry) s).2)
  else .stop c

/-- The loop over a topic's list. Every turn takes an entry or is the last one. -/
def drainTopic (io : DrainIo) (topic : String) (s : State P) : ℕ × State P :=
  Loop.run (drainTurn io topic) (List.range ((s.queues topic).length + 1)) (0, s)

/-- What a run of the drain meets. `keys` is the order in which the server scans the keys. -/
structure DrainQueueIo where
  connect : Bool
  keys : Option (List String)
  topic : String → DrainIo

/-- Lists without entries have no key. -/
def topicsOf (keys : List String) (s : State P) : List String :=
  keys.dedup.filter fun topic => !(s.queues topic).isEmpty

def drainQueue (io : DrainQueueIo) (s : State P) : State P :=
  if s.initialised then
    match getRedis io.connect s with
    | (false, s) => s
    | (true, s) =>
        match io.keys with
        | none => s
        | some keys =>
            Loop.run (fun topic s => .next (drainTopic (io.topic topic) topic s).2)
              (topicsOf keys s) s
  else s

/-! ## The dead letters -/

structure DlqData (P : Type) where
  topic : String
  eventKey : Option String
  payload : P
  error : Option String

/-- What writing a new row meets, and what the store fills in. -/
structure CreateIo where
  create : Reply
  id : String
  now : ℤ

def pending (io : CreateIo) (entry : DlqData P) : DlqEntry P where
  id := io.id
  topic := entry.topic
  eventKey := entry.eventKey
  payload := .value entry.payload
  error := some (entry.error.getD "unknown")
  retryCount := 0
  status := "PENDING"
  createdAt := io.now

/-- A row that the store takes, if its id is new. -/
def createRow (create : Reply) (row : DlqEntry P) (s : State P) : State P :=
  if create.effective then
    match s.kafkaDLQ.create row with
    | some kafkaDLQ => { s with kafkaDLQ }
    | none => s
  else s

/-- A failure to write the row is logged and not passed on. -/
def pushToDlq (io : CreateIo) (entry : DlqData P) (s : State P) : State P :=
  createRow io.create (pending io entry) s

structure EmitIo where
  send : Reply
  push : PushIo
  dlq : CreateIo

/-- The first tier, when the broker counts as available. -/
def emitKafka (send : Reply) (event : Event P) (s : State P) : Bool × State P :=
  if s.kafkaAvailable && s.initialised then
    match emitRaw send event s with
    | (.ok _, s) => (true, s)
    | (.error _, s) => (false, { s with kafkaAvailable := false })
  else (false, s)

def emit (io : EmitIo) (event : Event P) (s : State P) : Except Exn Unit × State P :=
  match emitKafka io.send event s with
  | (true, s) => (.ok (), s)
  | (false, s) =>
      match push io.push event s with
      | (true, s) => (.ok (), s)
      | (false, s) =>
          (.ok (), pushToDlq io.dlq ⟨event.topic, event.key, event.payload,
            some "Kafka and Redis both unavailable"⟩ s)

def DLQ_TOPIC : String := "driver_telemetry_dlq"

/-- What is read of a payload that failed downstream, and the payload with its `_dlq_reason` and
its `_dlq_timestamp`. -/
structure DlqFields (P : Type) where
  driverId : P → Option String
  dlqPayload : P → String → ℤ → P

structure PublishIo where
  now : ℤ
  send : Reply
  dlq : CreateIo

def dlqEvent (fields : DlqFields P) (io : PublishIo) (originalPayload : P) (reason : String) :
    Event P :=
  ⟨DLQ_TOPIC, fields.driverId originalPayload, fields.dlqPayload originalPayload reason io.now⟩

def publishToDlqTopic (fields : DlqFields P) (io : PublishIo) (originalPayload : P)
    (reason : String) (s : State P) : State P :=
  let event := dlqEvent fields io originalPayload reason
  match emitRaw io.send event s with
  | (.ok _, s) => s
  | (.error _, s) =>
      pushToDlq io.dlq ⟨event.topic, event.key, event.payload,
        some ("DLQ topic unreachable: " ++ reason)⟩ s

def isPending (r : DlqEntry P) : Bool := r.status == "PENDING" || r.status == "RETRYING"

/-- The oldest rows that are pending or being retried. -/
def getPendingEntries (limit : ℕ) (s : State P) : List (DlqEntry P) :=
  (s.kafkaDLQ.findManyDesc isPending fun r => -r.createdAt).take limit

def setStatus (status : String) : RowUpdate (DlqEntry.keys (P := P)) where
  apply r := { r with status }
  keys_apply _ := rfl

def markDead (update : Reply) (id : String) (s : State P) : State P :=
  if update.effective then { s with kafkaDLQ := s.kafkaDLQ.update id (setStatus "DEAD") } else s

def MAX_RETRIES : ℕ := 5

/-- What ends a pass early: an exception, or the end of the process. -/
inductive Interrupt where
  | thrown (e : Exn)
  | crashed

/-- The remote calls of a pass over a dead letter. -/
inductive RemoteCall where
  | mark
  | send
  | close
  | settle
  deriving DecidableEq, Repr

/-- What a pass meets; the process may end once a call has been made. -/
structure ReplayIo where
  reply : RemoteCall → Reply
  crash : Option RemoteCall

/-- A call with its effect; the process may not live to see the answer. -/
def ReplayIo.call (io : ReplayIo) (c : RemoteCall) (failed : Exn) (f : State P → State P) :
    Action (State P) Interrupt Unit := fun s =>
  let s := if (io.reply c).effective then f s else s
  if io.crash = some c then (.error .crashed, s)
  else if (io.reply c).returned then (.ok (), s)
  else (.error (.thrown failed), s)

def updateRow (id : String) (f : RowUpdate (DlqEntry.keys (P := P))) (s : State P) : State P :=
  { s with kafkaDLQ := s.kafkaDLQ.update id f }

def marked (retryCount : ℕ) : RowUpdate (DlqEntry.keys (P := P)) where
  apply r := { r with status := "RETRYING", retryCount := retryCount + 1 }
  keys_apply _ := rfl

def closed : RowUpdate (DlqEntry.keys (P := P)) where
  apply r := { r with status := "DEAD", error := some "Replayed successfully" }
  keys_apply _ := rfl

/-- `String(err)`. -/
def printed : Exn → String
  | .error m => "Error: " ++ m
  | .typeError m => "TypeError: " ++ m
  | .badRequest m => "BadRequestException: " ++ m
  | .unauthorized m => "UnauthorizedException: " ++ m
  | .forbidden m => "ForbiddenException: " ++ m
  | .notFound m => "NotFoundException: " ++ m
  | .conflict m => "ConflictException: " ++ m
  | .database m => "PrismaClientKnownRequestError: " ++ m

def settled (retryCount : ℕ) (e : Exn) : RowUpdate (DlqEntry.keys (P := P)) where
  apply r := { r with
    status := if MAX_RETRIES ≤ retryCount + 1 then "DEAD" else "PENDING"
    retryCount := retryCount + 1
    error := some (printed e) }
  keys_apply _ := rfl

def parse (payload : Parsed P) : Action (State P) Interrupt P :=
  match payload with
  | .value p => pure p
  | .corrupt => .throw (.thrown (.error "Unexpected token in JSON"))

/-- The replay function is `emitRaw`. -/
def replayFn (io : ReplayIo) (id : String) (event : Event P) : Action (State P) Interrupt Unit :=
  fun s =>
    let delivered := s.initialised && (io.reply .send).effective
    let s := { s with replays := s.replays ++ [⟨id, event, delivered⟩] }
    match emitRaw (io.reply .send) event s with
    | (result, s) =>
        if io.crash = some .send then (.error .crashed, s)
        else
          match result with
          | .ok _ => (.ok (), s)
          | .error e => (.error (.thrown e), s)

/-- The guarded part of a pass, for a row as the pass found it. -/
def tryReplay (io : ReplayIo) (entry : DlqEntry P) : Action (State P) Interrupt Unit := do
  io.call .mark storeDown (updateRow entry.id (marked entry.retryCount))
  let payload ← parse entry.payload
  replayFn io entry.id ⟨entry.topic, entry.eventKey, payload⟩
  io.call .close storeDown (updateRow entry.id closed)

def replayEntry (io : ReplayIo) (entry : DlqEntry P) (s : State P) : Loop.Flow (State P) :=
  match tryReplay io entry s with
  | (.ok _, s) => .next s
  | (.error .crashed, s) => .stop (down s)
  | (.error (.thrown e), s) =>
      match io.call .settle storeDown (updateRow entry.id (settled entry.retryCount e)) s with
      | (.error .crashed, s) => .stop (down s)
      | (_, s) => .next s

/-- What a run of the replay meets. -/
structure ReplayPendingIo where
  findMany : Bool
  entry : String → ReplayIo

def replayPending (io : ReplayPendingIo) (s : State P) : State P :=
  if s.initialised && io.findMany then
    Loop.run (fun entry s => replayEntry (io.entry entry.id) entry s) (getPendingEntries 20 s) s
  else s

end Service

end Aegis.Kafka
