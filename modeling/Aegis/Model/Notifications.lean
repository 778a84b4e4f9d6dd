import Aegis.Library.Json
import Aegis.Model.Payments

/-! # Notifications

`NotificationService` with the Kafka consumer in front of it, and the notices that a manual KYC
submission leaves for the administrators. -/

namespace Aegis.NotificationService

open JsString

inductive NotificationChannel where
  | SMS
  | EMAIL
  | PUSH
  deriving DecidableEq, Repr

structure ClaimApprovedPayload where
  driverName : String
  amount : ℚ
  transactionId : String
  deriving DecidableEq, Repr

structure OtpAuthPayload where
  otp : String
  purpose : String := "LOGIN"
  deriving DecidableEq, Repr

/-- The type of a notification with the payload that its text is made of. -/
inductive NotificationType where
  | CLAIM_APPROVED (payload : ClaimApprovedPayload)
  | PAYOUT_FAILED
  | POLICY_ACTIVATED
  | OTP_AUTH (payload : OtpAuthPayload)
  deriving DecidableEq, Repr

/-- What a row keeps about its origin. -/
inductive Metadata where
  | event (topic : String) (eventId : Option String) (partition : ℕ) (offset : String)
      (key : Option String) (payload : Json)
  | sent (channel : NotificationChannel) (recipient : String) (context : Option Json)
  | login (source : String) (provider : Option String)
  | kycRequest (userId : String)

/-- The path `['eventId']` of the metadata. -/
def Metadata.eventId : Metadata → Option String
  | event _ eventId _ _ _ _ => eventId
  | sent _ _ _ | login _ _ | kycRequest _ => none

structure Notification where
  id : String
  userId : String
  eventType : String
  message : String
  metadata : Metadata
  isRead : Bool
  createdAt : ℤ

def Notification.keys (n : Notification) : List String := [n.id]

abbrev Inbox := Table Notification.keys

structure Config where
  /-- Whether the Prisma client has the `notification` delegate. -/
  notificationRepo : Bool := true
  /-- `x.toLocaleString('en-IN')`. -/
  toLocaleString : ℚ → String

/-- The clock, the random id of a row and the fate of the store calls. -/
structure Io where
  now : ℤ
  id : String
  read : Bool := true
  write : Bool := true

/-! ## Events -/

section Events

variable (payload : Json)

def asString : Option Json → Option String
  | some (.str s) => if trim s = "" then none else some s
  | _ => none

def extractUserId : Option String :=
  asString (payload.get "userId") <|> asString (payload.get "user_id") <|>
    asString (payload.get "driverId") <|> asString (payload.get "driver_id") <|>
    ((payload.get "user").bind fun user =>
      asString (user.get "id") <|> asString (user.get "userId")) <|>
    ((payload.get "policy").bind fun policy =>
      asString (policy.get "userId") <|> asString (policy.get "user_id"))

def extractEventId (topic : String) (partition : ℕ) (offset : String) : Option String :=
  asString (payload.get "eventId") <|> asString (payload.get "event_id") <|>
    asString (payload.get "id") <|> asString (payload.get "traceId") <|>
    asString (payload.get "trace_id") <|>
    (if offset = "" then none else some (topic ++ ":" ++ toString partition ++ ":" ++ offset))

def eventTypeOf (type : String) : Option String :=
  let any := fun needles : List String => needles.any (includes type)
  if any ["LOGIN"] then some "USER_LOGIN"
  else if any ["PAYOUT_INITIATED", "PAYOUT_STARTED"] || type = "PROCESSING" then
    some "PAYOUT_INITIATED"
  else if any ["PAYOUT_COMPLETED", "PAYOUT_APPROVED", "SUCCESS"] || type = "APPROVED" then
    some "PAYOUT_COMPLETED"
  else if any ["FRAUD_DETECTED", "FRAUD_ALERT", "SUSPICIOUS"] then some "FRAUD_DETECTED"
  else if any ["POLICY_TRIGGERED", "POLICY_ACTIVATED", "POLICY_ISSUED"] then
    some "POLICY_TRIGGERED"
  else none

def eventTypeOfTopic (normalizedTopic : String) : Option String :=
  if normalizedTopic = "user_events" then some "USER_LOGIN"
  else if normalizedTopic = "payout_events" then
    let status := toUpperCase ((asString (payload.get "status")).getD "")
    if status = "APPROVED" ∨ status = "COMPLETED" ∨ status = "SUCCESS" then some "PAYOUT_COMPLETED"
    else some "PAYOUT_INITIATED"
  else if normalizedTopic = "fraud_events" then some "FRAUD_DETECTED"
  else if normalizedTopic = "policy_events" then some "POLICY_TRIGGERED"
  else none

def inferEventType (topic : String) : Option String :=
  let rawType := asString (payload.get "eventType") <|> asString (payload.get "event_type") <|>
    asString (payload.get "type") <|> asString (payload.get "event") <|>
    asString (payload.get "action") <|> asString (payload.get "status")
  (rawType.bind fun type => eventTypeOf (toUpperCase type)) <|>
    eventTypeOfTopic payload (toLowerCase topic)

/-- `none` where `Number` throws. -/
def extractAmount : Option ℚ :=
  let amountRaw := payload.get? "amount" <|> payload.get? "approvedPayout" <|>
    payload.get? "approved_payout" <|> payload.get? "payoutAmount" <|> payload.get "payout_amount"
  (Json.memberToNumber amountRaw).map fun amount => amount.toFinite?.getD 0

def formatInr (cfg : Config) (amount : ℚ) : String := "₹" ++ cfg.toLocaleString amount

def buildMessage (cfg : Config) (eventType : String) : Option String :=
  if eventType = "USER_LOGIN" then some "You logged in successfully"
  else if eventType = "PAYOUT_INITIATED" then
    (extractAmount payload).map fun amount =>
      "Your payout of " ++ formatInr cfg amount ++ " has started"
  else if eventType = "PAYOUT_COMPLETED" then
    (extractAmount payload).map fun amount =>
      "Your payout of " ++ formatInr cfg amount ++ " is completed"
  else if eventType = "FRAUD_DETECTED" then some "Suspicious activity detected"
  else if eventType = "POLICY_TRIGGERED" then some "Insurance policy activated"
  else some "Notification received"

end Events

/-- A record of a topic; `value` is its parsed text, if it has one that is JSON. -/
structure KafkaMessage where
  topic : String
  partition : ℕ
  offset : String
  key : Option String := none
  value : Option Json

/-- What a notification of an event is told apart by. -/
structure EventKey where
  userId : String
  eventType : String
  eventId : String
  deriving DecidableEq, Repr

def Notification.eventKey (n : Notification) : Option EventKey :=
  n.metadata.eventId.map fun eventId => ⟨n.userId, n.eventType, eventId⟩

section Service

variable (cfg : Config) (io : Io)

/-- A row that the store refuses is lost; the failure is logged. -/
def createRow (row : Notification) (inbox : Inbox) : Inbox :=
  if io.write then (inbox.create row).getD inbox else inbox

def eventRow (message : KafkaMessage) (payload : Json) (eventType userId : String)
    (eventId : Option String) (text : String) : Notification where
  id := io.id
  userId := userId
  eventType := eventType
  message := text
  metadata := .event message.topic eventId message.partition message.offset message.key payload
  isRead := false
  createdAt := io.now

/-- Whether there is a notification of the event already. -/
def duplicate (key : EventKey) (inbox : Inbox) : Bool :=
  inbox.rows.any fun n => n.eventKey = some key

/-- Every failure is caught, so the record counts as consumed. -/
def processKafkaEvent (message : KafkaMessage) (payload : Json) (inbox : Inbox) : Inbox :=
  if payload.isNull then inbox
  else
    match inferEventType payload message.topic with
    | none => inbox
    | some eventType =>
        if cfg.notificationRepo then
          match extractUserId payload with
          | none => inbox
          | some userId =>
              let eventId := extractEventId payload message.topic message.partition message.offset
              let seen := eventId.map fun eventId => duplicate ⟨userId, eventType, eventId⟩ inbox
              if seen.isSome ∧ ¬io.read then inbox
              else if seen = some true then inbox
              else
                match buildMessage payload cfg eventType with
                | none => inbox
                | some text =>
                    createRow io (eventRow io message payload eventType userId eventId text) inbox
        else inbox

def eachMessage (message : KafkaMessage) (inbox : Inbox) : Inbox :=
  match message.value with
  | none => inbox
  | some payload => processKafkaEvent cfg io message payload inbox

/-! ## Messages sent by the services -/

def mapNotificationTypeToEventType : NotificationType → String
  | .CLAIM_APPROVED _ => "PAYOUT_COMPLETED"
  | .PAYOUT_FAILED => "PAYOUT_INITIATED"
  | .POLICY_ACTIVATED => "POLICY_TRIGGERED"
  | .OTP_AUTH _ => "SYSTEM"

def template : NotificationType → String
  | .CLAIM_APPROVED p => "Your claim is approved. INR " ++ cfg.toLocaleString p.amount ++
      " is transferred. Ref: " ++ p.transactionId ++ "."
  | .PAYOUT_FAILED =>
      "We are retrying your payout because of a transient process error. No action required."
  | .OTP_AUTH p => "Your Aegis " ++ (if p.purpose = "" then "LOGIN" else p.purpose) ++ " OTP is " ++
      p.otp ++ ". It expires in 10 minutes. Do not share this code."
  | .POLICY_ACTIVATED => "Your weekly policy is now active and protected."

structure SendParams where
  channel : NotificationChannel
  type : NotificationType
  recipient : String
  context : Option Json := none

/-- Whether `send` reaches the store: a mail that is not accepted ends it. -/
def SendParams.dispatched (params : SendParams) (mailSent : Bool) : Bool :=
  match params.channel, params.type with
  | .EMAIL, .CLAIM_APPROVED _ => mailSent
  | _, _ => true

def SendParams.contextUserId (params : SendParams) : Option String :=
  asString (params.context.bind fun context => context.get "user_id") <|>
    asString (params.context.bind fun context => context.get "userId")

def sentRow (params : SendParams) (userId : String) : Notification where
  id := io.id
  userId := userId
  eventType := mapNotificationTypeToEventType params.type
  message := template cfg params.type
  metadata := .sent params.channel params.recipient params.context
  isRead := false
  createdAt := io.now

def createInAppNotification (row : Notification) (inbox : Inbox) : Inbox :=
  if cfg.notificationRepo then createRow io row inbox else inbox

/-- `ok`, and what is stored of the message. -/
def send (mailSent : Bool) (params : SendParams) (inbox : Inbox) : Bool × Inbox :=
  if params.dispatched mailSent then
    match params.contextUserId with
    | none => (true, inbox)
    | some userId =>
        (true, createInAppNotification cfg io (sentRow cfg io params userId) inbox)
  else (false, inbox)

/-- The notice that `AuthService` leaves of a sign-in. -/
def loginRow (userId : String) (provider : Option String) : Notification where
  id := io.id
  userId := userId
  eventType := "USER_LOGIN"
  message := "You logged in successfully"
  metadata := .login (if provider = none then "auth.login" else "auth.exchangeOAuth") provider
  isRead := false
  createdAt := io.now

def kycRow (now : ℤ) (userId id adminId : String) : Notification where
  id := id
  userId := adminId
  eventType := "SYSTEM"
  message := "New manual KYC verification request for user " ++ userId
  metadata := .kycRequest userId
  isRead := false
  createdAt := now

/-- `createMany` with `skipDuplicates`, one row for each administrator. -/
def createMany (now : ℤ) (userId : String) (admins : List (String × String)) (inbox : Inbox) :
    Inbox :=
  if cfg.notificationRepo then
    admins.foldl (fun inbox admin => (inbox.create (kycRow now userId admin.1 admin.2)).getD inbox)
      inbox
  else inbox

/-! ## The owner's requests -/

/-- A count that the store accepts. -/
def wholeNumber (x : JsNumber) : Option ℕ := (x.toFinite?.filter Rat.isInt).map fun q => q.num.toNat

def resolveLimit (limit : Option JsNumber) : Option ℕ :=
  wholeNumber (((limit.getD (.fin 20)).maxFin 1).minFin 100)

def resolveOffset (offset : Option JsNumber) : Option ℕ :=
  wholeNumber ((offset.getD (.fin 0)).maxFin 0)

def notificationsOf (userId : String) (inbox : Inbox) : List Notification :=
  inbox.findManyDesc (fun n => n.userId = userId) Notification.createdAt

/-- `limit ? Number(limit) : undefined`. -/
def queryNumber (raw : Option String) : Option JsNumber :=
  (raw.filter (· ≠ "")).map Json.stringToNumber

def getNotifications (userId : String) (limit offset : Option JsNumber) (inbox : Inbox) :
    Option (List Notification) :=
  if cfg.notificationRepo then
    match resolveLimit limit, resolveOffset offset with
    | some limit, some offset => some (((notificationsOf userId inbox).drop offset).take limit)
    | _, _ => none
  else some []

def read : RowUpdate Notification.keys where
  apply n := { n with isRead := true }
  keys_apply _ := rfl

def markAsRead (userId id : String) (inbox : Inbox) : Except Exn String × Inbox :=
  if cfg.notificationRepo then
    if io.read then
      match inbox.rows.find? fun n => n.id = id && n.userId = userId with
      | none => (.error (.notFound "Notification not found"), inbox)
      | some _ =>
          if io.write then (.ok id, inbox.update id read)
          else (.error Payments.storeDown, inbox)
    else (.error Payments.storeDown, inbox)
  else (.error (.notFound "Notification not found"), inbox)

def getUnreadCount (userId : String) (inbox : Inbox) : ℕ :=
  if cfg.notificationRepo then
    inbox.rows.countP fun n => n.userId = userId && n.isRead = false
  else 0

end Service

/-! ## Everything that touches notifications -/

inductive Op where
  | deliver (io : Io) (message : KafkaMessage)
  | send (io : Io) (mailSent : Bool) (params : SendParams)
  | login (io : Io) (userId : String) (provider : Option String)
  | kycSubmitted (now : ℤ) (userId : String) (admins : List (String × String))
  | getNotifications (userId : String) (limit offset : Option String)
  | getUnreadCount (userId : String)
  | markAsRead (io : Io) (userId id : String)

inductive Answer where
  | done
  | sent (ok : Bool)
  | page (rows : Option (List Notification))
  | unreadCount (count : ℕ)
  | marked (result : Except Exn String)

def Op.run (cfg : Config) (inbox : Inbox) : Op → Answer × Inbox
  | deliver io message => (.done, eachMessage cfg io message inbox)
  | send io mailSent params =>
      let (ok, inbox) := NotificationService.send cfg io mailSent params inbox
      (.sent ok, inbox)
  | login io userId provider =>
      (.done, createInAppNotification cfg io (loginRow io userId provider) inbox)
  | kycSubmitted now userId admins => (.done, createMany cfg now userId admins inbox)
  | getNotifications userId limit offset =>
      (.page (NotificationService.getNotifications cfg userId (queryNumber limit)
        (queryNumber offset) inbox), inbox)
  | getUnreadCount userId =>
      (.unreadCount (NotificationService.getUnreadCount cfg userId inbox), inbox)
  | markAsRead io userId id =>
      let (result, inbox) := NotificationService.markAsRead cfg io userId id inbox
      (.marked result, inbox)

def step (cfg : Config) (inbox : Inbox) (op : Op) : Inbox := (op.run cfg inbox).2

end Aegis.NotificationService
