import Aegis.Model.PayoutEndpoints
import Aegis.Verification.Payments.Equations

/-! # Requests that can reach the gateway

Every entry point checks something of its own and then hands a settlement request to
`processParametricPayout`. The split makes what they have in common a matter of one
function. -/

namespace Aegis.Payouts

open Outcome RedisState Payments Gateway LiquidityPool PayoutService PayoutEndpoints

/-! ## The entry points -/

inductive Request where
  | processPayout (params : ProcessPayoutParams)
  | retry (processed : ℕ)
  | parametricPayout (user : Principal) (body : ParametricPayoutRequest)
  | demoClaim (user : Principal) (type : Option String)
  | initiate (user : Principal) (dto : PayoutInitiateDto)

/-- The clock and the Redis connection at the moment of a call. -/
structure Moment where
  now : ℤ
  redisUp : Bool
  deriving DecidableEq, Repr

/-- The fate of the other operations of a call, and the ids it draws. -/
structure CallIo where
  readPolicy : Bool
  readEligibility : Bool
  readEvent : Bool
  eventId : String
  createEvent : Bool
  readPayout : Bool
  readClaim : Bool
  redisPush : Bool
  createDlq : Bool
  settle : Payments.Io

namespace CallIo

variable (io : CallIo) (moment : Moment)

def process : ProcessIo where
  now := moment.now
  readPolicy := io.readPolicy
  readEligibility := io.readEligibility
  redisUp := moment.redisUp
  readEvent := io.readEvent
  eventId := io.eventId
  createEvent := io.createEvent
  readPayout := io.readPayout
  settle := io.settle
  redisPush := io.redisPush

def retry : RetryIo where
  now := moment.now
  redisPop := moment.redisUp
  settle := io.settle
  redisPush := io.redisPush
  createDlq := io.createDlq

def demo : DemoIo where
  now := moment.now
  readPolicy := io.readPolicy
  eventId := io.eventId
  createEvent := io.createEvent
  settle := io.settle

def initiate : InitiateIo where
  now := moment.now
  readClaim := io.readClaim
  redisUp := moment.redisUp
  settle := io.settle

end CallIo

section Turns

variable (cfg : PayoutService.Config)

/-- One turn of the retry loop: the entry at the tail, if there is one. -/
def retryTurn (io : RetryIo) (processed : ℕ) (s : System) : System :=
  match popPayoutRetry io.redisPop s.redis with
  | (none, redis) => { s with redis }
  | (some entry, redis) => (retryEntry cfg io (processed + 1) entry { s with redis }).2

/-- A run of the queue is a sequence of turns. -/
theorem exists_turns (io : ℕ → RetryIo) (processed fuel : ℕ) (s : System) :
    ∃ n ≤ fuel, (retryLoop cfg io processed fuel s).2 =
      (List.range' processed n).foldl (fun s k => retryTurn cfg (io k) k s) s := by
  induction fuel generalizing processed s with
  | zero => exact ⟨0, le_rfl, rfl⟩
  | succ fuel ih =>
      rw [retryLoop]
      cases hpop : popPayoutRetry (io processed).redisPop s.redis with
      | mk entry redis =>
          cases entry with
          | none =>
              refine ⟨1, by omega, ?_⟩
              simp [retryTurn, hpop]
          | some entry =>
              dsimp only
              cases hentry : retryEntry cfg (io processed) (processed + 1) entry
                  { s with redis } with
              | mk result s' =>
                  have hturn : retryTurn cfg (io processed) processed s = s' := by
                    simp [retryTurn, hpop, hentry]
                  cases result with
                  | error e => exact ⟨1, by omega, by simp [hturn]⟩
                  | ok _ =>
                      obtain ⟨n, hn, hrest⟩ := ih (processed + 1) s'
                      refine ⟨n + 1, by omega, ?_⟩
                      rw [List.range'_succ, List.foldl_cons, hturn]
                      exact hrest

end Turns

/-- The system after the request. -/
def serve (cfg : PayoutService.Config) (moment : Moment) (io : CallIo) (s : System) :
    Request → System
  | .processPayout params => (processPayout cfg (io.process moment) params s).2
  | .retry processed => retryTurn cfg (io.retry moment) processed s
  | .parametricPayout user body => (parametricPayout cfg.toConfig io.settle user body s).2
  | .demoClaim user type => (runDemoClaim cfg.toConfig (io.demo moment) user.id type s).2
  | .initiate user dto => (PayoutEndpoints.initiate cfg.toConfig (io.initiate moment) user dto s).2

/-! ## What a request settles -/

theorem findOrCreateEvent_left {io : ProcessIo} {params : ProcessPayoutParams} {db db' : Db}
    {disruption : DisruptionEvent} (h : findOrCreateEvent io params db = .ok (disruption, db')) :
    ∃ disruptionEvents, db' = { db with disruptionEvents } := by
  obtain ⟨_, -, h⟩ := bind_eq_ok.mp h
  split at h
  · cases h
    exact ⟨_, rfl⟩
  · obtain ⟨_, -, h⟩ := bind_eq_ok.mp h
    obtain ⟨_, -, h⟩ := bind_eq_ok.mp h
    cases h
    exact ⟨_, rfl⟩

section Settles

variable (cfg : PayoutService.Config) (moment : Moment) (io : CallIo) (s : System)

/-- The settlement that `processPayout` asks for, and the store it asks it of. -/
def settlesProcess (params : ProcessPayoutParams) : Option (ParametricPayoutDto × System) :=
  match checkGates cfg (io.process moment) params s with
  | .error _ => none
  | .ok (policy, h3Cell) =>
      match findOrCreateEvent (io.process moment) params s.db with
      | .error _ => none
      | .ok (disruption, db) =>
          if io.readPayout ∧ db.payouts.findUnique
              (.policyId_disruptionEventId policy.id disruption.id) = none then
            some (settlementOf (io.process moment) params policy h3Cell disruption, { s with db })
          else none

/-- The settlement that a request leads to. -/
def settles : Request → Option (ParametricPayoutDto × System)
  | .processPayout params => settlesProcess cfg moment io s params
  | .retry processed =>
      match popPayoutRetry moment.redisUp s.redis with
      | (none, _) => none
      | (some entry, redis) =>
          some (dtoOfRetry (io.retry moment) (processed + 1) entry, { s with redis })
  | .parametricPayout user body => some (body.dto user.id, s)
  | .demoClaim user type =>
      match prepareDemo (io.demo moment) user.id type s.db with
      | .error _ => none
      | .ok (dto, db) => some (dto, { s with db })
  | .initiate user dto =>
      match prepareInitiate (io.initiate moment) user dto s with
      | .error _ => none
      | .ok request => some (request, s)

variable {cfg moment io s} in
/-- Before the settlement a request may record its event and take its entry from the queue. -/
theorem settles_left {r : Request} {dto : ParametricPayoutDto} {s' : System}
    (h : settles cfg moment io s r = some (dto, s')) :
    ∃ disruptionEvents redis, s' = { s with db := { s.db with disruptionEvents }, redis } := by
  cases r with
  | processPayout params =>
      simp only [settles, settlesProcess] at h
      split at h
      · cases h
      · split at h
        · cases h
        · rename_i hevent
          split at h <;> cases h
          exact (findOrCreateEvent_left hevent).imp fun _ hdb => ⟨_, by rw [hdb]⟩
  | retry processed =>
      simp only [settles] at h
      split at h <;> cases h
      exact ⟨_, _, rfl⟩
  | parametricPayout user body =>
      cases h
      exact ⟨_, _, rfl⟩
  | demoClaim user type =>
      simp only [settles] at h
      split at h <;> rename_i hdemo <;> cases h
      obtain ⟨_, -, hdemo⟩ := bind_eq_ok.mp hdemo
      obtain ⟨_, -, hdemo⟩ := bind_eq_ok.mp hdemo
      obtain ⟨_, -, hdemo⟩ := bind_eq_ok.mp hdemo
      obtain ⟨_, -, hdemo⟩ := bind_eq_ok.mp hdemo
      cases hdemo
      exact ⟨_, _, rfl⟩
  | initiate user dto =>
      simp only [settles] at h
      split at h <;> cases h
      exact ⟨_, _, rfl⟩

theorem settleOrQueue_left (io : ProcessIo) (params : ProcessPayoutParams) (policy : Policy)
    (dto : ParametricPayoutDto) :
    ∃ redis, (settleOrQueue cfg io params policy dto s).2 =
      ⟨(processParametricPayout cfg.toConfig io.settle dto s.toWorld).2, redis⟩ := by
  unfold settleOrQueue
  split <;> rename_i h <;> rw [h]
  · exact ⟨_, rfl⟩
  · exact ⟨_, rfl⟩

theorem retryEntry_left (io : RetryIo) (processed : ℕ) (entry : PayoutRetry) :
    let w := (processParametricPayout cfg.toConfig io.settle (dtoOfRetry io processed entry)
      s.toWorld).2
    ∃ kafkaDLQ redis, (retryEntry cfg io processed entry s).2 =
      ⟨{ w with db := { w.db with kafkaDLQ } }, redis⟩ := by
  unfold retryEntry
  dsimp only
  split <;> rename_i h <;> rw [h]
  · exact ⟨_, _, rfl⟩
  · split
    · split
      · exact ⟨_, _, rfl⟩
      · exact ⟨_, _, rfl⟩
    · exact ⟨_, _, rfl⟩

/-- A request leaves what its settlement leaves, but for Redis and the dead letters; without a
settlement it may still have recorded its event. -/
theorem serve_left (r : Request) :
    match settles cfg moment io s r with
    | none => ∃ disruptionEvents redis, serve cfg moment io s r =
        { s with db := { s.db with disruptionEvents }, redis }
    | some (dto, s') =>
        let w := (processParametricPayout cfg.toConfig io.settle dto s'.toWorld).2
        ∃ kafkaDLQ redis, serve cfg moment io s r =
          ⟨{ w with db := { w.db with kafkaDLQ } }, redis⟩ := by
  cases r with
  | processPayout params =>
      simp only [serve, settles, settlesProcess, processPayout]
      cases hgates : checkGates cfg (io.process moment) params s with
      | error e => exact ⟨_, _, rfl⟩
      | ok passed =>
          obtain ⟨policy, h3Cell⟩ := passed
          dsimp only
          cases hevent : findOrCreateEvent (io.process moment) params s.db with
          | error e => exact ⟨_, _, rfl⟩
          | ok found =>
              obtain ⟨disruption, db⟩ := found
              have hreads : (io.process moment).readPayout = io.readPayout := rfl
              have hdb := findOrCreateEvent_left hevent
              dsimp only
              rw [hreads]
              cases io.readPayout with
              | false => exact hdb.imp fun _ h => ⟨_, by rw [h]; rfl⟩
              | true =>
                  cases hrow : db.payouts.findUnique
                      (.policyId_disruptionEventId policy.id disruption.id) with
                  | some existingPayout =>
                      simp only [reduceCtorEq, and_false, if_false]
                      exact hdb.imp fun _ h => ⟨_, by rw [h]; rfl⟩
                  | none =>
                      simp only [and_self, if_true]
                      exact ⟨_, settleOrQueue_left cfg { s with db } (io.process moment) params
                        policy _⟩
  | retry processed =>
      have hup : (io.retry moment).redisPop = moment.redisUp := rfl
      simp only [serve, settles, retryTurn, hup]
      cases hpop : popPayoutRetry moment.redisUp s.redis with
      | mk entry redis =>
          cases entry with
          | none => exact ⟨_, _, rfl⟩
          | some entry => exact retryEntry_left cfg { s with redis } _ _ entry
  | parametricPayout user body => exact ⟨_, _, rfl⟩
  | demoClaim user type =>
      simp only [serve, settles, runDemoClaim]
      cases prepareDemo (io.demo moment) user.id type s.db with
      | error e => exact ⟨_, _, rfl⟩
      | ok prepared => exact ⟨_, _, rfl⟩
  | initiate user dto =>
      simp only [serve, settles, PayoutEndpoints.initiate]
      cases prepareInitiate (io.initiate moment) user dto s with
      | error e => exact ⟨_, _, rfl⟩
      | ok request => exact ⟨_, _, rfl⟩

/-- The money that leaves the platform is that of the settlement. -/
theorem serve_transfers (r : Request) :
    (serve cfg moment io s r).transfers =
      match settles cfg moment io s r with
      | none => s.transfers
      | some (dto, s') =>
          (processParametricPayout cfg.toConfig io.settle dto s'.toWorld).2.transfers := by
  have hleft := serve_left cfg moment io s r
  split at hleft
  · obtain ⟨_, _, h⟩ := hleft
    rw [h]
  · obtain ⟨_, _, h⟩ := hleft
    rw [h]

end Settles

end Aegis.Payouts
