import Usdd.Lib.Runs

/-!
# BatchedProvider

Calls that are made within a short time of each other are sent as one call to the Multicall
contract. The state is that of the object and of the event loop it runs in: the calls that wait for
their arguments, the running timers, the requests in flight, and the dispatches that wait for an
answer. An event is one turn of the loop.
-/

open Transaction

namespace Usdd.Providers

section Requests

inductive BlockTag
  | name (text : String)
  | number (n : ℕ)
  deriving DecidableEq

inductive BytesLike
  | string (text : String)
  | array (bytes : List ℕ)
  deriving DecidableEq

def BytesLike.startsWith (start : String) : BytesLike → Bool
  | .string text => start.toList.isPrefixOf text.toList
  | .array _ => false

structure CallRequest where
  target : String
  callData : BytesLike
  deriving DecidableEq

/-- A request with its properties resolved. `target` is its `to` and `sender` its `from`. -/
structure TransactionRequest where
  target : String
  data : BytesLike
  sender : Option String := none
  nonce : Option ℕ := none
  gasLimit : Option ℕ := none
  gasPrice : Option ℕ := none
  value : Option ℕ := none
  chainId : Option ℕ := none
  deriving DecidableEq

def CallRequest.request (call : CallRequest) : TransactionRequest :=
  { target := call.target, data := call.callData }

def TransactionRequest.call (request : TransactionRequest) : CallRequest :=
  ⟨request.target, request.data⟩

def batchableCall (request : TransactionRequest) : Bool :=
  request.gasLimit.isNone && request.gasPrice.isNone && request.value.isNone

def batchedCall (request : TransactionRequest) (multicallAddress : String) : Bool :=
  request.target = multicallAddress && request.data.startsWith "0x252dba42"

def multicallAddress : ℕ → Option String
  | 1 => some "0xeefBa1e63905eF1D7ACbA5a8513c70307C1cE441"
  | 3 => some "0x53C43764255c17BD724F74c4eF150724AC50a3ed"
  | 4 => some "0x42Ad527de7d4e9d9d011aC45B31D8551f8Fe9821"
  | 5 => some "0x77dCa2C955b15e9dE4dbBCf1246B4B85b651e50e"
  | 42 => some "0x2cc8688C5f75E365aaEEb4ea8D6a480405A48D2A"
  | _ => none

end Requests

/-- What lies outside: the answers of the underlying provider, the coding of the calls of
`aggregate`, and the error of reading a property of `undefined`. -/
structure Provider (ε : Type) where
  superCall : TransactionRequest → Option BlockTag → Except ε String
  encodeAggregate : List CallRequest → BytesLike
  decodeAggregate : Option String → Except ε (List String)
  typeError : ε

/-- A call that has been made and will be resolved or rejected. -/
structure Promise where
  id : ℕ
  request : TransactionRequest
  blockTag : Option BlockTag
  deriving DecidableEq

/-- A resolved promise may have the value `undefined`. -/
abbrev Outcome (ε : Type) := Except ε (Option String)

/-- What the underlying provider answers to the call itself. -/
def Provider.outcome {ε : Type} (provider : Provider ε) (p : Promise) : Outcome ε :=
  (provider.superCall p.request p.blockTag).map some

structure BatchedCalls where
  calls : List CallRequest
  callbacks : List Promise
  blockTag : Option BlockTag

def emptyBatch : BatchedCalls := ⟨[], [], none⟩

/-- A dispatch whose answer is awaited. -/
structure Dispatch where
  aggregated : Bool
  awaited : Promise
  callbacks : List Promise

structure BatchedProvider (ε : Type) where
  chainId : ℕ := 0
  multicall : Option String := none
  timeoutId : Option ℕ := none
  batched : BatchedCalls := emptyBatch
  numberOfBatchedCalls : ℕ := 0
  numberOfActualCalls : ℕ := 0
  timeOfLastRatioCheck : Option ℕ := none
  created : List Promise := []
  resuming : List Promise := []
  timersSet : ℕ := 0
  timers : List ℕ := []
  requests : List Promise := []
  dispatches : List Dispatch := []
  settled : List (Promise × Outcome ε) := []

namespace BatchedProvider

variable {ε : Type} (provider : Provider ε) (s : BatchedProvider ε)

section Calls

def setChainId (chainId : ℕ) : Tx (BatchedProvider ε) :=
  if s.multicall.isSome then .error (.message "can only set chainId once")
  else pure { s with chainId := chainId, multicall := multicallAddress chainId }

def newPromise (request : TransactionRequest) (blockTag : Option BlockTag) : Promise :=
  ⟨s.created.length, request, blockTag⟩

/-- A request to the underlying provider. -/
def superCall (p : Promise) : BatchedProvider ε := { s with requests := s.requests ++ [p] }

def settle (p : Promise) (outcome : Outcome ε) : BatchedProvider ε :=
  { s with settled := s.settled ++ [(p, outcome)] }

def alreadyBatchedCallsConflictWith (blockTag : Option BlockTag) : Bool :=
  s.batched.calls.length ≠ 0 &&
    blockTag.getD (.name "latest") ≠ s.batched.blockTag.getD (.name "latest")

def enqueueCall (call : CallRequest) (p : Promise) : BatchedProvider ε :=
  { s with
    timers := (match s.timeoutId with
      | some id => s.timers.erase id
      | none => s.timers) ++ [s.timersSet]
    timersSet := s.timersSet + 1
    timeoutId := some s.timersSet
    batched := { s.batched with
      calls := s.batched.calls ++ [call]
      callbacks := s.batched.callbacks ++ [p] } }

/-- The counters serve a log line only. -/
def checkRatio (now : ℕ) : BatchedProvider ε :=
  match s.timeOfLastRatioCheck with
  | none => { s with timeOfLastRatioCheck := some now }
  | some time =>
      if now - time ≥ 10000 ∧ s.numberOfActualCalls ≠ 0 then
        { s with
          numberOfBatchedCalls := 0
          numberOfActualCalls := 0
          timeOfLastRatioCheck := some now }
      else s

/-- The part of `call` before its arguments are awaited. -/
def startCall (now : ℕ) (request : TransactionRequest) (blockTag : Option BlockTag) :
    BatchedProvider ε :=
  let p := s.newPromise request blockTag
  let s := { s with created := s.created ++ [p] }
  if s.multicall.isNone then s.superCall p
  else
    let s := s.checkRatio now
    { s with resuming := s.resuming ++ [p] }

/-- The part of `call` after its arguments have been awaited. -/
def resumeCall (p : Promise) : BatchedProvider ε :=
  match s.multicall with
  | none => s.settle p (.error provider.typeError)
  | some address =>
      if batchedCall p.request address || !batchableCall p.request ||
          s.alreadyBatchedCallsConflictWith p.blockTag then
        { s with numberOfActualCalls := s.numberOfActualCalls + 1 }.superCall p
      else
        let s := { s with numberOfBatchedCalls := s.numberOfBatchedCalls + 1 }
        let s := if s.batched.calls.length = 0 then
            { s with batched := { s.batched with blockTag := p.blockTag } }
          else s
        s.enqueueCall p.request.call p

end Calls

section Dispatches

def settleAll (callbacks : List Promise) (results : Except ε (List (Option String))) :
    BatchedProvider ε :=
  { s with settled := s.settled ++ match results with
    | .ok results => callbacks.mapIdx (fun i p => (p, .ok (results.getD i none)))
    | .error error => callbacks.map (fun p => (p, .error error)) }

/-- The part of `_dispatchCalls` before the answer is awaited. The contract object sends `aggregate`
through `call`. -/
def dispatchCalls (now : ℕ) : BatchedProvider ε :=
  let calls := s.batched.calls
  let callbacks := s.batched.callbacks
  let blockTag := s.batched.blockTag
  let s : BatchedProvider ε := { s with batched := emptyBatch }
  match calls with
  | [] => s.settleAll callbacks (.error provider.typeError)
  | [call] =>
      let p := s.newPromise call.request blockTag
      let s : BatchedProvider ε := { s with created := s.created ++ [p] }.superCall p
      { s with dispatches := s.dispatches ++ [⟨false, p, callbacks⟩] }
  | _ :: _ :: _ =>
      match s.multicall with
      | none => s.settleAll callbacks (.error provider.typeError)
      | some address =>
          let request : TransactionRequest :=
            { target := address, data := provider.encodeAggregate calls }
          let p := s.newPromise request blockTag
          let s := s.startCall now request blockTag
          { s with dispatches := s.dispatches ++ [⟨true, p, callbacks⟩] }

/-- The results that a dispatch hands out once it has its answer. -/
def results (d : Dispatch) (answer : Outcome ε) : Except ε (List (Option String)) :=
  if d.aggregated then answer >>= fun data => (provider.decodeAggregate data).map (·.map some)
  else answer.map (fun data => [data])

/-- The part of `_dispatchCalls` after the answer has been awaited. -/
def finishDispatch (d : Dispatch) (answer : Outcome ε) : BatchedProvider ε :=
  s.settleAll d.callbacks (results provider d answer)

end Dispatches

section Events

inductive Event
  | setChainId (chainId : ℕ)
  | call (now : ℕ) (request : TransactionRequest) (blockTag : Option BlockTag)
  | resume (i : ℕ)
  | timeout (id now : ℕ)
  | complete (i : ℕ)
  | finish (i : ℕ)

def outcomeOf (p : Promise) : Option (Outcome ε) :=
  (s.settled.find? (fun entry => entry.1 = p)).map Prod.snd

def present {α : Type} (x : Option α) : Tx α :=
  match x with
  | some a => pure a
  | none => .error (.message "This event does not happen")

/-- An event for which nothing is there does not happen. -/
def step : Event → Tx (BatchedProvider ε)
  | .setChainId chainId => s.setChainId chainId
  | .call now request blockTag => pure (s.startCall now request blockTag)
  | .resume i => do
      let p ← present s.resuming[i]?
      pure ({ s with resuming := s.resuming.eraseIdx i }.resumeCall provider p)
  | .timeout id now => do
      require (id ∈ s.timers) "This event does not happen"
      pure ({ s with timers := s.timers.erase id }.dispatchCalls provider now)
  | .complete i => do
      let p ← present s.requests[i]?
      pure ({ s with requests := s.requests.eraseIdx i }.settle p (provider.outcome p))
  | .finish i => do
      let d ← present s.dispatches[i]?
      let answer ← present (s.outcomeOf d.awaited)
      pure ({ s with dispatches := s.dispatches.eraseIdx i }.finishDispatch provider d answer)

theorem present_eq_ok {α : Type} {x : Option α} {a : α} : present x = .ok a ↔ x = some a := by
  unfold present
  cases x with
  | none => simp
  | some b => simp

end Events

end BatchedProvider

end Usdd.Providers
