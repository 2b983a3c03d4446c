import Usdd.Lib.LinkedList
import Usdd.LiquityBase

/-!
# SortedTroves

The doubly linked list of troves. Nominal collateral ratios are not stored in the list: they are
read through `getNominalICR`, which stands for the call to the TroveManager and may give different
answers at different calls. The loops take one unit of fuel per round.
-/

open Transaction
open LinkedList (Node setNextId setPrevId walk)

namespace Usdd.SortedTroves

structure Data where
  head : Address
  tail : Address
  maxSize : ℕ
  size : ℕ
  nodes : Address → Node Address

def Data.initial (maxSize : ℕ) : Data := ⟨0, 0, maxSize, 0, fun _ => Node.empty⟩

def contains (d : Data) (id : Address) : Bool := (d.nodes id).existing

def isFull (d : Data) : Bool := d.size = d.maxSize

def isEmpty (d : Data) : Bool := d.size = 0

section Positions

variable (getNominalICR : Address → Tx ℕ) (d : Data) (nicr : ℕ)

def validInsertPosition (prevId nextId : Address) : Tx Bool :=
  if prevId = 0 ∧ nextId = 0 then
    pure (isEmpty d)
  else if prevId = 0 then
    if d.head = nextId then do
      let nextNICR ← getNominalICR nextId
      pure (decide (nicr ≥ nextNICR))
    else pure false
  else if nextId = 0 then
    if d.tail = prevId then do
      let prevNICR ← getNominalICR prevId
      pure (decide (nicr ≤ prevNICR))
    else pure false
  else if (d.nodes prevId).nextId = nextId then do
    let prevNICR ← getNominalICR prevId
    if prevNICR ≥ nicr then do
      let nextNICR ← getNominalICR nextId
      pure (decide (nicr ≥ nextNICR))
    else pure false
  else pure false

def descendLoop : ℕ → Address → Address → Tx (Address × Address)
  | 0, _, _ => .error .outOfGas
  | fuel + 1, prevId, nextId =>
      if prevId = 0 then pure (prevId, nextId)
      else do
        let valid ← validInsertPosition getNominalICR d nicr prevId nextId
        if valid then pure (prevId, nextId)
        else
          descendLoop fuel (d.nodes prevId).nextId (d.nodes (d.nodes prevId).nextId).nextId

def beforeHead (startId : Address) : Tx Bool :=
  if d.head = startId then do
    let startNICR ← getNominalICR startId
    pure (decide (nicr ≥ startNICR))
  else pure false

def descendList (startId : Address) : Tx (Address × Address) := do
  let before ← beforeHead getNominalICR d nicr startId
  if before then pure (0, startId)
  else descendLoop getNominalICR d nicr (d.size + 1) startId (d.nodes startId).nextId

def ascendLoop : ℕ → Address → Address → Tx (Address × Address)
  | 0, _, _ => .error .outOfGas
  | fuel + 1, prevId, nextId =>
      if nextId = 0 then pure (prevId, nextId)
      else do
        let valid ← validInsertPosition getNominalICR d nicr prevId nextId
        if valid then pure (prevId, nextId)
        else
          ascendLoop fuel (d.nodes (d.nodes nextId).prevId).prevId (d.nodes nextId).prevId

def afterTail (startId : Address) : Tx Bool :=
  if d.tail = startId then do
    let startNICR ← getNominalICR startId
    pure (decide (nicr ≤ startNICR))
  else pure false

def ascendList (startId : Address) : Tx (Address × Address) := do
  let after ← afterTail getNominalICR d nicr startId
  if after then pure (startId, 0)
  else ascendLoop getNominalICR d nicr (d.size + 1) (d.nodes startId).prevId startId

/-- The hint `prevId` is dropped when it left the list or has a smaller ratio by now. -/
def checkPrevHint (prevId : Address) : Tx Address :=
  if prevId ≠ 0 then
    if contains d prevId = false then pure 0
    else do
      let prevNICR ← getNominalICR prevId
      if nicr > prevNICR then pure 0 else pure prevId
  else pure prevId

def checkNextHint (nextId : Address) : Tx Address :=
  if nextId ≠ 0 then
    if contains d nextId = false then pure 0
    else do
      let nextNICR ← getNominalICR nextId
      if nicr < nextNICR then pure 0 else pure nextId
  else pure nextId

def findInsertPosition (prevHint nextHint : Address) : Tx (Address × Address) := do
  let prevId ← checkPrevHint getNominalICR d nicr prevHint
  let nextId ← checkNextHint getNominalICR d nicr nextHint
  if prevId = 0 ∧ nextId = 0 then descendList getNominalICR d nicr d.head
  else if prevId = 0 then ascendList getNominalICR d nicr nextId
  else if nextId = 0 then descendList getNominalICR d nicr prevId
  else descendList getNominalICR d nicr prevId

end Positions

section Updates

variable (getNominalICR : Address → Tx ℕ)

/-- The pointer surgery of `insert` at a position already found. -/
def insertAt (d : Data) (id prevId nextId : Address) : Data :=
  let nodes := Function.update d.nodes id { d.nodes id with existing := true }
  let d :=
    if prevId = 0 ∧ nextId = 0 then
      { d with nodes := nodes, head := id, tail := id }
    else if prevId = 0 then
      { d with nodes := setPrevId (setNextId nodes id d.head) d.head id, head := id }
    else if nextId = 0 then
      { d with nodes := setNextId (setPrevId nodes id d.tail) d.tail id, tail := id }
    else
      { d with
        nodes := setPrevId (setNextId (setPrevId (setNextId nodes id nextId) id prevId) prevId id)
          nextId id }
  { d with size := d.size + 1 }

/-- The position used by `insert`: the hints when they are valid, else the one found. -/
def insertPosition (d : Data) (nicr : ℕ) (prevHint nextHint : Address) :
    Tx (Address × Address) := do
  let valid ← validInsertPosition getNominalICR d nicr prevHint nextHint
  if valid then pure (prevHint, nextHint)
  else findInsertPosition getNominalICR d nicr prevHint nextHint

def insert (d : Data) (id : Address) (nicr : ℕ) (prevHint nextHint : Address) : Tx Data := do
  require (isFull d = false) "SortedTroves: List is full"
  require (contains d id = false) "SortedTroves: List already contains the node"
  require (id ≠ 0) "SortedTroves: Id cannot be zero"
  require (nicr > 0) "SortedTroves: NICR must be positive"
  let position ← insertPosition getNominalICR d nicr prevHint nextHint
  pure (insertAt d id position.1 position.2)

/-- The pointer surgery of `remove`, before the node itself is deleted. -/
def unlinkAt (d : Data) (id : Address) : Data :=
  if d.size > 1 then
    if id = d.head then
      let head := (d.nodes id).nextId
      { d with head := head, nodes := setPrevId d.nodes head 0 }
    else if id = d.tail then
      let tail := (d.nodes id).prevId
      { d with tail := tail, nodes := setNextId d.nodes tail 0 }
    else
      let nodes := setNextId d.nodes (d.nodes id).prevId (d.nodes id).nextId
      { d with nodes := setPrevId nodes (nodes id).nextId (nodes id).prevId }
  else { d with head := 0, tail := 0 }

def remove (d : Data) (id : Address) : Tx Data := do
  require (contains d id = true) "SortedTroves: List does not contain the id"
  let d := unlinkAt d id
  let size ← SafeMath.sub d.size 1
  pure { d with nodes := Function.update d.nodes id Node.empty, size := size }

def reInsert (d : Data) (id : Address) (newNICR : ℕ) (prevHint nextHint : Address) : Tx Data := do
  require (contains d id = true) "SortedTroves: List does not contain the id"
  require (newNICR > 0) "SortedTroves: NICR must be positive"
  let d ← remove d id
  insert getNominalICR d id newNICR prevHint nextHint

end Updates

def Data.forward (d : Data) : List Address :=
  walk (fun id => (d.nodes id).nextId) (d.size + 1) d.head

def Data.backward (d : Data) : List Address :=
  walk (fun id => (d.nodes id).prevId) (d.size + 1) d.tail

end Usdd.SortedTroves
