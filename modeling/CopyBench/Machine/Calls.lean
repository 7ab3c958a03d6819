import CopyBench.Machine.Basic
/-!
# Device calls

Each device call is an action on the machine that adds one event to the trace.
A call that can fail answers with an `Except ResultCode`; when the schedule
fails it, it has no other effect than its event.
-/

namespace CopyBench.Machine

/-- Changes the counters. -/
def count (f : Counters → Counters) : Action Machine Unit :=
  modify fun m => { m with counters := f m.counters }

/-- Adds an event to the trace. -/
def record (call : Call) (reply : Reply) : Action Machine Unit :=
  modify fun m => { m with trace := m.trace.push ⟨call, reply⟩ }

/-- A number that no object has had. -/
def fresh : Action Machine Handle := fun m =>
  .ok (m.lastHandle + 1) { m with lastHandle := m.lastHandle + 1 }

/-- Counts a call and asks the schedule for its fate. -/
def nextFault (point : Entrypoint) : Action Machine (Option ResultCode) := fun m =>
  let n := m.callCount point + 1
  .ok (m.schedule point n) { m with calls := m.calls.insert point n }

/-- A call that the schedule can fail. `work` is what it does when it does not,
and `shown` is the reply that the trace keeps then. -/
def invoke {α : Type} (point : Entrypoint) (call : Call) (shown : α → Reply)
    (work : Action Machine (Except ResultCode α)) : Action Machine (Except ResultCode α) := do
  match ← nextFault point with
  | some code =>
    record call (.failed code)
    pure (.error code)
  | none =>
    match ← Action.attempt work with
    | .ok (.ok a) =>
      record call (shown a)
      pure (.ok a)
    | .ok (.error code) =>
      record call (.failed code)
      pure (.error code)
    | .error failure =>
      record call .crashed
      throw failure

/-- A call that makes one object. -/
def make (point : Entrypoint) (call : Call) (keep : Handle → Machine → Machine) :
    Action Machine (Except ResultCode Handle) :=
  invoke point call .handle do
    let handle ← fresh
    modify (keep handle)
    pure (.ok handle)

/-- A call that only changes the machine. -/
def affect (point : Entrypoint) (call : Call) (change : Machine → Machine) :
    Action Machine (Except ResultCode Unit) :=
  invoke point call (fun _ => .done) do
    modify change
    pure (.ok ())

/-- Makes a pool of command buffers. -/
def createCommandPool (family : UInt32) : Action Machine (Except ResultCode Handle) :=
  make .createCommandPool (.createCommandPool family) fun _ m => m

/-- Fresh handles, `n` of them. -/
def freshMany (n : Nat) : Action Machine (List Handle) := fun m =>
  .ok (List.range' (m.lastHandle + 1) n) { m with lastHandle := m.lastHandle + n }

/-- Makes `n` command buffers of a level in a pool. -/
def allocateCommandBuffers (pool : Handle) (level : Int) (n : Nat) :
    Action Machine (Except ResultCode (List Handle)) :=
  invoke .allocateCommandBuffers (.allocateCommandBuffers pool level n) .handles do
    let handles ← freshMany n
    pure (.ok handles)

/-- Destroys a pool and its command buffers. -/
def destroyCommandPool (pool : Handle) (commandBuffers : List Handle) : Action Machine Unit := do
  count fun c => { c with poolsDestroyed := c.poolsDestroyed + 1 }
  record (.destroyCommandPool pool commandBuffers) .done

/-- Beginning a command buffer drops what it had recorded. -/
def beginCommandBuffer (commandBuffer : Handle) (flags : UInt32) :
    Action Machine (Except ResultCode Unit) :=
  affect .beginCommandBuffer (.beginCommandBuffer commandBuffer flags) fun m =>
    { m with
      counters := { m.counters with begins := m.counters.begins + 1 }
      recorded := m.recorded.insert commandBuffer [] }

/-- Ending a command buffer keeps what it has recorded. -/
def endCommandBuffer (commandBuffer : Handle) : Action Machine (Except ResultCode Unit) :=
  affect .endCommandBuffer (.endCommandBuffer commandBuffer) fun m =>
    { m with counters := { m.counters with ends := m.counters.ends + 1 } }

/-- Records a copy at the end of a command buffer. -/
def copyBuffer (commandBuffer source destination : Handle) (region : Region) :
    Action Machine Unit := do
  modify fun m =>
    let earlier := (m.recorded.get? commandBuffer).getD []
    { m with
      recorded := m.recorded.insert commandBuffer (earlier ++ [⟨source, destination, region⟩]) }
  record (.copyBuffer commandBuffer source destination region) .done

/-- Executes a recorded copy. -/
def execute (copy : RecordedCopy) : Action Machine Unit := fun m =>
  match m.copied copy with
  | .ok m => .ok () m
  | .error cause => .error (.panic cause) m

/-- Takes the copies that wait in a command buffer out of it. -/
def takeRecorded (commandBuffer : Handle) : Action Machine (List RecordedCopy) := fun m =>
  match m.recorded.get? commandBuffer with
  | some copies => .ok copies { m with recorded := m.recorded.insert commandBuffer [] }
  | none => .ok [] m

/-- Submits a command buffer, which executes its copies in recording order. -/
def queueSubmit (queue commandBuffer : Handle) (fence : Option Handle) :
    Action Machine (Except ResultCode Unit) :=
  invoke .queueSubmit (.queueSubmit queue commandBuffer fence) (fun _ => .done) do
    let m ← get
    if commandBuffer ∈ m.lostSubmits then
      count fun c => { c with failedSubmits := c.failedSubmits + 1 }
      pure (.error .deviceLost)
    else
      count fun c => { c with submits := c.submits + 1 }
      match fence with
      | none => pure ()
      | some fence =>
        if fence ∈ m.liveFences then
          count fun c => { c with fencedSubmits := c.fencedSubmits + 1 }
        else
          throw (.panic .submitWithDeadFence)
      let copies ← takeRecorded commandBuffer
      copies.forM execute
      pure (.ok ())

/-- Waits until a queue has finished everything. -/
def queueWaitIdle (queue : Handle) : Action Machine (Except ResultCode Unit) :=
  affect .queueWaitIdle (.queueWaitIdle queue) fun m =>
    { m with counters := { m.counters with queueIdles := m.counters.queueIdles + 1 } }

/-- Makes a fence, which is live until it is destroyed. -/
def createFence : Action Machine (Except ResultCode Handle) :=
  make .createFence .createFence fun fence m =>
    { m with
      liveFences := fence :: m.liveFences
      counters := { m.counters with fencesCreated := m.counters.fencesCreated + 1 } }

/-- Waits for a live fence. -/
def waitForFence (fence : Handle) (timeout : UInt64) : Action Machine (Except ResultCode Unit) :=
  invoke .waitForFence (.waitForFence fence timeout) (fun _ => .done) do
    let m ← get
    if fence ∈ m.liveFences then
      pure (if m.lostWaits then .error .deviceLost else .ok ())
    else
      throw (.panic .waitOnDeadFence)

/-- Destroys a fence. -/
def destroyFence (fence : Handle) : Action Machine Unit := do
  modify fun m =>
    { m with
      liveFences := m.liveFences.erase fence
      counters := { m.counters with fencesDestroyed := m.counters.fencesDestroyed + 1 } }
  record (.destroyFence fence) .done

/-- Makes a buffer, which is bound to no memory. -/
def createBuffer (size : UInt64) (usage : UInt32) (sharing : Int) :
    Action Machine (Except ResultCode Handle) :=
  make .createBuffer (.createBuffer size usage sharing) fun buffer m =>
    { m with
      bufferSizes := m.bufferSizes.insert buffer size
      counters := { m.counters with buffersCreated := m.counters.buffersCreated + 1 } }

/-- How much memory a buffer needs, and the memory types it may use. -/
def memoryRequirement (buffer : Handle) : Action Machine (UInt64 × UInt32) := fun m =>
  let size := (m.bufferSizes.get? buffer).getD 0
  .ok (requirement m.profile size, m.profile.typeBits) m

/-- Allocates memory that holds the fresh octet everywhere. -/
def allocateMemory (size : UInt64) (memoryType : Nat) :
    Action Machine (Except ResultCode Handle) :=
  make .allocateMemory (.allocateMemory size memoryType) fun memory m =>
    { m with
      memories := m.memories.insert memory (Bytes.constant size.toNat freshByte)
      counters := { m.counters with allocations := m.counters.allocations + 1 } }

/-- Binds a buffer to a memory. -/
def bindBufferMemory (buffer memory : Handle) : Action Machine (Except ResultCode Unit) :=
  affect .bindBufferMemory (.bindBufferMemory buffer memory) fun m =>
    { m with bindings := m.bindings.insert buffer memory }

/-- Opens a range of a memory for reading and writing. -/
def mapMemory (memory : Handle) (offset size : UInt64) :
    Action Machine (Except ResultCode Unit) :=
  invoke .mapMemory (.mapMemory memory offset size) (fun _ => .done) do
    count fun c => { c with maps := c.maps + 1 }
    let m ← get
    pure (if m.memories.contains memory then .ok () else .error .mapFailed)

/-- Closes the range of a memory that is open. -/
def unmapMemory (memory : Handle) : Action Machine Unit := do
  count fun c => { c with unmaps := c.unmaps + 1 }
  record (.unmapMemory memory) .done

/-- Destroys a buffer; its memory stays. -/
def destroyBuffer (buffer : Handle) : Action Machine Unit := do
  modify fun m =>
    { m with
      bindings := m.bindings.erase buffer
      bufferSizes := m.bufferSizes.erase buffer
      counters := { m.counters with buffersDestroyed := m.counters.buffersDestroyed + 1 } }
  record (.destroyBuffer buffer) .done

/-- Frees a memory. -/
def freeMemory (memory : Handle) : Action Machine Unit := do
  modify fun m =>
    { m with
      memories := m.memories.erase memory
      counters := { m.counters with frees := m.counters.frees + 1 } }
  record (.freeMemory memory) .done

/-- Attaches a name to an object; nothing else depends on it. -/
def nameObject (objectType : UInt32) (handle : Handle) (name : String) :
    Action Machine (Except ResultCode Unit) :=
  affect .nameObject (.nameObject objectType handle name) id

/-- The bytes of a memory that is mapped. -/
def contents (memory : Handle) : Action Machine ByteArray := fun m =>
  .ok ((m.memories.get? memory).getD ByteArray.empty) m

/-- Writes `patch` at `offset` of a memory that is mapped. -/
def overwrite (memory : Handle) (offset : Nat) (patch : ByteArray) : Action Machine Unit :=
  modify fun m =>
    match m.memories.get? memory with
    | some bytes => { m with memories := m.memories.insert memory (Bytes.splice bytes offset patch) }
    | none => m

/-! ## Faults brought about on purpose -/

/-- Adds a rule to the schedule that counts from the calls made so far. -/
def failFromHere (rule : FaultRule) : Action Machine Unit :=
  modify fun m =>
    { m with
      schedule := m.schedule.withRule
        { rule with first := rule.first + m.callCount rule.point } }

/-- Loses the device on every later wait for a fence. -/
def loseWaits : Action Machine Unit := modify fun m => { m with lostWaits := true }

/-- Loses the device on every later submission of a command buffer. -/
def loseSubmitsOf (commandBuffer : Handle) : Action Machine Unit :=
  modify fun m => { m with lostSubmits := commandBuffer :: m.lostSubmits }

end CopyBench.Machine
