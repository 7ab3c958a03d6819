import CopyBench.ResultCode
import CopyBench.Machine.Entrypoint
import CopyBench.Text.Hex
/-!
# The trace of device calls

A `Call` is a device call with its arguments, and an `Event` is a call with the
reply it got. A trace lists the events in the order the calls were made. Each
event has one line of text.
-/

namespace CopyBench

/-- The raw number of a device object; zero names no object. -/
abbrev Handle := Nat

/-- What a copy moves: `size` bytes between two offsets. -/
structure Region where
  sourceOffset : UInt64
  destinationOffset : UInt64
  size : UInt64
deriving DecidableEq, Repr

/-- Which messages a debug messenger wants. -/
structure MessengerMask where
  severity : UInt32
  messageType : UInt32
deriving DecidableEq, Repr

/-- What is asked of the call that creates an instance. -/
structure InstanceRequest where
  applicationName : String
  applicationVersion : UInt32
  engineVersion : UInt32
  apiVersion : UInt32
  /-- Whether devices with a portability layer are to be enumerated too. -/
  portability : Bool
  extensions : List String
  layers : List String
  /-- The messenger chained to the request, which hears the call itself. -/
  messenger : Option MessengerMask
deriving DecidableEq, Repr

/-- A device call with its arguments. -/
inductive Call where
  | createCommandPool (family : UInt32)
  | allocateCommandBuffers (pool : Handle) (level : Int) (count : Nat)
  | destroyCommandPool (pool : Handle) (commandBuffers : List Handle)
  | beginCommandBuffer (commandBuffer : Handle) (flags : UInt32)
  | endCommandBuffer (commandBuffer : Handle)
  | copyBuffer (commandBuffer source destination : Handle) (region : Region)
  | queueSubmit (queue commandBuffer : Handle) (fence : Option Handle)
  | queueWaitIdle (queue : Handle)
  | createFence
  | waitForFence (fence : Handle) (timeout : UInt64)
  | destroyFence (fence : Handle)
  | createBuffer (size : UInt64) (usage : UInt32) (sharing : Int)
  | allocateMemory (size : UInt64) (memoryType : Nat)
  | bindBufferMemory (buffer memory : Handle)
  | mapMemory (memory : Handle) (offset size : UInt64)
  | unmapMemory (memory : Handle)
  | destroyBuffer (buffer : Handle)
  | freeMemory (memory : Handle)
  | nameObject (objectType : UInt32) (handle : Handle) (name : String)
  | createInstance (request : InstanceRequest)
  | createMessenger (mask : MessengerMask)
  | createDevice (physical : Nat) (family : Nat)
  | getDeviceQueue (family : Nat)
  | poolCreationFlags (flags : UInt32)
  | freeCommandBuffers (pool : Handle) (commandBuffers : List Handle)
  | deviceWaitIdle
  | destroyDevice
  | destroyMessenger (messenger : Handle)
  | destroyInstance
deriving DecidableEq, Repr

/-- What a call answered. -/
inductive Reply where
  | done
  | handle (made : Handle)
  | handles (made : List Handle)
  | failed (code : ResultCode)
  /-- The call broke down half way: a copy it should have executed could not be. -/
  | crashed
deriving DecidableEq, Repr

/-- A call and its reply. -/
structure Event where
  call : Call
  reply : Reply
deriving DecidableEq, Repr

namespace Text

/-- Handles in brackets, separated by commas. -/
def handles (hs : List Handle) : String :=
  "[" ++ ",".intercalate (hs.map toString) ++ "]"

/-- Names in brackets, separated by commas. -/
def names (ns : List String) : String := "[" ++ ",".intercalate ns ++ "]"

end Text

open Text Hex in
/-- The text of a call: its word, then its arguments by name. -/
def Call.line : Call → String
  | createCommandPool family => "create_command_pool family=" ++ toString family.toNat
  | allocateCommandBuffers pool level count =>
    "allocate_command_buffers pool=" ++ toString pool ++ " level=" ++ toString level ++
      " count=" ++ toString count
  | destroyCommandPool pool buffers =>
    "destroy_command_pool pool=" ++ toString pool ++ " buffers=" ++ handles buffers
  | beginCommandBuffer buffer flags =>
    "begin_command_buffer cb=" ++ toString buffer ++ " flags=" ++ literal flags.toNat
  | endCommandBuffer buffer => "end_command_buffer cb=" ++ toString buffer
  | copyBuffer buffer source destination region =>
    "cmd_copy_buffer cb=" ++ toString buffer ++ " src=" ++ toString source ++
      " dst=" ++ toString destination ++ " src_offset=" ++ toString region.sourceOffset.toNat ++
      " dst_offset=" ++ toString region.destinationOffset.toNat ++
      " size=" ++ toString region.size.toNat
  | queueSubmit queue buffer fence =>
    "queue_submit queue=" ++ toString queue ++ " cb=" ++ toString buffer ++
      " fence=" ++ toString (fence.getD 0)
  | queueWaitIdle queue => "queue_wait_idle queue=" ++ toString queue
  | createFence => "create_fence"
  | waitForFence fence timeout =>
    "wait_for_fence fence=" ++ toString fence ++ " timeout=" ++ toString timeout.toNat
  | destroyFence fence => "destroy_fence fence=" ++ toString fence
  | createBuffer size usage sharing =>
    "create_buffer size=" ++ toString size.toNat ++ " usage=" ++ literal usage.toNat ++
      " sharing=" ++ toString sharing
  | allocateMemory size memoryType =>
    "allocate_memory size=" ++ toString size.toNat ++ " type=" ++ toString memoryType
  | bindBufferMemory buffer memory =>
    "bind_buffer_memory buffer=" ++ toString buffer ++ " memory=" ++ toString memory
  | mapMemory memory offset size =>
    "map_memory memory=" ++ toString memory ++ " offset=" ++ toString offset.toNat ++
      " size=" ++ toString size.toNat
  | unmapMemory memory => "unmap_memory memory=" ++ toString memory
  | destroyBuffer buffer => "destroy_buffer buffer=" ++ toString buffer
  | freeMemory memory => "free_memory memory=" ++ toString memory
  | nameObject objectType handle name =>
    "name_object type=" ++ toString objectType.toNat ++ " handle=" ++ toString handle ++
      " name=" ++ name
  | createInstance r =>
    "vkCreateInstance app=" ++ r.applicationName ++
      " app_version=" ++ literal r.applicationVersion.toNat ++
      " engine_version=" ++ literal r.engineVersion.toNat ++
      " api=" ++ literal r.apiVersion.toNat ++
      " flags=" ++ literal (if r.portability then 1 else 0) ++
      " extensions=" ++ names r.extensions ++ " layers=" ++ names r.layers ++
      " debug=" ++ (match r.messenger with
        | none => "none"
        | some mask => literal mask.severity.toNat ++ "/" ++ literal mask.messageType.toNat)
  | createMessenger mask =>
    "vkCreateDebugUtilsMessengerEXT severity=" ++ literal mask.severity.toNat ++
      " type=" ++ literal mask.messageType.toNat ++ " flags=0x0"
  | createDevice physical family =>
    "vkCreateDevice physical=" ++ toString physical ++ " queues=" ++ toString family ++ ":[1.0]"
  | getDeviceQueue family => "vkGetDeviceQueue family=" ++ toString family ++ " index=0"
  | poolCreationFlags flags => "vkCreateCommandPool flags=" ++ literal flags.toNat
  | freeCommandBuffers pool buffers =>
    "vkFreeCommandBuffers pool=" ++ toString pool ++ " buffers=" ++ handles buffers
  | deviceWaitIdle => "vkDeviceWaitIdle"
  | destroyDevice => "vkDestroyDevice"
  | destroyMessenger messenger => "vkDestroyDebugUtilsMessengerEXT " ++ toString messenger
  | destroyInstance => "vkDestroyInstance"

/-- The text after a call: what it made, or the code it failed with. -/
def Reply.suffixText : Reply → String
  | done => ""
  | handle made => " -> " ++ toString made
  | handles made => " -> " ++ Text.handles made
  | failed code => " !" ++ toString code.value
  | crashed => ""

/-- The line of an event. -/
def Event.line (event : Event) : String := event.call.line ++ event.reply.suffixText

end CopyBench
