/-!
# The calls that can fail

Every device call that can answer with a failure has an `Entrypoint`. A
schedule of failures speaks of calls by their entrypoint and their number.
-/

namespace CopyBench

/-- A device call that can fail. -/
inductive Entrypoint where
  | createCommandPool
  | allocateCommandBuffers
  | beginCommandBuffer
  | endCommandBuffer
  | queueSubmit
  | queueWaitIdle
  | createFence
  | waitForFence
  | createBuffer
  | allocateMemory
  | bindBufferMemory
  | mapMemory
  | nameObject
  | enumerateExtensions
  | enumerateLayers
  | createInstance
  | createMessenger
  | enumerateDevices
  | createDevice
  | deviceWaitIdle
deriving DecidableEq, Repr

namespace Entrypoint

/-- The name by which errors speak of a call. -/
def symbol : Entrypoint → String
  | createCommandPool => "vkCreateCommandPool"
  | allocateCommandBuffers => "vkAllocateCommandBuffers"
  | beginCommandBuffer => "vkBeginCommandBuffer"
  | endCommandBuffer => "vkEndCommandBuffer"
  | queueSubmit => "vkQueueSubmit"
  | queueWaitIdle => "vkQueueWaitIdle"
  | createFence => "vkCreateFence"
  | waitForFence => "vkWaitForFences"
  | createBuffer => "vkCreateBuffer"
  | allocateMemory => "vkAllocateMemory"
  | bindBufferMemory => "vkBindBufferMemory"
  | mapMemory => "vkMapMemory"
  | nameObject => "vkSetDebugUtilsObjectNameEXT"
  | enumerateExtensions => "vkEnumerateInstanceExtensionProperties"
  | enumerateLayers => "vkEnumerateInstanceLayerProperties"
  | createInstance => "vkCreateInstance"
  | createMessenger => "vkCreateDebugUtilsMessengerEXT"
  | enumerateDevices => "vkEnumeratePhysicalDevices"
  | createDevice => "vkCreateDevice"
  | deviceWaitIdle => "vkDeviceWaitIdle"

/-- The word that starts the line of a call in a trace. The calls that bring a
device up go by their symbol. -/
def word : Entrypoint → String
  | createCommandPool => "create_command_pool"
  | allocateCommandBuffers => "allocate_command_buffers"
  | beginCommandBuffer => "begin_command_buffer"
  | endCommandBuffer => "end_command_buffer"
  | queueSubmit => "queue_submit"
  | queueWaitIdle => "queue_wait_idle"
  | createFence => "create_fence"
  | waitForFence => "wait_for_fence"
  | createBuffer => "create_buffer"
  | allocateMemory => "allocate_memory"
  | bindBufferMemory => "bind_buffer_memory"
  | mapMemory => "map_memory"
  | nameObject => "name_object"
  | other => other.symbol

/-- The calls on a device that is up. -/
def ofDevice : List Entrypoint :=
  [createCommandPool, allocateCommandBuffers, beginCommandBuffer, endCommandBuffer, queueSubmit,
   queueWaitIdle, createFence, waitForFence, createBuffer, allocateMemory, bindBufferMemory,
   mapMemory, nameObject]

/-- The calls that bring a device up and take it down. -/
def ofBootstrap : List Entrypoint :=
  [enumerateExtensions, enumerateLayers, createInstance, createMessenger, enumerateDevices,
   createDevice, deviceWaitIdle]

end Entrypoint

end CopyBench
