/-!
# Result codes of device calls

A device call that fails answers with a code. The common codes have a sentence,
some more have only a symbol, and the rest are shown as the number itself.
-/

namespace CopyBench

/-- The code that a device call answers. -/
structure ResultCode where
  value : Int
deriving DecidableEq, Repr, Inhabited

namespace ResultCode

/-- The call succeeded. -/
def success : ResultCode := ⟨0⟩

/-- The device was lost. -/
def deviceLost : ResultCode := ⟨-4⟩

/-- A memory object could not be mapped. -/
def mapFailed : ResultCode := ⟨-5⟩

/-- The sentences of the common codes. -/
def sentences : List (Int × String) :=
  [(0, "Command completed successfully"),
   (1, "A fence or query has not yet completed"),
   (2, "A wait operation has not completed in the specified time"),
   (3, "An event is signaled"),
   (4, "An event is unsignaled"),
   (5, "A return array was too small for the result"),
   (-1, "A host memory allocation has failed"),
   (-2, "A device memory allocation has failed"),
   (-3, "Initialization of an object has failed"),
   (-4, "The logical device has been lost. See <https://registry.khronos.org/vulkan/specs/1.3-extensions/html/vkspec.html#devsandqueues-lost-device>"),
   (-5, "Mapping of a memory object has failed"),
   (-6, "Layer specified does not exist"),
   (-7, "Extension specified does not exist"),
   (-8, "Requested feature is not available on this device"),
   (-9, "Unable to find a Vulkan driver"),
   (-10, "Too many objects of the type have already been created"),
   (-11, "Requested format is not supported on this device"),
   (-12, "A requested pool allocation has failed due to fragmentation of the pool's memory"),
   (-13, "An unknown error has occurred, due to an implementation or application bug")]

/-- The symbols of the codes that have one. -/
def symbols : List (Int × String) :=
  [(0, "SUCCESS"), (1, "NOT_READY"), (2, "TIMEOUT"), (3, "EVENT_SET"), (4, "EVENT_RESET"),
   (5, "INCOMPLETE"),
   (-1, "ERROR_OUT_OF_HOST_MEMORY"), (-2, "ERROR_OUT_OF_DEVICE_MEMORY"),
   (-3, "ERROR_INITIALIZATION_FAILED"), (-4, "ERROR_DEVICE_LOST"),
   (-5, "ERROR_MEMORY_MAP_FAILED"), (-6, "ERROR_LAYER_NOT_PRESENT"),
   (-7, "ERROR_EXTENSION_NOT_PRESENT"), (-8, "ERROR_FEATURE_NOT_PRESENT"),
   (-9, "ERROR_INCOMPATIBLE_DRIVER"), (-10, "ERROR_TOO_MANY_OBJECTS"),
   (-11, "ERROR_FORMAT_NOT_SUPPORTED"), (-12, "ERROR_FRAGMENTED_POOL"),
   (-13, "ERROR_UNKNOWN"),
   (1000001003, "SUBOPTIMAL_KHR"), (1000297000, "PIPELINE_COMPILE_REQUIRED"),
   (-1000000000, "ERROR_SURFACE_LOST_KHR"), (-1000000001, "ERROR_NATIVE_WINDOW_IN_USE_KHR"),
   (-1000001004, "ERROR_OUT_OF_DATE_KHR"), (-1000003001, "ERROR_INCOMPATIBLE_DISPLAY_KHR"),
   (-1000011001, "ERROR_VALIDATION_FAILED_EXT"), (-1000012000, "ERROR_INVALID_SHADER_NV"),
   (-1000069000, "ERROR_OUT_OF_POOL_MEMORY"), (-1000072003, "ERROR_INVALID_EXTERNAL_HANDLE"),
   (-1000161000, "ERROR_FRAGMENTATION"), (-1000174001, "ERROR_NOT_PERMITTED_KHR"),
   (-1000255000, "ERROR_FULL_SCREEN_EXCLUSIVE_MODE_LOST_EXT"),
   (-1000257000, "ERROR_INVALID_OPAQUE_CAPTURE_ADDRESS")]

/-- The symbol of a code, or its number. -/
def symbol (code : ResultCode) : String :=
  (symbols.lookup code.value).getD (toString code.value)

/-- The sentence of a code, else its symbol, else its number. -/
def describe (code : ResultCode) : String :=
  (sentences.lookup code.value).getD code.symbol

end ResultCode

end CopyBench
