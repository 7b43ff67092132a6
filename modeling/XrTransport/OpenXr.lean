/-!
# Result codes

The codes of OpenXR and Vulkan calls that the modelled code returns or compares with. Both are
32-bit integers in the C headers; a negative OpenXR code is an error.
-/
namespace XrTransport

/-- `XrResult`: the code an OpenXR function returns. -/
structure XrResult where
  /-- The integer value of the code. -/
  code : Int
deriving DecidableEq, Repr

namespace XrResult

/-- `XR_SUCCESS`. -/
def success : XrResult := ⟨0⟩

/-- `XR_TIMEOUT_EXPIRED`. -/
def timeoutExpired : XrResult := ⟨1⟩

/-- `XR_ERROR_VALIDATION_FAILURE`. -/
def validationFailure : XrResult := ⟨-1⟩

/-- `XR_ERROR_RUNTIME_FAILURE`. -/
def runtimeFailure : XrResult := ⟨-2⟩

/-- `XR_ERROR_API_VERSION_UNSUPPORTED`. -/
def apiVersionUnsupported : XrResult := ⟨-4⟩

/-- `XR_ERROR_INITIALIZATION_FAILED`. -/
def initializationFailed : XrResult := ⟨-6⟩

/-- `XR_ERROR_FUNCTION_UNSUPPORTED`. -/
def functionUnsupported : XrResult := ⟨-7⟩

/-- `XR_ERROR_EXTENSION_NOT_PRESENT`. -/
def extensionNotPresent : XrResult := ⟨-9⟩

/-- `XR_ERROR_LIMIT_REACHED`. -/
def limitReached : XrResult := ⟨-10⟩

/-- `XR_ERROR_SIZE_INSUFFICIENT`. -/
def sizeInsufficient : XrResult := ⟨-11⟩

/-- `XR_ERROR_HANDLE_INVALID`. -/
def handleInvalid : XrResult := ⟨-12⟩

/-- `XR_ERROR_CALL_ORDER_INVALID`. -/
def callOrderInvalid : XrResult := ⟨-37⟩

/-- `XR_ERROR_GRAPHICS_DEVICE_INVALID`. -/
def graphicsDeviceInvalid : XrResult := ⟨-38⟩

/-- `XR_ERROR_GRAPHICS_REQUIREMENTS_CALL_MISSING`. -/
def graphicsRequirementsCallMissing : XrResult := ⟨-50⟩

/-- `XR_SUCCEEDED`: every code that is not negative. -/
def succeeded (result : XrResult) : Bool := decide (0 ≤ result.code)

end XrResult

/-- `VkResult`: the code a Vulkan command returns. -/
structure VkResult where
  /-- The integer value of the code. -/
  code : Int
deriving DecidableEq, Repr

namespace VkResult

/-- `VK_SUCCESS`. -/
def success : VkResult := ⟨0⟩

/-- `VK_TIMEOUT`. -/
def timeout : VkResult := ⟨2⟩

end VkResult

end XrTransport
