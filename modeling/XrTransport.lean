import XrTransport.Vulkan.Client.Fences
import XrTransport.Vulkan.Semaphores
import XrTransport.Foundation.Survey
import XrTransport.Serialization.RoundTrip
import XrTransport.Serialization.Safety
import XrTransport.Serialization.InPlace
import XrTransport.CodeGeneration.Bindings
import XrTransport.Transport.Release
import XrTransport.Transport.Await
import XrTransport.Transport.Delivery
import XrTransport.Transport.Pairing
import XrTransport.Serialization.Scanning
import XrTransport.Transport.Lifecycle
import XrTransport.Transport.LifecycleLocks
import XrTransport.Transport.StatusOrder
import XrTransport.Transport.Containment
import XrTransport.Transport.GracefulShutdown
import XrTransport.Foundation.Program
import XrTransport.Server.FunctionLoader
import XrTransport.Server.Handlers
import XrTransport.Server.LivePointers
import XrTransport.Server.InstanceState
import XrTransport.Client.InstanceLifecycle
import XrTransport.Transport.Wakeup
import XrTransport.Transport.WakeupSound
import XrTransport.Transport.Handlers
import XrTransport.Transport.MessageLockOut
import XrTransport.Foundation.Dialogue
import XrTransport.Transport.Handshake
import XrTransport.Client.AvailableExtensions
import XrTransport.Vulkan.Server.ReleaseEffects
import XrTransport.Client.PollEvent
import XrTransport.Foundation.Ownership
import XrTransport.Vulkan.Objects
import XrTransport.Vulkan.Client.Registry
import XrTransport.Vulkan.Client.RegistryConsistency
import XrTransport.Vulkan.Client.SwapchainObjects
import XrTransport.Vulkan.Server.Registry
import XrTransport.Vulkan.Server.SwapchainObjects
import XrTransport.Vulkan.ObjectLifetimes
import XrTransport.Vulkan.SwapchainCreation
import XrTransport.Serialization.Truncation
import XrTransport.Server.TruncatedRequests
import XrTransport.Foundation.Paths
import XrTransport.Serialization.Cleanup
import XrTransport.Serialization.CleanupExact
import XrTransport.Serialization.CleanupUnchanged
import XrTransport.Serialization.CleanupReceived
import XrTransport.Client.Synchronization
import XrTransport.Vulkan.Client.RingHistory
import XrTransport.Vulkan.Client.Retry
import XrTransport.Serialization.Filtering
import XrTransport.Serialization.UnknownStructs
import XrTransport.Serialization.XrArrays
import XrTransport.Vulkan.Server.SessionDestruction
import XrTransport.Client.Entry
import XrTransport.CodeGeneration.SpecParser
import XrTransport.CodeGeneration.ExtensionGroups
import XrTransport.CodeGeneration.Partition
import XrTransport.CodeGeneration.FunctionIds
import XrTransport.CodeGeneration.UpdatedTable
import XrTransport.CodeGeneration.IdStability
import XrTransport.CodeGeneration.AccessPaths
import XrTransport.CodeGeneration.BindingRuns
import XrTransport.CodeGeneration.BindingsExact
import XrTransport.Server.Replies
import XrTransport.Client.TwoCall
import XrTransport.Vulkan.Client.LoaderLifetime
import XrTransport.Serialization.Resemblance
import XrTransport.Serialization.Spots
import XrTransport.CodeGeneration.BindingValues
import XrTransport.Client.RemoteCalls
import XrTransport.Client.TimeTranslation
import XrTransport.GfxStream.DuplexStream
import XrTransport.GfxStream.RingBufferThreads
import XrTransport.GfxStream.WriteFully
import XrTransport.GfxStream.SpeculativeRead
import XrTransport.HandleExchange.Handles
import XrTransport.HandleExchange.Connection
import XrTransport.HandleExchange.Sockets
import XrTransport.Server.LoadedModules
import XrTransport.Client.FunctionLayers
import XrTransport.Vulkan.Server.DeviceLifetimes
